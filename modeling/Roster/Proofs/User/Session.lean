import Roster.User.Session
import Roster.Proofs.Password
import Roster.Proofs.Token.Issued
import Roster.Proofs.User.Names
import Mathlib.Tactic

/-!
# Whom a token is taken for

A login finds a user in any case, and the token that it answers with holds the username of that
user, or without one the email.  Whoever makes a request with the token is then looked for by this
text exactly as written, first among the usernames of all users.  So the token is taken for another
user when one has the text as a username and is looked at first.  A username in ASCII is never
shadowed in this way, but an email is, since nothing keeps it from being registered as a username.
-/

namespace Roster

open Outcome

theorem Cell.same_text (a b : String) : (Cell.text a).same (.text b) = decide (a = b) := by
  unfold Cell.same
  simp [Cell.compare?]

/-! ## The first row -/

theorem find?_eq_self_iff
    {p : User → Bool} {rows : List User} {user : User} (huser : user ∈ rows)
    (hp : p user = true) :
    rows.find? p = some user ↔ ∀ other ∈ rows.takeWhile (· ≠ user), p other = false := by
  induction rows with
  | nil => cases huser
  | cons row rest ih =>
      by_cases hrow : row = user
      · subst row
        simp [hp]
      · have hrest : user ∈ rest := by
          rcases List.mem_cons.mp huser with heq | hmem
          · exact absurd heq.symm hrow
          · exact hmem
        cases hfirst : p row with
        | true => simp [hfirst, hrow]
        | false => simpa [hfirst, hrow] using ih hrest

namespace User

/-- Another row has the login name of the user as its username and is looked at first: any row if
the user has no username, else a row in front of the user's. -/
def Shadowed (rows : List User) (user : User) : Prop :=
  ∃ other ∈ if user.username = "" then rows else rows.takeWhile (· ≠ user),
    other.username = user.loginName

theorem loginName_of_ne {user : User} (husername : user.username ≠ "") :
    user.loginName = user.username := by
  unfold loginName
  rw [if_neg (by simpa using husername)]

theorem loginName_of_eq {user : User} (husername : user.username = "") :
    user.loginName = user.email := by
  unfold loginName
  rw [if_pos (by simpa using husername)]

theorem loginName_ne_empty
    {user : User} {column : LoginColumn} (hname : column.of user ≠ "") :
    user.loginName ≠ "" := by
  by_cases husername : user.username = ""
  · rw [loginName_of_eq husername]
    cases column with
    | username => exact absurd husername hname
    | email => exact hname
  · rw [loginName_of_ne husername]
    exact husername

theorem Fits.verify
    {service : Service} {credentials : Credentials} {user : User}
    (hfits : user.Fits service credentials)
    (hsalt : ∀ count, (service.salt count).length ≤ Password.maxSaltSize)
    (hstretch : ∀ plain salt rounds,
      (service.signer.crypto.stretch plain salt rounds).length = Password.checksumSize) :
    Password.verify service.signer.crypto credentials.password user.password = .ok true := by
  obtain ⟨count, hhash⟩ := hfits.password
  exact Password.verify_hash (hsalt count) hstretch hhash

end User

namespace Users

open Call

variable {service : Service} {state after : State} {users : Table User} {user : User}
  {name token : String} {variant : MacVariant} {issued now : Moment}

/-! ## What a login finds -/

/-- A user who is found by a name is the first one to have exactly the stored name. -/
theorem first_of_named?
    {column : LoginColumn} {wanted : LooseText}
    (hfound : named? column wanted users = .ok (some user)) :
    .select ∉ users.failing ∧ user ∈ users.rows ∧ column.of user ≠ "" ∧
      users.rows.find? (fun row => column.of row = column.of user) = some user := by
  unfold named? at hfound
  split at hfound
  next hempty => cases hfound
  next hempty =>
    obtain ⟨hselect, folded, hfolded, hfind⟩ := Table.findName?_eq_ok_iff.mp hfound
    have hnonempty : folded ≠ "" := by
      rintro rfl
      have hnil := (LooseText.lowerRuns_eq_nil hfolded).2
      rw [hnil] at hempty
      exact hempty rfl
    have huser : asciiLower (column.of user) = folded := by
      simpa [LoginColumn.text?_cell] using List.find?_some hfind
    refine ⟨hselect, List.mem_of_find?_eq_some hfind, ?_, ?_⟩
    · intro hname
      apply hnonempty
      rw [← huser, hname]
      rfl
    · obtain ⟨_, front, back, hrows, hfront⟩ := List.find?_eq_some_iff_append.mp hfind
      rw [List.find?_eq_some_iff_append]
      refine ⟨by simp, front, back, hrows, ?_⟩
      intro row hrow
      have hother := hfront row hrow
      simp only [LoginColumn.text?_cell, Option.map_some, Option.some.injEq, Bool.not_eq_true',
        decide_eq_false_iff_not] at hother ⊢
      intro hsame
      apply hother
      rw [hsame, huser]

theorem first_of_named
    {credentials : Credentials} (hfound : named credentials users = .ok (some user)) :
    ∃ column : LoginColumn, .select ∉ users.failing ∧ user ∈ users.rows ∧
      column.of user ≠ "" ∧
        users.rows.find? (fun row => column.of row = column.of user) = some user := by
  unfold named at hfound
  obtain ⟨byUsername, husername, hrest⟩ := bind_eq_ok_iff.mp hfound
  cases byUsername with
  | some found =>
      cases pure_eq_ok_iff.mp hrest
      exact ⟨.username, first_of_named? husername⟩
  | none => exact ⟨.email, first_of_named? hrest⟩

/-! ## Whom a name leads to -/

/-- The user whom an exact name leads to, by username first and then by email. -/
def bearer? (name : String) (rows : List User) : Option User :=
  (rows.find? fun user => LoginColumn.username.of user = name).or
    (rows.find? fun user => LoginColumn.email.of user = name)

theorem findCell?_loginColumn
    (column : LoginColumn) (name : String) (hselect : .select ∉ users.failing) :
    users.findCell? column.cell (.text name) =
      .ok (users.rows.find? fun user => column.of user = name) := by
  have hsame : (fun row => if (Cell.text name).isNull then (column.cell row).isNull
      else (column.cell row).same (.text name)) = fun row => decide (column.of row = name) := by
    funext row
    cases column with
    | username => exact Cell.same_text row.username name
    | email => exact Cell.same_text row.email name
  rw [Table.findCell?_eq_ok_iff, hsame]
  exact ⟨hselect, rfl, rfl⟩

theorem holder?_ofString (name : String) (hselect : .select ∉ users.failing) :
    holder? (LooseText.ofString name) users = .ok (bearer? name users.rows) := by
  have hbind : users.bindText (LooseText.ofString name) = .ok name := by
    unfold Table.bindText
    refine bind_eq_ok_iff.mpr ⟨(), Table.attempt_eq_ok_iff.mpr hselect, ?_⟩
    rw [LooseText.encode_ofString]
    rfl
  have husername := findCell?_loginColumn .username name hselect
  have hemail := findCell?_loginColumn .email name hselect
  unfold holder? bearer?
  simp only [hbind, ok_bind, husername, hemail]
  cases users.rows.find? (fun user => LoginColumn.username.of user = name) with
  | none => rfl
  | some user => rfl

/-- Whoever a token names, a request with it is made by the one that the name leads to. -/
theorem after_current
    (hcheck : service.signer.check token now = .ok ⟨LooseText.ofString name, token⟩)
    (hselect : .select ∉ state.users.failing) :
    (current service now (some token)).after state =
      match bearer? name state.users.rows with
      | some user => (.ok user, state)
      | none => (.error (.refused (.unauthenticated .unknownUser)), state) := by
  unfold current
  simp only [hcheck, after_bind, after_get, holder?_ofString name hselect]
  cases bearer? name state.users.rows with
  | some user => rfl
  | none => rfl

/-- The login name of a user who was found leads to somebody, and to the user exactly when no
other one is in the way. -/
theorem bearer?_loginName
    {column : LoginColumn} {rows : List User} (huser : user ∈ rows)
    (hname : column.of user ≠ "")
    (hfirst : rows.find? (fun row => column.of row = column.of user) = some user) :
    ∃ bearer ∈ rows, bearer? user.loginName rows = some bearer ∧
      (bearer = user ↔ ¬ user.Shadowed rows) := by
  unfold bearer? User.Shadowed
  by_cases husername : user.username = ""
  · -- such a user is found by email, and any username is looked at before
    have hemail : column = .email := by
      cases column with
      | username => exact absurd husername hname
      | email => rfl
    subst column
    rw [User.loginName_of_eq husername, if_pos husername]
    cases hfind : rows.find? (fun row => LoginColumn.username.of row = user.email) with
    | some other =>
        have hfound := List.find?_some hfind
        have hother : other.username = user.email := of_decide_eq_true hfound
        have hmem := List.mem_of_find?_eq_some hfind
        refine ⟨other, hmem, rfl, ?_⟩
        constructor
        · rintro rfl
          exact absurd (hother.symm.trans husername) hname
        · intro hfree
          exact absurd ⟨other, hmem, hother⟩ hfree
    | none =>
        refine ⟨user, huser, hfirst, ?_⟩
        simp only [true_iff]
        rintro ⟨other, hmem, hother⟩
        have hnone := List.find?_eq_none.mp hfind other hmem
        exact hnone (decide_eq_true hother)
  · rw [User.loginName_of_ne husername, if_neg husername]
    have hself := find?_eq_self_iff (p := fun row => LoginColumn.username.of row = user.username)
      huser (decide_eq_true rfl)
    cases hfind : rows.find? (fun row => LoginColumn.username.of row = user.username) with
    | some bearer =>
        rw [hfind] at hself
        refine ⟨bearer, List.mem_of_find?_eq_some hfind, rfl, ?_⟩
        rw [← Option.some.injEq, hself]
        simp only [decide_eq_false_iff_not, not_exists, not_and]
        exact Iff.rfl
    | none =>
        have hnone := List.find?_eq_none.mp hfind user huser
        exact absurd (decide_eq_true rfl) hnone

/-- A username that folds in ASCII is looked for in vain in front of its row. -/
theorem Reachable.not_shadowed
    (hreach : Reachable service state) (huser : user ∈ state.users.rows)
    (husername : user.username ≠ "") (hfolds : FoldsInAscii user.username) :
    ¬ user.Shadowed state.users.rows := by
  unfold User.Shadowed
  rw [if_neg husername, User.loginName_of_ne husername]
  rintro ⟨other, hother, hsame⟩
  have hmem := (List.takeWhile_prefix _).subset hother
  have hdiffer : other ≠ user := by
    simpa using List.mem_takeWhile_imp hother
  have hids : other.id ≠ user.id := by
    intro hid
    exact hdiffer (List.inj_on_of_nodup_map hreach.ids_nodup hmem huser hid)
  apply hreach.consistent.no_clash other hmem user huser hids .username
  change Clash other.username user.username
  rw [hsame]
  exact ⟨husername, husername, rfl, hfolds, hfolds⟩

/-! ## Logging in after a registration -/

theorem named_only
    {column : LoginColumn} (hname : name ≠ "") (hselect : .select ∉ users.failing) :
    named (column.only name) users =
      .ok (users.rows.find? fun user => asciiLower (column.of user) = lower name) := by
  have hnamed : named? column (LooseText.ofString name) users =
      .ok (users.rows.find? fun user => asciiLower (column.of user) = lower name) :=
    (named?_eq_ok_iff hname).mpr ⟨hselect, rfl⟩
  unfold named
  cases column with
  | username =>
      simp only [LoginColumn.only, hnamed, ok_bind]
      cases users.rows.find? (fun user => asciiLower (LoginColumn.username.of user) =
          lower name) with
      | none => rfl
      | some user => rfl
  | email => exact hnamed

theorem login_plain
    {column : LoginColumn} (hname : name ≠ "") (hselect : .select ∉ state.users.failing)
    (hfits : user.Fits .plain (column.only name))
    (hfind : state.users.rows.find? (fun row => asciiLower (column.of row) = lower name) =
      some user) :
    ∃ token, Service.plain.signer.issue user.loginName 0 = .ok token ∧
      (login .plain 0 (column.only name)).after state =
        (.ok ⟨user.loginName, token⟩, state) := by
  have hfound : named (column.only name) state.users = .ok (some user) := by
    rw [named_only hname hselect, hfind]
  have hverify := hfits.verify (fun _ => Nat.zero_le _) Password.length_stretch_standard
  have halgorithm : Algorithm.ofName Service.plain.signer.algorithm = .mac .hs256 := rfl
  have hkey : macKey Service.plain.signer.secret = .ok (utf8 "secret") := by
    decide +kernel
  have hexpiry : Service.plain.signer.expiry 0 = .ok 3600 := rfl
  obtain ⟨token, hissue⟩ := Signer.issue_total user.loginName halgorithm hkey hexpiry
  exact ⟨token, hissue, login_total hfound hverify hissue⟩

theorem register_email_then_username
    (service : Service) (hadmits : LoginColumn.email.Admits name) :
    ∃ first second state, Reachable service state ∧
      state.users = { rows := [first, second] } ∧
      first.Fits service (LoginColumn.email.only name) ∧
      second.Fits service (LoginColumn.username.only name) ∧ first.id ≠ second.id := by
  have husername : LoginColumn.username.Admits name := by
    refine ⟨hadmits.1, ?_⟩
    intro hcolumn
    cases hcolumn
  apply register_two service hadmits husername
  intro user hfits
  have hnone : LoginColumn.username.of user = "" :=
    LooseText.ofString_inj.mp hfits.username.symm
  rw [hnone]
  exact (lower_ne_empty hadmits.1).symm

theorem email_admits_only : LoginColumn.email.Admits "only@example.com" :=
  ⟨by decide, fun _ => rfl⟩

theorem only_folds : FoldsInAscii "only@example.com" := by
  decide +kernel

/-! ## Tokens name users -/

/-- While a token lives, a request with it is made by some user, and by the one who logged in
exactly when no other user shadows that one. -/
theorem login_token_names_user_iff
    {credentials : Credentials} {answer : LoginAnswer} (hreach : Reachable service state)
    (halgorithm : Algorithm.ofName service.signer.algorithm = .mac variant)
    (hlogin : (login service issued credentials).after state = (.ok answer, after))
    (hstart : issued.written ≤ now.second)
    (hend : now.second < (service.signer.deadline issued).written) :
    ∃ user ∈ state.users.rows, ∃ bearer ∈ state.users.rows,
      named credentials state.users = .ok (some user) ∧
        Password.verify service.signer.crypto credentials.password user.password = .ok true ∧
        after = state ∧
        (current service now (some answer.token)).after after = (.ok bearer, after) ∧
        (bearer.id = user.id ↔ ¬ user.Shadowed state.users.rows) := by
  obtain ⟨user, hfound, hverify, _, hissue, rfl⟩ := login_ok hlogin
  obtain ⟨column, hselect, huser, hname, hfirst⟩ := first_of_named hfound
  obtain ⟨bearer, hbearer, hleads, hsame⟩ := bearer?_loginName huser hname hfirst
  have hcheck : service.signer.check answer.token now =
      .ok ⟨LooseText.ofString user.loginName, answer.token⟩ := by
    rw [Signer.check_issued halgorithm (User.loginName_ne_empty hname) hissue,
      if_neg (Int.not_lt.mpr hstart), if_neg (Int.not_le.mpr hend)]
  have hcurrent := after_current hcheck hselect
  rw [hleads] at hcurrent
  refine ⟨user, huser, bearer, hbearer, hfound, hverify, rfl, hcurrent, ?_⟩
  rw [← hsame]
  constructor
  · intro hid
    exact List.inj_on_of_nodup_map hreach.ids_nodup hbearer huser hid
  · rintro rfl
    rfl

theorem login_token_names_user_iff_registered :
    ∃ state user answer, Reachable .plain state ∧
      (login .plain 0 (LoginColumn.email.only "only@example.com")).after state =
          (.ok answer, state) ∧
        user ∈ state.users.rows ∧
        (current .plain 0 (some answer.token)).after state = (.ok user, state) := by
  have hempty : Reachable .plain {} := .empty
  obtain ⟨user, state, hreach, hfits, _, husers, _⟩ :=
    hempty.register email_admits_only rfl (by simp) (by simp)
  have hselect : .select ∉ state.users.failing := by
    rw [husers]
    exact List.not_mem_nil
  have hfind : state.users.rows.find? (fun row =>
      asciiLower (LoginColumn.email.of row) = lower "only@example.com") = some user := by
    have hfolded : asciiLower (LoginColumn.email.of user) = lower "only@example.com" := by
      rw [hfits.of_only]
      exact only_folds
    simp [husers, hfolded]
  obtain ⟨token, _, hlogin⟩ := login_plain (by decide) hselect hfits hfind
  have hstart : (0 : Moment).written ≤ (0 : Moment).second := by decide +kernel
  have hend : (0 : Moment).second < (Service.plain.signer.deadline 0).written := by
    decide +kernel
  obtain ⟨_, _, bearer, hbearer, _, _, _, hcurrent, _⟩ :=
    login_token_names_user_iff hreach rfl hlogin hstart hend
  have hsame : bearer = user := by
    simpa [husers] using hbearer
  rw [hsame] at hcurrent
  exact ⟨state, user, _, hreach, hlogin, by simp [husers], hcurrent⟩

/-- A user without a username loses every token to whoever registers the email as a username. -/
theorem email_as_username_takes_token :
    ¬ ∀ state, Reachable .plain state → ∀ credentials answer after user,
      (login .plain 0 credentials).after state = (.ok answer, after) →
        named credentials state.users = .ok (some user) →
          ∃ bearer, (current .plain 0 (some answer.token)).after after = (.ok bearer, after) ∧
            bearer.id = user.id := by
  intro hnames
  obtain ⟨first, second, state, hreach, husers, hfirst, hsecond, hids⟩ :=
    register_email_then_username .plain email_admits_only
  have hselect : .select ∉ state.users.failing := by
    rw [husers]
    exact List.not_mem_nil
  have hemail := hfirst.of_only
  have hfind : state.users.rows.find? (fun row =>
      asciiLower (LoginColumn.email.of row) = lower "only@example.com") = some first := by
    have hfolded : asciiLower (LoginColumn.email.of first) = lower "only@example.com" := by
      rw [hemail]
      exact only_folds
    simp [husers, hfolded]
  have hnone : first.username = "" := LooseText.ofString_inj.mp hfirst.username.symm
  have hloginName : first.loginName = "only@example.com" :=
    (User.loginName_of_eq hnone).trans hemail
  obtain ⟨token, hissue, hlogin⟩ := login_plain (by decide) hselect hfirst hfind
  have hcheck : Service.plain.signer.check token 0 =
      .ok ⟨LooseText.ofString first.loginName, token⟩ := by
    have halgorithm : Algorithm.ofName Service.plain.signer.algorithm = .mac .hs256 := rfl
    rw [Signer.check_issued halgorithm (by rw [hloginName]; decide) hissue,
      if_neg (by decide +kernel), if_neg (by decide +kernel)]
  have hleads : bearer? first.loginName state.users.rows = some second := by
    have husername : LoginColumn.username.of first ≠ "only@example.com" := by
      change first.username ≠ _
      rw [hnone]
      decide
    unfold bearer?
    simp [hloginName, husers, husername, hsecond.of_only]
  have hcurrent := after_current hcheck hselect
  rw [hleads] at hcurrent
  have hfound : named (LoginColumn.email.only "only@example.com") state.users =
      .ok (some first) := by
    rw [named_only (by decide) hselect, hfind]
  obtain ⟨bearer, hbearer, hid⟩ := hnames state hreach _ _ _ first hlogin hfound
  have hsame := hcurrent.symm.trans hbearer
  cases (Prod.mk.inj hsame).1
  exact hids hid.symm

end Users
end Roster
