import Roster.Proofs.Token.Lifetime
import Roster.Proofs.User.Session
import Mathlib.Tactic

/-!
# Logging in after a registration

A registration passes only when the lookup finds nobody under the new names, so a login with the
same names can find nobody but the new user.  Whether it does find the new user is another matter:
the lookup folds the stored name in ASCII and the wanted one in full, and a name on which the two
differ is not even found by itself.  A user is known to the login exactly when one of the two
names folds in ASCII.
-/

namespace Roster

open Outcome

namespace User

/-- The lookup in the column finds the user under the user's own name. -/
def SeenIn (column : LoginColumn) (user : User) : Prop :=
  column.of user ≠ "" ∧ FoldsInAscii (column.of user)

instance (column : LoginColumn) (user : User) : Decidable (user.SeenIn column) :=
  inferInstanceAs (Decidable (_ ∧ _))

def Findable (user : User) : Prop :=
  user.SeenIn .username ∨ user.SeenIn .email

instance (user : User) : Decidable user.Findable :=
  inferInstanceAs (Decidable (_ ∨ _))

/-- Nobody else is found under a name of the user. -/
def Alone (rows : List User) (user : User) : Prop :=
  ∀ row ∈ rows, row ≠ user → ∀ column : LoginColumn, column.of user ≠ "" →
    asciiLower (column.of row) ≠ lower (column.of user)

end User

namespace Users

open Call

variable {service : Service} {state after : State} {users : Table User} {user : User}
  {credentials : Credentials} {view : UserView}

/-! ## Whom the lookup finds -/

/-- The lookup finds nobody under names that count as free. -/
theorem ne_of_free
    (hfits : user.Fits service credentials)
    (hfree : takenColumn? credentials none users = .ok none) {column : LoginColumn}
    (hname : column.of user ≠ "") {old : User} (hold : old ∈ users.rows) :
    asciiLower (column.of old) ≠ lower (column.of user) := by
  intro hfound
  have hcolumn := takenColumn?_eq_none_iff.mp hfree column
  rw [hfits.ofCredentials column] at hcolumn
  obtain ⟨_, _, _, hown⟩ := own_of_isTaken_eq_false hname hcolumn hold hfound
  cases hown

theorem named?_of_alone
    (hselect : .select ∉ users.failing) (huser : user ∈ users.rows)
    (halone : user.Alone users.rows) (column : LoginColumn) :
    named? column (LooseText.ofString (column.of user)) users =
      .ok (if user.SeenIn column then some user else none) := by
  by_cases hname : column.of user = ""
  · have hunseen : ¬ user.SeenIn column := fun hseen => hseen.1 hname
    rw [if_neg hunseen, hname]
    rfl
  · refine (named?_eq_ok_iff hname).mpr ⟨hselect, ?_⟩
    by_cases hfolds : FoldsInAscii (column.of user)
    · rw [if_pos ⟨hname, hfolds⟩]
      cases hfind : users.rows.find? fun row =>
          asciiLower (column.of row) = lower (column.of user) with
      | none =>
          have hnone := List.find?_eq_none.mp hfind user huser
          exact absurd (decide_eq_true hfolds) hnone
      | some found =>
          have hfound : asciiLower (column.of found) = lower (column.of user) := by
            simpa using List.find?_some hfind
          have hmem := List.mem_of_find?_eq_some hfind
          by_contra hother
          exact halone found hmem (fun hsame => hother (congrArg some hsame)) column hname hfound
    · have hunseen : ¬ user.SeenIn column := fun hseen => hfolds hseen.2
      rw [if_neg hunseen, List.find?_eq_none]
      intro row hrow
      rw [decide_eq_true_eq]
      by_cases hsame : row = user
      · rw [hsame]
        exact hfolds
      · exact halone row hrow hsame column hname

/-- With the credentials of a user whose names nobody else answers to, a login finds that user or
nobody. -/
theorem named_of_alone
    (hselect : .select ∉ users.failing) (huser : user ∈ users.rows)
    (halone : user.Alone users.rows) (hfits : user.Fits service credentials) :
    named credentials users = .ok (if user.Findable then some user else none) := by
  have husername := named?_of_alone hselect huser halone .username
  have hemail := named?_of_alone hselect huser halone .email
  change named? .username (LooseText.ofString user.username) users = _ at husername
  change named? .email (LooseText.ofString user.email) users = _ at hemail
  unfold named
  rw [hfits.username, hfits.email, husername, ok_bind, hemail]
  by_cases hseen : user.SeenIn .username
  · have hfindable : user.Findable := .inl hseen
    rw [if_pos hseen, if_pos hfindable]
    rfl
  · have hfindable : user.Findable ↔ user.SeenIn .email := or_iff_right hseen
    simp only [if_neg hseen, hfindable]

/-! ## What a registration leaves -/

/-- The new user is stored as shown, and is alone with the new names. -/
theorem created_alone
    (hids : (state.users.rows.map User.id).Nodup)
    (hcreate : (create service credentials).after state = (.ok view, after)) :
    ∃ user ∈ after.users.rows, user.view = view ∧ user.Fits service credentials ∧
      user.Alone after.users.rows := by
  obtain ⟨user, stored, users, hfree, hfits, _, hput, rfl, rfl⟩ := create_ok hcreate
  obtain ⟨rfl, _, hmem⟩ := Table.accepted_of_put hput
  obtain ⟨_, _, hrows⟩ := Table.rows_of_put hids hput
  refine ⟨stored, hmem, rfl, hfits, ?_⟩
  intro row hrow hother column hname
  have hold : row ∈ state.users.rows := by
    rcases hrows with ⟨_, hrows⟩ | ⟨_, hrows⟩
    · rw [hrows] at hrow
      rcases List.mem_append.mp hrow with hrow | hrow
      · exact hrow
      · exact absurd (List.mem_singleton.mp hrow) hother
    · rw [hrows] at hrow
      rcases Table.mem_overwrite hrow with hsame | ⟨hrow, _⟩
      · exact absurd hsame hother
      · exact hrow
  exact ne_of_free hfits hfree hname hold

theorem login_unknown {now : Moment} (hfound : named credentials state.users = .ok none) :
    (login service now credentials).after state = (.error (.refused .unknownLogin), state) := by
  unfold login
  simp only [after_bind, after_ask, Shelf.users_table, hfound]
  rfl

/-! ## Logging in with the names of a registration -/

/-- Whoever was registered logs in with the same credentials exactly when one of the two names
folds in ASCII; no other user is ever taken for the new one. -/
theorem registered_logs_in_iff_findable
    {failing : List Statement} {variant : MacVariant} {key : Bytes} {now : Moment}
    (hreach : Reachable service state)
    (hcreate : (create service credentials).after state = (.ok view, after))
    (hselect : .select ∉ failing)
    (halgorithm : Algorithm.ofName service.signer.algorithm = .mac variant)
    (hkey : macKey service.signer.secret = .ok key)
    (hnow : Signer.InCalendar now) (hdeadline : Signer.InCalendar (service.signer.deadline now))
    (hsalt : ∀ count, (service.salt count).length ≤ Password.maxSaltSize)
    (hstretch : ∀ plain salt rounds,
      (service.signer.crypto.stretch plain salt rounds).length = Password.checksumSize) :
    let store := after.withFailing failing
    ∃ user ∈ store.users.rows, user.view = view ∧
      (user.Findable →
        named credentials store.users = .ok (some user) ∧
          ∃ token, service.signer.issue user.loginName now = .ok token ∧
            (login service now credentials).after store =
              (.ok ⟨user.loginName, token⟩, store)) ∧
      (¬ user.Findable →
        (login service now credentials).after store =
          (.error (.refused .unknownLogin), store)) := by
  intro store
  obtain ⟨user, huser, hview, hfits, halone⟩ := created_alone hreach.ids_nodup hcreate
  have hnamed : named credentials store.users =
      .ok (if user.Findable then some user else none) :=
    named_of_alone hselect huser halone hfits
  refine ⟨user, huser, hview, ?_, ?_⟩
  · intro hfindable
    rw [if_pos hfindable] at hnamed
    have hverify := hfits.verify hsalt hstretch
    obtain ⟨token, hissue⟩ := Signer.issue_total user.loginName halgorithm hkey
      (Signer.expiry_of_inCalendar hnow hdeadline)
    exact ⟨hnamed, token, hissue, login_total hnamed hverify hissue⟩
  · intro hunfindable
    rw [if_neg hunfindable] at hnamed
    exact login_unknown hnamed

theorem registered_logs_in_iff_findable_ada :
    ∃ (view : UserView) (after : State) (token : String),
      (create .plain (LoginColumn.username.only "Ada")).after {} = (.ok view, after) ∧
        (login .plain 0 (LoginColumn.username.only "Ada")).after (after.withFailing []) =
          (.ok ⟨"Ada", token⟩, after.withFailing []) := by
  have hkey : macKey Service.plain.signer.secret = .ok (utf8 "secret") := by
    decide +kernel
  have hdeadline : Signer.InCalendar (Service.plain.signer.deadline 0) := by
    decide
  have hselect : Statement.select ∉ ([] : List Statement) := List.not_mem_nil
  obtain ⟨ada, hfits, _, hcreate⟩ :=
    create_only .plain {} .username (show "Ada" ≠ "" by decide) rfl (by simp) (by simp)
  obtain ⟨user, huser, _, hlogin, _⟩ := registered_logs_in_iff_findable .empty hcreate hselect
    rfl hkey (by decide) hdeadline (fun _ => Nat.zero_le _) Password.length_stretch_standard
  obtain rfl : user = ada := by
    simpa [State.withFailing] using huser
  have husername : user.username = "Ada" := hfits.of_only
  have hfindable : user.Findable := by
    left
    change user.username ≠ "" ∧ FoldsInAscii user.username
    rw [husername]
    decide +kernel
  have hname : user.loginName = "Ada" := by
    rw [User.loginName_of_ne (by rw [husername]; decide), husername]
  obtain ⟨_, token, _, hanswer⟩ := hlogin hfindable
  rw [hname] at hanswer
  exact ⟨user.view, _, token, hcreate, hanswer⟩

/-- A capital letter with an accent can be registered as a username, but not be logged in with. -/
theorem accented_username_cannot_log_in :
    ¬ ∀ state, Reachable .plain state → ∀ credentials view after, credentials.Accepted →
      (create .plain credentials).after state = (.ok view, after) →
        ∃ answer, (login .plain 0 credentials).after (after.withFailing []) =
          (.ok answer, after.withFailing []) := by
  intro hlogin
  have hadmits : LoginColumn.username.Admits "É" := by
    refine ⟨by decide, ?_⟩
    intro hcolumn
    cases hcolumn
  have hfolds : ¬ FoldsInAscii "É" := by
    decide +kernel
  obtain ⟨user, hfits, _, hcreate⟩ :=
    create_only .plain {} .username hadmits.1 rfl (by simp) (by simp)
  obtain ⟨answer, hanswer⟩ := hlogin {} .empty _ _ _ hadmits.accepted hcreate
  generalize hstore : State.withFailing _ [] = store at hanswer
  have husers : store.users = { rows := [user] } := by
    rw [← hstore]
    rfl
  have hselect : .select ∉ store.users.failing := by
    rw [husers]
    exact List.not_mem_nil
  have hnamed : named (LoginColumn.username.only "É") store.users = .ok none := by
    have hunseen : ¬ asciiLower (LoginColumn.username.of user) = lower "É" := by
      rw [hfits.of_only]
      exact hfolds
    rw [named_only hadmits.1 hselect, husers]
    simp [hunseen]
  rw [login_unknown hnamed] at hanswer
  cases hanswer

end Users
end Roster
