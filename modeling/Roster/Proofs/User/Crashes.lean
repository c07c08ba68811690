import Roster.Proofs.Password
import Roster.Proofs.Service.Crashes
import Roster.Proofs.User.Names
import Mathlib.Tactic

/-!
# Users that cannot be written

A form sets no upper bound to a password, while nothing longer than the hash allows can be hashed,
and a name with a lone surrogate cannot be given to the database.  The service has no answer for
either, and for a token that cannot be issued.  Nothing else makes a call of the registry crash.  A
login compares with hashes that were made here, and such a hash can always be taken apart.
-/

namespace Roster

open Outcome

namespace LoginColumn

/-- The lookup comes to an answer: an empty name finds nobody, any other one the first user whose
name folds to it. -/
def Finds (column : LoginColumn) (text : LooseText) (rows : List User) (found : Option User) :
    Prop :=
  ∃ name, text = LooseText.ofString name ∧
    found = if name = "" then none
      else rows.find? fun user => asciiLower (column.of user) = lower name

/-- The lookup finds nobody else than the user with the own identifier. -/
def Free (column : LoginColumn) (text : LooseText) (own : Option String) (rows : List User) :
    Prop :=
  ∃ found, column.Finds text rows found ∧ ∀ user ∈ found, some user.id = own

theorem Finds.mem {column : LoginColumn} {text : LooseText} {rows : List User} {user : User}
    (hfinds : column.Finds text rows (some user)) : user ∈ rows := by
  obtain ⟨name, -, hfound⟩ := hfinds
  by_cases hname : name = ""
  · rw [if_pos hname] at hfound
    cases hfound
  · rw [if_neg hname] at hfound
    exact List.mem_of_find?_eq_some hfound.symm

end LoginColumn

namespace Credentials

/-- The first name that is looked for and cannot be.  The email is looked for once the username has
passed. -/
inductive BreaksAt (credentials : Credentials) (passed : Prop) (fault : Unencodable) : Prop where
  | username (hfault : credentials.username.lower.encode = .error fault)
  | email (hpassed : passed) (hfault : credentials.email.lower.encode = .error fault)

/-- A login with the credentials is meant for the user. -/
def PointTo (credentials : Credentials) (rows : List User) (user : User) : Prop :=
  LoginColumn.username.Finds credentials.username rows (some user) ∨
    LoginColumn.username.Finds credentials.username rows none ∧
      LoginColumn.email.Finds credentials.email rows (some user)

theorem PointTo.mem {credentials : Credentials} {rows : List User} {user : User}
    (hmeant : credentials.PointTo rows user) : user ∈ rows := by
  rcases hmeant with husername | ⟨-, hemail⟩
  · exact husername.mem
  · exact hemail.mem

end Credentials

namespace Users

open Call

variable {β : Type} {service : Service} {state : State} {users : Table User}
  {credentials : Credentials} {column : LoginColumn} {text : LooseText} {own : Option String}
  {id : String} {now : Moment} {error : StoreError} {crash : Crash}

/-- What stops credentials from being written for the user with the own identifier. -/
inductive Unwritable (credentials : Credentials) (own : Option String) (rows : List User) :
    Crash → Prop where
  | name (fault : Unencodable)
      (hbreaks : credentials.BreaksAt
        (LoginColumn.username.Free credentials.username own rows) fault) :
      Unwritable credentials own rows (.store (.unencodable fault))
  | password (error : Password.HashError)
      (hfree : ∀ column : LoginColumn, column.Free (column.ofCredentials credentials) own rows)
      (herror : Password.Unhashable credentials.password error) :
      Unwritable credentials own rows (.hashing error)

/-- What stops a login from being answered. -/
inductive Unanswerable (service : Service) (now : Moment) (credentials : Credentials)
    (rows : List User) : Crash → Prop where
  | name (fault : Unencodable)
      (hbreaks : credentials.BreaksAt
        (LoginColumn.username.Finds credentials.username rows none) fault) :
      Unanswerable service now credentials rows (.store (.unencodable fault))
  | token (user : User) (error : IssueError) (hmeant : credentials.PointTo rows user)
      (hverify : Password.verify service.signer.crypto credentials.password user.password =
        .ok true)
      (herror : service.signer.issue user.loginName now = .error error) :
      Unanswerable service now credentials rows (.issuing error)

/-! ## Looking for a name -/

theorem named?_nil : named? column [] users = .ok none := rfl

theorem named?_of_ne_nil (htext : text ≠ []) :
    named? column text users = users.findName? column.cell text := by
  unfold named?
  rw [if_neg (by simpa using htext)]

theorem named?_of_failing (hselect : .select ∈ users.failing) (htext : text ≠ []) :
    named? column text users = .error .database := by
  rw [named?_of_ne_nil htext, Table.findName?_eq_error_iff]
  exact Or.inl ⟨hselect, rfl⟩

theorem named?_eq_ok_iff_finds (hselect : .select ∉ users.failing) {found : Option User} :
    named? column text users = .ok found ↔ column.Finds text users.rows found := by
  constructor
  · intro hfound
    by_cases htext : text = []
    · subst htext
      cases hfound
      exact ⟨"", rfl, (if_pos rfl).symm⟩
    · have hlookup := hfound
      rw [named?_of_ne_nil htext] at hlookup
      obtain ⟨-, folded, hfolded, -⟩ := Table.findName?_eq_ok_iff.mp hlookup
      obtain ⟨name, rfl⟩ := LooseText.exists_ofString_of_lower hfolded
      have hname : name ≠ "" := by
        rintro rfl
        exact htext rfl
      refine ⟨name, rfl, ?_⟩
      rw [if_neg hname]
      exact ((named?_eq_ok_iff hname).mp hfound).2.symm
  · rintro ⟨name, rfl, rfl⟩
    by_cases hname : name = ""
    · subst hname
      rfl
    · rw [if_neg hname]
      exact (named?_eq_ok_iff hname).mpr ⟨hselect, rfl⟩

theorem named?_eq_error_iff (hselect : .select ∉ users.failing) :
    named? column text users = .error error ↔
      ∃ fault, text.lower.encode = .error fault ∧ error = .unencodable fault := by
  by_cases htext : text = []
  · subst htext
    have hplain : LooseText.encode (LooseText.lower []) = .ok "" := rfl
    simp [named?_nil, hplain]
  · rw [named?_of_ne_nil htext, Table.findName?_eq_error_iff]
    simp [hselect]

/-! ## Names that are taken -/

theorem isTaken_eq_false_iff (hselect : .select ∉ users.failing) :
    isTaken column text own users = .ok false ↔ column.Free text own users.rows := by
  unfold isTaken LoginColumn.Free
  simp only [← named?_eq_ok_iff_finds hselect]
  rw [bind_eq_ok_iff]
  apply exists_congr
  intro found
  apply and_congr_right
  intro _
  cases found with
  | none => simp [pure, Except.pure]
  | some user => simp [pure, Except.pure]

theorem isTaken_eq_error_iff :
    isTaken column text own users = .error error ↔ named? column text users = .error error := by
  unfold isTaken
  rw [bind_eq_error_iff, or_iff_left]
  rintro ⟨found, -, hanswer⟩
  cases found with
  | none => cases hanswer
  | some user => cases hanswer

theorem takenColumn?_eq_error_iff :
    takenColumn? credentials own users = .error error ↔
      named? .username credentials.username users = .error error ∨
        isTaken .username credentials.username own users = .ok false ∧
          named? .email credentials.email users = .error error := by
  unfold takenColumn?
  rw [bind_eq_error_iff, isTaken_eq_error_iff]
  apply or_congr_right
  constructor
  · rintro ⟨taken, htaken, hrest⟩
    cases taken with
    | true => cases hrest
    | false =>
        rcases bind_eq_error_iff.mp hrest with hemail | ⟨taken, -, hrest⟩
        · exact ⟨htaken, isTaken_eq_error_iff.mp hemail⟩
        · cases taken with
          | true => cases hrest
          | false => cases hrest
  · rintro ⟨hfree, hemail⟩
    exact ⟨false, hfree, bind_eq_error_iff.mpr (.inl (isTaken_eq_error_iff.mpr hemail))⟩

theorem takenColumn?_eq_error_iff_breaksAt (hselect : .select ∉ users.failing) :
    takenColumn? credentials own users = .error error ↔
      ∃ fault, credentials.BreaksAt
          (LoginColumn.username.Free credentials.username own users.rows) fault ∧
        error = .unencodable fault := by
  rw [takenColumn?_eq_error_iff, named?_eq_error_iff hselect, named?_eq_error_iff hselect,
    isTaken_eq_false_iff hselect]
  constructor
  · rintro (⟨fault, hfault, rfl⟩ | ⟨hfree, fault, hfault, rfl⟩)
    · exact ⟨fault, .username hfault, rfl⟩
    · exact ⟨fault, .email hfree hfault, rfl⟩
  · rintro ⟨fault, hfault | ⟨hfree, hfault⟩, rfl⟩
    · exact Or.inl ⟨fault, hfault, rfl⟩
    · exact Or.inr ⟨hfree, fault, hfault, rfl⟩

theorem takenColumn?_of_failing (hselect : .select ∈ users.failing)
    (hnamed : credentials.username ≠ [] ∨ credentials.email ≠ []) :
    takenColumn? credentials own users = .error .database := by
  rw [takenColumn?_eq_error_iff]
  by_cases husername : credentials.username = []
  · have hemail := hnamed.resolve_left (not_not_intro husername)
    rw [husername]
    exact Or.inr ⟨rfl, named?_of_failing hselect hemail⟩
  · exact Or.inl (named?_of_failing hselect husername)

/-! ## Whom a login is meant for -/

theorem named_eq_error_iff (hselect : .select ∉ users.failing) :
    named credentials users = .error error ↔
      ∃ fault, credentials.BreaksAt
          (LoginColumn.username.Finds credentials.username users.rows none) fault ∧
        error = .unencodable fault := by
  unfold named
  rw [bind_eq_error_iff, named?_eq_error_iff hselect]
  constructor
  · rintro (⟨fault, hfault, rfl⟩ | ⟨found, hfound, hrest⟩)
    · exact ⟨fault, .username hfault, rfl⟩
    · cases found with
      | some user => cases hrest
      | none =>
          obtain ⟨fault, hfault, rfl⟩ := (named?_eq_error_iff hselect).mp hrest
          exact ⟨fault, .email ((named?_eq_ok_iff_finds hselect).mp hfound) hfault, rfl⟩
  · rintro ⟨fault, hfault | ⟨hnobody, hfault⟩, rfl⟩
    · exact Or.inl ⟨fault, hfault, rfl⟩
    · exact Or.inr ⟨none, (named?_eq_ok_iff_finds hselect).mpr hnobody,
        (named?_eq_error_iff hselect).mpr ⟨fault, hfault, rfl⟩⟩

theorem named_eq_some_iff (hselect : .select ∉ users.failing) {user : User} :
    named credentials users = .ok (some user) ↔ credentials.PointTo users.rows user := by
  unfold named Credentials.PointTo
  simp only [← named?_eq_ok_iff_finds hselect]
  rw [bind_eq_ok_iff]
  constructor
  · rintro ⟨found, hfound, hrest⟩
    cases found with
    | some first =>
        cases hrest
        exact Or.inl hfound
    | none => exact Or.inr ⟨hfound, hrest⟩
  · rintro (hfound | ⟨hnobody, hfound⟩)
    · exact ⟨some user, hfound, rfl⟩
    · exact ⟨none, hnobody, hfound⟩

theorem named_of_failing (hselect : .select ∈ users.failing)
    (hnamed : credentials.username ≠ [] ∨ credentials.email ≠ []) :
    named credentials users = .error .database := by
  unfold named
  by_cases husername : credentials.username = []
  · have hemail := hnamed.resolve_left (not_not_intro husername)
    rw [husername, named?_nil, ok_bind]
    exact named?_of_failing hselect hemail
  · rw [bind_eq_error_iff]
    exact Or.inl (named?_of_failing hselect husername)

/-! ## Steps of several calls -/

theorem crashesWith_refuseTaken_bind_iff
    {task : Task} {next : Unit → Call β} (hselect : .select ∉ state.users.failing)
    (hnext : (∀ column : LoginColumn,
        column.Free (column.ofCredentials credentials) own state.users.rows) →
      (CrashesWith (next ()) state crash ↔
        ∃ error, Password.Unhashable credentials.password error ∧ crash = .hashing error)) :
    CrashesWith (refuseTaken task credentials own >>= next) state crash ↔
      Unwritable credentials own state.users.rows crash := by
  have hpassed : takenColumn? credentials own state.users = .ok none ↔
      ∀ column : LoginColumn,
        column.Free (column.ofCredentials credentials) own state.users.rows := by
    simp only [takenColumn?_eq_none_iff, isTaken_eq_false_iff hselect]
  unfold refuseTaken
  rw [bind_assoc, crashesWith_ask_bind_iff, Shelf.users_table]
  constructor
  · rintro (⟨error, herror, -, rfl⟩ | ⟨taken, htaken, hcrash⟩)
    · obtain ⟨fault, hbreaks, rfl⟩ := (takenColumn?_eq_error_iff_breaksAt hselect).mp herror
      exact .name fault hbreaks
    · cases taken with
      | some column => cases hcrash
      | none =>
          have hfree := hpassed.mp htaken
          obtain ⟨error, herror, rfl⟩ := (hnext hfree).mp hcrash
          exact .password error hfree herror
  · rintro (⟨fault, hbreaks⟩ | ⟨error, hfree, herror⟩)
    · exact Or.inl ⟨.unencodable fault,
        (takenColumn?_eq_error_iff_breaksAt hselect).mpr ⟨fault, hbreaks, rfl⟩, trivial, rfl⟩
    · exact Or.inr ⟨none, hpassed.mpr hfree, (hnext hfree).mpr ⟨error, herror, rfl⟩⟩

theorem crashesWith_hashPassword_bind_iff
    {password : LooseText} {next : String → Call β} (hnext : ∀ hash, Answers (next hash)) :
    CrashesWith (hashPassword service password >>= next) state crash ↔
      ∃ error, Password.Unhashable password error ∧ crash = .hashing error := by
  rw [Call.crashesWith_bind_iff, or_iff_left]
  · unfold CrashesWith
    rw [after_hashPassword]
    have hhash : ∀ error, Password.Unhashable password error ↔
        Password.hash service.signer.crypto (service.salt state.salts) password = .error error :=
      fun error => Password.hash_eq_error_iff.symm
    simp only [hhash]
    cases Password.hash service.signer.crypto (service.salt state.salts) password with
    | ok hash => simp
    | error error => simp [eq_comm]
  · rintro ⟨hash, middle, -, hcrash⟩
    exact (hnext hash).not_crashesWith hcrash

/-- Names that have been looked for can be written. -/
theorem answers_encode_names
    {rows : List User} {next : String → String → Call β}
    (hfree : ∀ column : LoginColumn, column.Free (column.ofCredentials credentials) own rows)
    (hnext : ∀ username email, Answers (next username email)) :
    Answers (do
      let username ← Call.encode credentials.username
      let email ← Call.encode credentials.email
      next username email) := by
  have hplain : ∀ column : LoginColumn,
      Answers (Call.encode (column.ofCredentials credentials)) := by
    intro column
    obtain ⟨found, ⟨name, hname, -⟩, -⟩ := hfree column
    rw [hname]
    exact answers_encode name
  apply FailsWith.bind
  · exact hplain .username
  · intro username
    apply FailsWith.bind
    · exact hplain .email
    · intro email
      exact hnext username email

/-! ## Calls -/

theorem create_crashesWith_iff (haccepted : credentials.Accepted) :
    CrashesWith (create service credentials) state crash ↔
      .select ∉ state.users.failing ∧ Unwritable credentials none state.users.rows crash := by
  have hnamed := (Credentials.accepted_iff.mp haccepted).2.2
  unfold create
  simp only [edit_put]
  by_cases hselect : .select ∈ state.users.failing
  -- Accepted credentials have a name to look for, so a failing select refuses the call at once.
  · have htaken : takenColumn? credentials none state.users = .error .database :=
      takenColumn?_of_failing hselect hnamed
    simp [hselect, refuseTaken, CrashesWith, after_bind, after_ask, htaken, Failure.ofStore]
  · rw [and_iff_right hselect]
    apply crashesWith_refuseTaken_bind_iff hselect
    intro hfree
    rw [answers_freshIdentifier.crashesWith_bind_iff]
    have hwrite : ∀ id password, Answers (do
        let username ← Call.encode credentials.username
        let email ← Call.encode credentials.email
        let stored ← Call.perform .users .create
          (Table.put User.schema (Draft.ofRow User.schema { id, username, email, password }))
        return stored.view) := by
      intro id password
      apply answers_encode_names hfree
      intro username email
      apply FailsWith.bind
      · exact answers_perform fun _ _ => Table.database_of_put rfl
      · intro stored
        exact answers_pure stored.view
    simp only [crashesWith_hashPassword_bind_iff (hwrite _), after_freshIdentifier, Prod.mk.injEq,
      Except.ok.injEq, exists_and_right, exists_and_left, exists_eq', true_and]

theorem update_crashesWith_iff :
    CrashesWith (update service id credentials) state crash ↔
      Identifier.isSpelling id = true ∧ .select ∉ state.users.failing ∧
        (∃ old ∈ state.users.rows, old.id = id) ∧
        Unwritable credentials (some id) state.users.rows crash := by
  rw [update_eq]
  rw [crashesWith_checkIdentifier_bind_iff]
  apply and_congr_right
  intro _
  apply crashesWith_find_bind_iff
  · exact (answers_refuse _).not_crashesWith
  · intro hselect old
    apply crashesWith_refuseTaken_bind_iff hselect
    intro hfree
    apply crashesWith_hashPassword_bind_iff
    intro hash
    apply answers_encode_names hfree
    intro username email
    apply FailsWith.bind
    · exact answers_perform fun _ _ => Table.database_of_replace rfl
    · intro stored
      exact answers_pure stored.view

theorem answers_delete (id : String) : Answers (delete id) := by
  unfold delete
  simp only [edit_delete]
  apply FailsWith.bind
  · exact answers_checkIdentifier
  · intro _
    apply FailsWith.bind
    · exact answers_perform fun _ _ => Table.database_of_delete
    · intro found
      exact answers_pure ()

theorem answers_findOne (id : String) : Answers (findOne id) := by
  unfold findOne
  apply FailsWith.bind
  · exact answers_checkIdentifier
  · intro _
    apply FailsWith.bind
    · exact answers_find
    · intro found
      cases found with
      | none => exact answers_refuse _
      | some user => exact answers_pure user.view

/-! ## Logins -/

/-- Every stored password is a hash that was made here. -/
theorem Reachable.hashed (hreach : Reachable service state) :
    ∀ user ∈ state.users.rows, ∃ credentials, user.Fits service credentials := by
  refine (hreach.rows_induction
    (motive := fun rows => ∀ user ∈ rows, ∃ credentials, user.Fits service credentials) ?_ ?_).2
  · intro user huser
    cases huser
  · intro before after _ hbefore hstep
    cases hstep with
    | stay => exact hbefore
    | append credentials new _ hfits =>
        intro user huser
        rcases List.mem_append.mp huser with hold | hnew
        · exact hbefore user hold
        · rw [List.mem_singleton.mp hnew]
          exact ⟨credentials, hfits⟩
    | overwrite credentials new _ _ hfits =>
        intro user huser
        rcases Table.mem_overwrite huser with hnew | ⟨hold, -⟩
        · rw [hnew]
          exact ⟨credentials, hfits⟩
        · exact hbefore user hold
    | drop id =>
        intro user huser
        exact hbefore user (List.mem_filter.mp huser).1

/-- Once a user is found, a login crashes only when the password is right and no token can be
issued. -/
theorem crashesWith_answer_iff {user : User} (hfits : ∃ stored, user.Fits service stored) :
    CrashesWith
        (match Password.verify service.signer.crypto credentials.password user.password with
          | .error error => Call.crash (.storedHash error)
          | .ok false => Call.refuse .wrongPassword
          | .ok true =>
            match service.signer.issue user.loginName now with
            | .ok token => return ({ username := user.loginName, token } : LoginAnswer)
            | .error error => Call.crash (.issuing error)) state crash ↔
      Password.verify service.signer.crypto credentials.password user.password = .ok true ∧
        ∃ error, service.signer.issue user.loginName now = .error error ∧
          crash = .issuing error := by
  unfold CrashesWith
  cases hverify : Password.verify service.signer.crypto credentials.password user.password with
  | error error =>
      obtain ⟨stored, hfits⟩ := hfits
      obtain ⟨count, hhash⟩ := hfits.password
      exact absurd hverify (Password.verify_hash_ne_error hhash _ error)
  | ok matched =>
      cases matched with
      | false => simp
      | true =>
          cases service.signer.issue user.loginName now with
          | ok token => simp
          | error error => simp [eq_comm]

theorem login_crashesWith_iff
    (hreach : Reachable service state) (haccepted : credentials.Accepted) :
    CrashesWith (login service now credentials) state crash ↔
      .select ∉ state.users.failing ∧
        Unanswerable service now credentials state.users.rows crash := by
  have hnamed := (Credentials.accepted_iff.mp haccepted).2.2
  unfold login
  by_cases hselect : .select ∈ state.users.failing
  · have hdatabase := named_of_failing hselect hnamed
    simp [hselect, CrashesWith, after_bind, after_ask, hdatabase, Failure.ofStore]
  · rw [and_iff_right hselect, crashesWith_ask_bind_iff, Shelf.users_table]
    -- The registry is reached by calls, so whoever is found has a hash that was made here.
    have hfits : ∀ user, credentials.PointTo state.users.rows user →
        ∃ stored, user.Fits service stored :=
      fun user hmeant => hreach.hashed user hmeant.mem
    constructor
    · rintro (⟨error, herror, -, rfl⟩ | ⟨found, hfound, hcrash⟩)
      · obtain ⟨fault, hbreaks, rfl⟩ := (named_eq_error_iff hselect).mp herror
        exact .name fault hbreaks
      · cases found with
        | none => cases hcrash
        | some user =>
            have hmeant := (named_eq_some_iff hselect).mp hfound
            obtain ⟨hverify, error, herror, rfl⟩ :=
              (crashesWith_answer_iff (hfits user hmeant)).mp hcrash
            exact .token user error hmeant hverify herror
    · rintro (⟨fault, hbreaks⟩ | ⟨user, error, hmeant, hverify, herror⟩)
      · exact Or.inl ⟨.unencodable fault,
          (named_eq_error_iff hselect).mpr ⟨fault, hbreaks, rfl⟩, trivial, rfl⟩
      · exact Or.inr ⟨some user, (named_eq_some_iff hselect).mpr hmeant,
          (crashesWith_answer_iff (hfits user hmeant)).mpr ⟨hverify, error, herror, rfl⟩⟩

/-- In a registry that calls lead to, a call with accepted credentials crashes on nothing but
these: a name that cannot be looked for, a password that cannot be hashed, and a token that cannot
be issued. -/
theorem user_calls_crash_iff
    (service : Service) {state : State} (hreach : Reachable service state)
    {credentials : Credentials} (haccepted : credentials.Accepted) (now : Moment) (id : String)
    (crash : Crash) :
    (CrashesWith (create service credentials) state crash ↔
        .select ∉ state.users.failing ∧ Unwritable credentials none state.users.rows crash) ∧
      (CrashesWith (login service now credentials) state crash ↔
        .select ∉ state.users.failing ∧
          Unanswerable service now credentials state.users.rows crash) ∧
      (CrashesWith (update service id credentials) state crash ↔
        Identifier.isSpelling id = true ∧ .select ∉ state.users.failing ∧
          (∃ old ∈ state.users.rows, old.id = id) ∧
          Unwritable credentials (some id) state.users.rows crash) ∧
      ¬ CrashesWith (findOne id) state crash ∧
      ¬ CrashesWith (delete id) state crash :=
  ⟨create_crashesWith_iff haccepted, login_crashesWith_iff hreach haccepted,
    update_crashesWith_iff, (answers_findOne id).not_crashesWith,
    (answers_delete id).not_crashesWith⟩

/-- Credentials with a password that forms accept and that is too long to be hashed. -/
def longWinded : Credentials where
  username := "ada"
  email := []
  password := LooseText.ofString "A1!" ++ List.replicate Password.maxLength (.char 'a')

theorem longWinded_long : Password.maxLength < longWinded.password.length := by
  unfold longWinded
  rw [List.length_append, List.length_replicate]
  exact Nat.lt_add_of_pos_left (by decide)

theorem longWinded_accepted : longWinded.Accepted := by
  rw [Credentials.accepted_iff]
  refine ⟨Credentials.checkEmail_nil, ?_, .inl (by decide)⟩
  have hlong : ¬ longWinded.password.length < Credentials.minPasswordLength := by
    have hbound : Credentials.minPasswordLength < Password.maxLength := by decide
    exact Nat.not_lt.mpr (hbound.trans longWinded_long).le
  unfold Credentials.checkPassword
  rw [if_neg hlong]
  rfl

theorem longWinded_unwritable : Unwritable longWinded none [] (.hashing .tooLong) := by
  refine .password .tooLong ?_ (.tooLong longWinded_long)
  intro column
  cases column with
  | username => exact ⟨none, ⟨"ada", rfl, rfl⟩, nofun⟩
  | email => exact ⟨none, ⟨"", rfl, rfl⟩, nofun⟩

theorem user_calls_crash_iff_long_winded :
    Reachable .plain {} ∧ longWinded.Accepted ∧
      CrashesWith (create .plain longWinded) {} (.hashing .tooLong) := by
  obtain ⟨hcreate, -⟩ :=
    user_calls_crash_iff .plain .empty longWinded_accepted 0 "" (.hashing .tooLong)
  exact ⟨.empty, longWinded_accepted,
    hcreate.mpr ⟨List.not_mem_nil, longWinded_unwritable⟩⟩

theorem long_password_crashes :
    ¬ ∀ state, Reachable .plain state → ∀ credentials : Credentials, credentials.Accepted →
      ∀ crash, ¬ CrashesWith (create .plain credentials) state crash := by
  intro hanswers
  apply hanswers {} .empty longWinded longWinded_accepted (.hashing .tooLong)
  exact (create_crashesWith_iff longWinded_accepted).mpr
    ⟨List.not_mem_nil, longWinded_unwritable⟩

end Users
end Roster
