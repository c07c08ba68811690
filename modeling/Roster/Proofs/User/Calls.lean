import Roster.User.Registry
import Roster.Proofs.Service.Call
import Roster.Proofs.Table.Rows
import Mathlib.Tactic

/-!
# Calls of the user registry

The calls of the registry as data, so that runs of calls can be spoken of, and for each call one
account of what its success means: which checks it passed, which row it built, and which
operation it ran on the table.  Every call is atomic.
-/

namespace Roster

inductive UserCall where
  | create (credentials : Credentials)
  | login (now : Moment) (credentials : Credentials)
  | update (id : String) (credentials : Credentials)
  | delete (id : String)
  | list (request : Listing.Request)
  | findOne (id : String)

inductive UserAnswer where
  | user (view : UserView)
  | token (answer : LoginAnswer)
  | page (page : Page UserView)
  | deleted

def UserCall.run (service : Service) : UserCall → Call UserAnswer
  | .create credentials => do
      return .user (← Users.create service credentials)
  | .login now credentials => do
      return .token (← Users.login service now credentials)
  | .update id credentials => do
      return .user (← Users.update service id credentials)
  | .delete id => do
      Users.delete id
      return .deleted
  | .list request => do
      return .page (← Users.list service request)
  | .findOne id => do
      return .user (← Users.findOne id)

/-- The row says what the credentials say, the password as one of its hashes. -/
structure User.Fits (service : Service) (credentials : Credentials)
    (user : User) : Prop where
  username : credentials.username = LooseText.ofString user.username
  email : credentials.email = LooseText.ofString user.email
  password : ∃ count, Password.hash service.signer.crypto (service.salt count)
    credentials.password = .ok user.password

namespace Users

open Call Outcome

variable {β : Type} {service : Service} {state after : State} {result : β}

/-! ## Steps of several calls -/

theorem readsOnly_refuseTaken (task : Task) (credentials : Credentials)
    (own : Option String) : ReadsOnly (refuseTaken task credentials own) := by
  unfold refuseTaken
  apply (readsOnly_ask _ task _).bind
  intro column
  cases column with
  | none => exact readsOnly_pure ()
  | some column => exact readsOnly_refuse _

theorem refuseTaken_bind_ok
    {task : Task} {credentials : Credentials} {own : Option String}
    {next : Unit → Call β}
    (hcall : (refuseTaken task credentials own >>= next).after state =
      (.ok result, after)) :
    takenColumn? credentials own state.users = .ok none ∧
      (next ()).after state = (.ok result, after) := by
  obtain ⟨_, middle, hrefuse, hrest⟩ := after_bind_eq_ok_iff.mp hcall
  unfold refuseTaken at hrefuse
  obtain ⟨column, htaken, hdone⟩ := ask_bind_ok hrefuse
  cases column with
  | none =>
      obtain ⟨_, rfl⟩ := Prod.mk.inj hdone
      exact ⟨htaken, hrest⟩
  | some column => cases hdone

theorem after_hashPassword (password : LooseText) (state : State) :
    (hashPassword service password).after state =
      match Password.hash service.signer.crypto (service.salt state.salts)
        password with
      | .ok hash => (.ok hash, { state with salts := state.salts + 1 })
      | .error error =>
        (.error (.crashed (.hashing error)),
          { state with salts := state.salts + 1 }) := by
  unfold hashPassword
  simp only [after_bind, after_get, after_modify]
  cases Password.hash service.signer.crypto (service.salt state.salts) password with
  | ok hash => rfl
  | error error => rfl

theorem quiet_hashPassword (service : Service) (password : LooseText) :
    Quiet (hashPassword service password) := by
  intro state
  rw [after_hashPassword]
  cases Password.hash service.signer.crypto (service.salt state.salts) password with
  | ok hash => exact ⟨rfl, rfl⟩
  | error error => exact ⟨rfl, rfl⟩

theorem hashPassword_bind_ok
    {password : LooseText} {next : String → Call β}
    (hcall : (hashPassword service password >>= next).after state =
      (.ok result, after)) :
    ∃ hash,
      Password.hash service.signer.crypto (service.salt state.salts) password =
          .ok hash ∧
        (next hash).after { state with salts := state.salts + 1 } =
          (.ok result, after) := by
  rw [after_bind, after_hashPassword] at hcall
  cases hhash : Password.hash service.signer.crypto
      (service.salt state.salts) password with
  | ok hash =>
      rw [hhash] at hcall
      exact ⟨hash, rfl, hcall⟩
  | error error =>
      rw [hhash] at hcall
      cases hcall

/-! ## Work on the table -/

/-- The user is looked for first, so that the work on the row goes on only where selects work. -/
theorem update_eq (service : Service) (id : String) (credentials : Credentials) :
    update service id credentials = (do
      Call.checkIdentifier .user id
      match ← Call.ask .users .update (Table.find? User.schema id) with
      | none => Call.refuse (.missing .user)
      | some old =>
        refuseTaken .update credentials (some id)
        let password ← hashPassword service credentials.password
        let user : User := {
          old with
          username := ← Call.encode credentials.username
          email := ← Call.encode credentials.email
          password }
        let stored ←
          Call.perform .users .update (Table.replace User.schema old (User.schema.revised old user))
        return stored.view) := by
  unfold update
  refine congrArg _ (funext fun _ => ask_find?_bind_congr ?_)
  intro found
  cases found with
  | none => exact sameWhere_refl _
  | some old =>
      apply SameWhere.bind_right ((readsOnly_refuseTaken _ _ _).quiet.readable SameTables.users)
      intro _
      apply SameWhere.bind_right ((quiet_hashPassword _ _).readable SameTables.users)
      intro password
      apply SameWhere.bind_right ((quiet_encode _).readable SameTables.users)
      intro username
      apply SameWhere.bind_right ((quiet_encode _).readable SameTables.users)
      intro email
      exact (sameWhere_edit_replace _ _ _ _ _).bind_left _

/-! ## What success means -/

/-- A user who was created has names that nobody had, and is stored under the
next identifier. -/
theorem create_ok
    {credentials : Credentials} {view : UserView}
    (hcall : (create service credentials).after state = (.ok view, after)) :
    ∃ user stored users,
      takenColumn? credentials none state.users = .ok none ∧
        user.Fits service credentials ∧
        user.id = Identifier.generated (state.identifiers + 1) ∧
        Table.put User.schema (Draft.ofRow User.schema user) state.users =
          .ok (stored, users) ∧
        view = stored.view ∧
        after = { state with
          users
          identifiers := state.identifiers + 1
          salts := state.salts + 1 } := by
  unfold create at hcall
  simp only [edit_put] at hcall
  obtain ⟨htaken, hcall⟩ := refuseTaken_bind_ok hcall
  rw [after_bind, after_freshIdentifier] at hcall
  obtain ⟨hash, hhash, hcall⟩ := hashPassword_bind_ok hcall
  obtain ⟨username, husername, hcall⟩ := encode_bind_ok hcall
  obtain ⟨email, hemail, hcall⟩ := encode_bind_ok hcall
  obtain ⟨stored, users, hput, hcall⟩ := perform_bind_ok hcall
  obtain ⟨hview, rfl⟩ := Prod.mk.inj hcall
  cases hview
  exact ⟨_, stored, users, htaken, ⟨husername, hemail, _, hhash⟩, rfl, hput,
    rfl, rfl⟩

/-- A user whose names are free is created, as long as statements work and the
password can be hashed. -/
theorem create_total
    (username email : String) {credentials : Credentials} {password : String}
    (hfailing : state.users.failing = [])
    (hfree : takenColumn? credentials none state.users = .ok none)
    (husername : credentials.username = LooseText.ofString username)
    (hemail : credentials.email = LooseText.ofString email)
    (hhash : Password.hash service.signer.crypto (service.salt state.salts)
      credentials.password = .ok password)
    (hnew : ∀ user ∈ state.users.rows,
      user.id ≠ Identifier.generated (state.identifiers + 1)) :
    let user : User := {
      id := Identifier.generated (state.identifiers + 1)
      username, email, password }
    (create service credentials).after state =
      (.ok user.view, { state with
        users := { rows := state.users.rows ++ [user] }
        identifiers := state.identifiers + 1
        salts := state.salts + 1 }) := by
  intro user
  have hlookup : state.users.find? User.schema user.id = .ok none := by
    rw [Table.find?_eq_ok_iff, hfailing]
    refine ⟨List.not_mem_nil, List.find?_eq_none.mpr ?_⟩
    intro old hold
    rw [decide_eq_true_eq]
    exact hnew old hold
  have hput : Table.put User.schema (Draft.ofRow User.schema user) state.users =
      .ok (user, { rows := state.users.rows ++ [user] }) := by
    unfold Table.put
    apply bind_eq_ok_iff.mpr
    have hrows : Table.inserting user state.users = .ok (state.users.rows ++ [user]) := by
      rw [Table.inserting_eq_ok_iff, hfailing]
      exact ⟨List.not_mem_nil, rfl⟩
    refine ⟨none, hlookup, bind_eq_ok_iff.mpr ⟨user, rfl, bind_eq_ok_iff.mpr ⟨_, hrows, ?_⟩⟩⟩
    rw [hfailing]
    rfl
  unfold create refuseTaken
  simp only [edit_put, after_bind, after_ask, Shelf.users_table, hfree, after_pure,
    after_freshIdentifier, after_hashPassword, hhash, after_encode, husername, hemail,
    LooseText.encode_ofString, after_perform, Shelf.users_place]
  rw [hput]

/-- A user who was changed was there, and the new names are nobody else's. -/
theorem update_ok
    {id : String} {credentials : Credentials} {view : UserView}
    (hcall : (update service id credentials).after state = (.ok view, after)) :
    ∃ old user stored users,
      state.users.rows.find? (fun row => row.id = id) = some old ∧
        takenColumn? credentials (some id) state.users = .ok none ∧
        user.Fits service credentials ∧ user.id = old.id ∧
        Table.replace User.schema old (User.schema.revised old user)
          state.users = .ok (stored, users) ∧
        view = stored.view ∧
        after = { state with users, salts := state.salts + 1 } := by
  rw [update_eq] at hcall
  obtain ⟨_, hcall⟩ := checkIdentifier_bind_ok hcall
  obtain ⟨found, hfind, hcall⟩ := ask_bind_ok hcall
  cases found with
  | none => cases hcall
  | some old =>
      obtain ⟨htaken, hcall⟩ := refuseTaken_bind_ok hcall
      obtain ⟨hash, hhash, hcall⟩ := hashPassword_bind_ok hcall
      obtain ⟨username, husername, hcall⟩ := encode_bind_ok hcall
      obtain ⟨email, hemail, hcall⟩ := encode_bind_ok hcall
      obtain ⟨stored, users, hreplace, hcall⟩ := perform_bind_ok hcall
      obtain ⟨hview, rfl⟩ := Prod.mk.inj hcall
      cases hview
      exact ⟨old, { old with username, email, password := hash }, stored, users,
        (Table.find?_eq_ok_iff.mp hfind).2, htaken,
        ⟨husername, hemail, _, hhash⟩, rfl, hreplace, rfl, rfl⟩

theorem delete_ok
    {id : String} {done : Unit}
    (hcall : (delete id).after state = (.ok done, after)) :
    ∃ found users,
      Table.delete User.schema id state.users = .ok (found, users) ∧
        after = { state with users } := by
  unfold delete at hcall
  simp only [edit_delete] at hcall
  obtain ⟨_, hcall⟩ := checkIdentifier_bind_ok hcall
  obtain ⟨found, users, hdelete, hcall⟩ := perform_bind_ok hcall
  exact ⟨found, users, hdelete, (Prod.mk.inj hcall).2.symm⟩

theorem delete_total
    {id : String} (hspelled : Identifier.isSpelling id = true)
    (hselect : .select ∉ state.users.failing) (hdelete : .delete ∉ state.users.failing) :
    (delete id).after state =
      (.ok (), { state with users := {
        state.users with rows := state.users.rows.filter fun user => user.id ≠ id } }) := by
  obtain ⟨found, hrows⟩ := Table.delete_total hselect hdelete
  unfold delete
  simp only [edit_delete, after_bind, after_checkIdentifier, if_pos hspelled, after_perform,
    Shelf.users_table]
  rw [hrows]
  rfl

/-- A login that succeeds has found a user whose stored hash matches, and
answers with a token for the name of that user. -/
theorem login_ok
    {now : Moment} {credentials : Credentials} {answer : LoginAnswer}
    (hcall : (login service now credentials).after state = (.ok answer, after)) :
    ∃ user,
      named credentials state.users = .ok (some user) ∧
        Password.verify service.signer.crypto credentials.password
          user.password = .ok true ∧
        answer.username = user.loginName ∧
        service.signer.issue user.loginName now = .ok answer.token ∧
        after = state := by
  unfold login at hcall
  obtain ⟨found, hfind, hcall⟩ := ask_bind_ok hcall
  cases found with
  | none => cases hcall
  | some user =>
      simp only at hcall
      split at hcall
      next error hverify => cases hcall
      next hverify => cases hcall
      next hverify =>
        split at hcall
        next token hissue =>
          obtain ⟨hanswer, rfl⟩ := Prod.mk.inj hcall
          cases hanswer
          exact ⟨user, hfind, hverify, rfl, hissue, rfl⟩
        next error hissue => cases hcall

theorem login_total
    {now : Moment} {credentials : Credentials} {user : User} {token : String}
    (hfound : named credentials state.users = .ok (some user))
    (hverify : Password.verify service.signer.crypto credentials.password
      user.password = .ok true)
    (hissue : service.signer.issue user.loginName now = .ok token) :
    (login service now credentials).after state =
      (.ok { username := user.loginName, token }, state) := by
  unfold login
  simp only [after_bind, after_ask, Shelf.users_table, hfound, hverify, hissue, after_pure]

/-! ## No call fails halfway -/

theorem readsOnly_login (service : Service) (now : Moment) (credentials : Credentials) :
    ReadsOnly (login service now credentials) := by
  unfold login
  apply (readsOnly_ask _ _ _).bind
  intro found
  cases found with
  | none => exact readsOnly_refuse _
  | some user =>
      simp only
      split
      · exact readsOnly_crash _
      · exact readsOnly_refuse _
      · split
        · exact readsOnly_pure _
        · exact readsOnly_crash _

theorem readsOnly_list (service : Service) (request : Listing.Request) :
    ReadsOnly (list service request) := by
  unfold list
  exact (readsOnly_ask _ _ _).bind fun page => readsOnly_pure _

theorem readsOnly_findOne (id : String) : ReadsOnly (findOne id) := by
  unfold findOne
  apply (readsOnly_checkIdentifier _ _).bind
  intro _
  apply (readsOnly_ask _ _ _).bind
  intro found
  cases found with
  | none => exact readsOnly_refuse _
  | some user => exact readsOnly_pure _

theorem atomic_create (service : Service) (credentials : Credentials) :
    Atomic (create service credentials) := by
  unfold create
  simp only [edit_put]
  apply (readsOnly_refuseTaken _ _ _).quiet.bind_atomic
  intro _
  apply quiet_freshIdentifier.bind_atomic
  intro id
  apply (quiet_hashPassword _ _).bind_atomic
  intro hash
  apply (quiet_encode _).bind_atomic
  intro username
  apply (quiet_encode _).bind_atomic
  intro email
  exact (atomic_perform _ _ _).bind_pure _

theorem atomic_update (service : Service) (id : String) (credentials : Credentials) :
    Atomic (update service id credentials) := by
  rw [update_eq]
  apply (quiet_checkIdentifier _ _).bind_atomic
  intro _
  apply (quiet_ask _ _ _).bind_atomic
  intro found
  cases found with
  | none => exact (quiet_refuse _).atomic
  | some old =>
      apply (readsOnly_refuseTaken _ _ _).quiet.bind_atomic
      intro _
      apply (quiet_hashPassword _ _).bind_atomic
      intro hash
      apply (quiet_encode _).bind_atomic
      intro username
      apply (quiet_encode _).bind_atomic
      intro email
      exact (atomic_perform _ _ _).bind_pure _

theorem atomic_delete (id : String) : Atomic (delete id) := by
  unfold delete
  simp only [edit_delete]
  apply (quiet_checkIdentifier _ _).bind_atomic
  intro _
  exact (atomic_perform _ _ _).bind_pure _

end Users

open Call in
theorem UserCall.atomic_run (service : Service) (call : UserCall) :
    Atomic (call.run service) := by
  cases call with
  | create credentials =>
      exact (Users.atomic_create service credentials).bind_pure _
  | login now credentials =>
      exact (Users.readsOnly_login service now credentials).quiet.atomic.bind_pure _
  | update id credentials =>
      exact (Users.atomic_update service id credentials).bind_pure _
  | delete id =>
      exact (Users.atomic_delete id).bind_pure _
  | list request =>
      exact (Users.readsOnly_list service request).quiet.atomic.bind_pure _
  | findOne id =>
      exact (Users.readsOnly_findOne id).quiet.atomic.bind_pure _

end Roster
