import Roster.Proofs.Table.Views
import Roster.Proofs.User.Calls
import Mathlib.Tactic

/-!
# Password hashes stay secret

Two runs of the registry on one database engine that differ in nothing but password hashes cannot
be told apart by calls other than logins.  Every call is compared with itself, step by step: from
two states that agree on what is shown of the users, both runs take the same turns, answer the same,
and end in states that agree again.  Salts and the hash function may differ as well.
-/

namespace Roster

/-- What is shown of users, with the columns that a query may name. -/
def UserView.schema : Schema UserView where
  key := UserView.id
  columns := [
    ⟨"id", .text, fun view => .text view.id⟩,
    ⟨"username", .text, fun view => .text view.username⟩,
    ⟨"email", .text, fun view => .text view.email⟩]

theorem User.schema_shows : User.schema.Shows User.view UserView.schema where
  key := fun _ => rfl
  shown := fun _ => by
    simp [Schema.shown, Schema.permits, User.schema, UserView.schema, User.view]
  column := by
    intro name
    by_cases hid : name = "id"
    · subst hid
      rfl
    by_cases husername : name = "username"
    · subst husername
      rfl
    by_cases hemail : name = "email"
    · subst hemail
      rfl
    simp [Schema.column, Schema.permits, User.schema, UserView.schema, hid, husername, hemail,
      Ne.symm hid, Ne.symm husername, Ne.symm hemail, Except.map]

def UserCall.isLogin : UserCall → Bool
  | .login _ _ => true
  | _ => false

/-! ## Two calls side by side -/

namespace Call

variable {α β γ δ : Type} {before middle after : State → State → Prop}

/-- From related states the calls either fail alike or have outcomes that look the same, and the
states they leave are related. -/
def Agree (before after : State → State → Prop) (view : α → γ) (first second : Call α) : Prop :=
  ∀ one other, before one other →
    (first.after one).1.map view = (second.after other).1.map view ∧
      after (first.after one).2 (second.after other).2

theorem Agree.bind
    {view : α → γ} {shown : β → δ} {first second : Call α} {next next' : α → Call β}
    (hcalls : Agree before middle view first second)
    (hstop : ∀ one other, middle one other → after one other)
    (hnext : ∀ value value', view value = view value' →
      Agree middle after shown (next value) (next' value')) :
    Agree before after shown (first >>= next) (second >>= next') := by
  intro one other hbefore
  obtain ⟨houtcome, hmiddle⟩ := hcalls one other hbefore
  rw [after_bind, after_bind]
  rcases hfirst : first.after one with ⟨outcome, left⟩
  rcases hsecond : second.after other with ⟨outcome', right⟩
  rw [hfirst, hsecond] at houtcome hmiddle
  obtain ⟨value, value', rfl, rfl, hvalue⟩ | ⟨failure, rfl, rfl⟩ :=
    Outcome.map_eq_map_iff.mp houtcome
  · exact hnext value value' hvalue left right hmiddle
  · exact ⟨rfl, hstop left right hmiddle⟩

theorem Agree.weaken {view : α → γ} {first second : Call α}
    (hcalls : Agree before middle view first second)
    (hstop : ∀ one other, middle one other → after one other) :
    Agree before after view first second := by
  intro one other hbefore
  obtain ⟨houtcome, hmiddle⟩ := hcalls one other hbefore
  exact ⟨houtcome, hstop _ _ hmiddle⟩

theorem agree_pure {view : α → γ} {value value' : α} (hvalue : view value = view value') :
    Agree before before view (pure value) (pure value') := by
  intro one other hbefore
  exact ⟨congrArg Except.ok hvalue, hbefore⟩

theorem agree_refuse (view : α → γ) (refusal : Refusal) :
    Agree before before view (refuse refusal) (refuse refusal) := by
  intro one other hbefore
  exact ⟨rfl, hbefore⟩

theorem agree_encode (text : LooseText) :
    Agree before before id (encode text) (encode text) := by
  intro one other hbefore
  rw [after_encode, after_encode]
  cases text.encode with
  | ok plain => exact ⟨rfl, hbefore⟩
  | error fault => exact ⟨rfl, hbefore⟩

theorem agree_checkIdentifier (subject : Subject) (text : String) :
    Agree before before id (checkIdentifier subject text) (checkIdentifier subject text) := by
  intro one other hbefore
  rw [after_checkIdentifier, after_checkIdentifier]
  by_cases hspelling : Identifier.isSpelling text
  · rw [if_pos hspelling, if_pos hspelling]
    exact ⟨rfl, hbefore⟩
  · rw [if_neg hspelling, if_neg hspelling]
    exact ⟨rfl, hbefore⟩

end Call

namespace Users

open Call Outcome

variable {α β γ δ : Type} {firstService secondService : Service} {first second : Table User}
  {one other : State}

/-- The tables differ in password hashes only.  Identifiers are distinct and updates work. -/
structure Twins (first second : Table User) : Prop where
  seen : first.seen User.view = second.seen User.view
  keys : (first.rows.map User.id).Nodup
  updates : .update ∉ first.failing

structure Alike (one other : State) : Prop where
  users : Twins one.users other.users
  identifiers : one.identifiers = other.identifiers

/-- The states hold the two tables, and give out the same identifiers. -/
structure Hold (first second : Table User) (one other : State) : Prop where
  first : one.users = first
  second : other.users = second
  identifiers : one.identifiers = other.identifiers

theorem Twins.keys_second (htwins : Twins first second) :
    (second.rows.map User.id).Nodup := by
  have hsame : first.rows.map User.id = second.rows.map User.id := by
    have hkeys := Table.keys_seen User.schema_shows first
    rw [htwins.seen, Table.keys_seen User.schema_shows second] at hkeys
    exact hkeys.symm
  exact hsame ▸ htwins.keys

theorem Twins.updates_second (htwins : Twins first second) : .update ∉ second.failing := by
  have hfailing := congrArg Table.failing htwins.seen
  simp only [Table.failing_seen] at hfailing
  exact hfailing ▸ htwins.updates

theorem Twins.alike (htwins : Twins first second) :
    ∀ one other, Hold first second one other → Alike one other := by
  rintro one other ⟨rfl, rfl, hidentifiers⟩
  exact ⟨htwins, hidentifiers⟩

/-! ## Steps -/

theorem agree_ask_bind
    {task : Task} {question question' : Table User → Except StoreError α} (view : α → γ)
    {next next' : α → Call β} {shown : β → δ} {after : State → State → Prop}
    (hquestion : (question first).map view = (question' second).map view)
    (hstop : ∀ one other, Hold first second one other → after one other)
    (hnext : ∀ value value', question first = .ok value → question' second = .ok value' →
      view value = view value' →
        Agree (Hold first second) after shown (next value) (next' value')) :
    Agree (Hold first second) after shown (ask .users task question >>= next)
      (ask .users task question' >>= next') := by
  rintro one other ⟨rfl, rfl, hidentifiers⟩
  have hhold : Hold one.users other.users one other := ⟨rfl, rfl, hidentifiers⟩
  rw [after_bind, after_bind, after_ask, after_ask, Shelf.users_table, Shelf.users_table]
  obtain ⟨value, value', hfirst, hsecond, hvalue⟩ | ⟨error, hfirst, hsecond⟩ :=
    map_eq_map_iff.mp hquestion
  · rw [hfirst, hsecond]
    exact hnext value value' hfirst hsecond hvalue one other hhold
  · rw [hfirst, hsecond]
    exact ⟨rfl, hstop one other hhold⟩

theorem agree_perform
    {task : Task} {operation operation' : Table User → Except StoreError (α × Table User)}
    {view : α → γ} (htwins : Twins first second)
    (hoperation : (operation first).map (Prod.map view (Table.seen User.view)) =
      (operation' second).map (Prod.map view (Table.seen User.view)))
    (hkept : ∀ value after, operation first = .ok (value, after) →
      after.failing = first.failing ∧ (after.rows.map User.id).Nodup) :
    Agree (Hold first second) Alike view (perform .users task operation)
      (perform .users task operation') := by
  rintro one other ⟨rfl, rfl, hidentifiers⟩
  rw [after_perform, after_perform, Shelf.users_table, Shelf.users_table]
  obtain ⟨⟨value, after⟩, ⟨value', after'⟩, hfirst, hsecond, hresult⟩ | ⟨error, hfirst, hsecond⟩ :=
    map_eq_map_iff.mp hoperation
  · obtain ⟨hvalue, hseen⟩ := Prod.mk.inj hresult
    obtain ⟨hfailing, hkeys⟩ := hkept value after hfirst
    have hupdates : .update ∉ after.failing := hfailing ▸ htwins.updates
    rw [hfirst, hsecond]
    exact ⟨congrArg Except.ok hvalue, ⟨hseen, hkeys, hupdates⟩, hidentifiers⟩
  · rw [hfirst, hsecond]
    exact ⟨rfl, htwins, hidentifiers⟩

theorem agree_freshIdentifier :
    Agree (Hold first second) (Hold first second) id freshIdentifier freshIdentifier := by
  intro one other hhold
  rw [after_freshIdentifier, after_freshIdentifier, hhold.identifiers]
  exact ⟨rfl, hhold.first, hhold.second, rfl⟩

/-- Whether a password can be hashed depends on the password only. -/
theorem agree_hashPassword (password : LooseText) :
    Agree (Hold first second) (Hold first second) (fun _ => ())
      (hashPassword firstService password) (hashPassword secondService password) := by
  intro one other hhold
  rw [after_hashPassword, after_hashPassword]
  unfold Password.hash
  split_ifs
  · exact ⟨rfl, hhold.first, hhold.second, hhold.identifiers⟩
  · cases password.encode with
    | error fault => exact ⟨rfl, hhold.first, hhold.second, hhold.identifiers⟩
    | ok plain => exact ⟨rfl, hhold.first, hhold.second, hhold.identifiers⟩

def shownCell (column : LoginColumn) (view : UserView) : Cell :=
  match column with
  | .username => .text view.username
  | .email => .text view.email

theorem cell_eq_shownCell (column : LoginColumn) :
    column.cell = fun user => shownCell column user.view := by
  cases column with
  | username => rfl
  | email => rfl

theorem isTaken_seen (column : LoginColumn) (name : LooseText) (own : Option String)
    (users : Table User) :
    isTaken column name own users =
      if name.isEmpty then .ok false
      else ((users.seen User.view).findName? (shownCell column) name).map fun found =>
        found.any fun view => some view.id ≠ own := by
  unfold isTaken named?
  split_ifs
  · rfl
  · rw [Table.findName?_seen, ← cell_eq_shownCell]
    cases users.findName? column.cell name with
    | error error => rfl
    | ok found =>
        cases found with
        | none => rfl
        | some user => rfl

theorem Twins.takenColumn? (htwins : Twins first second) (credentials : Credentials)
    (own : Option String) :
    takenColumn? credentials own first = takenColumn? credentials own second := by
  unfold Users.takenColumn?
  simp only [isTaken_seen, htwins.seen]

theorem Twins.find? (htwins : Twins first second) (id : String) :
    (first.find? User.schema id).map (Option.map User.view) =
      (second.find? User.schema id).map (Option.map User.view) := by
  rw [← Table.find?_seen User.schema_shows, ← Table.find?_seen User.schema_shows, htwins.seen]

theorem Twins.agree_refuseTaken (htwins : Twins first second) (task : Task)
    (credentials : Credentials) (own : Option String) :
    Agree (Hold first second) (Hold first second) id (refuseTaken task credentials own)
      (refuseTaken task credentials own) := by
  unfold refuseTaken
  apply agree_ask_bind id
  · rw [htwins.takenColumn?]
  · intro one other hhold
    exact hhold
  · rintro column column' - - rfl
    cases column with
    | none => exact agree_pure rfl
    | some column => exact agree_refuse id _

/-! ## Writing steps -/

theorem Twins.agree_put {user user' : User} (htwins : Twins first second)
    (hview : user.view = user'.view) (task : Task) :
    Agree (Hold first second) Alike User.view
      (perform .users task (Table.put User.schema (Draft.ofRow User.schema user)))
      (perform .users task (Table.put User.schema (Draft.ofRow User.schema user'))) := by
  apply agree_perform htwins
  · rw [← Table.put_seen User.schema_shows htwins.keys rfl rfl htwins.updates,
      ← Table.put_seen User.schema_shows htwins.keys_second rfl rfl htwins.updates_second,
      htwins.seen, hview]
  · intro stored after hput
    obtain ⟨-, hfailing, hrows⟩ := Table.rows_of_put htwins.keys hput
    refine ⟨hfailing, ?_⟩
    rcases hrows with ⟨hnew, hrows⟩ | ⟨-, hrows⟩
    · rw [hrows]
      exact Table.nodup_keys_append User.schema htwins.keys hnew
    · rw [hrows]
      exact Table.nodup_keys_overwrite User.schema htwins.keys

theorem Twins.agree_replace {old old' user user' : User} (htwins : Twins first second)
    (hold : old ∈ first.rows) (hold' : old' ∈ second.rows) (hviewed : old.view = old'.view)
    (hview : user.view = user'.view) (hid : user.id = old.id) (task : Task) :
    Agree (Hold first second) Alike User.view
      (perform .users task (Table.replace User.schema old (User.schema.revised old user)))
      (perform .users task (Table.replace User.schema old' (User.schema.revised old' user'))) := by
  have hid' : user'.id = old'.id := by
    have hids := congrArg UserView.id hview
    rw [show user.view.id = old'.view.id from hid.trans (congrArg UserView.id hviewed)] at hids
    exact hids.symm
  apply agree_perform htwins
  · rw [← Table.replace_seen User.schema_shows htwins.keys hold hid rfl rfl htwins.updates,
      ← Table.replace_seen User.schema_shows htwins.keys_second hold' hid' rfl rfl
        htwins.updates_second, htwins.seen, hviewed, hview]
  · intro stored after hreplace
    obtain ⟨-, hfailing, hrows⟩ := Table.rows_of_replace htwins.keys hold hid hreplace
    refine ⟨hfailing, ?_⟩
    rw [hrows]
    exact Table.nodup_keys_overwrite User.schema htwins.keys

theorem Twins.agree_delete (htwins : Twins first second) (key : String) (task : Task) :
    Agree (Hold first second) Alike id
      (perform .users task (Table.delete User.schema key))
      (perform .users task (Table.delete User.schema key)) := by
  apply agree_perform htwins
  · rw [← Table.delete_seen User.schema_shows, ← Table.delete_seen User.schema_shows, htwins.seen]
  · intro found after hdelete
    obtain ⟨hfailing, hrows⟩ := Table.rows_of_delete hdelete
    refine ⟨hfailing, ?_⟩
    rw [hrows]
    exact htwins.keys.sublist (List.filter_sublist.map _)

/-! ## Calls -/

theorem Twins.agree_create (htwins : Twins first second) (credentials : Credentials) :
    Agree (Hold first second) Alike id (create firstService credentials)
      (create secondService credentials) := by
  have hstop := htwins.alike
  unfold create
  simp only [edit_put]
  apply (htwins.agree_refuseTaken _ _ _).bind hstop
  rintro - - -
  apply agree_freshIdentifier.bind hstop
  rintro key - rfl
  -- From here on the two runs hold hashes of their own, which only the stored row gets to see.
  apply (agree_hashPassword _).bind hstop
  intro hash hash' _
  apply (agree_encode _).bind hstop
  rintro username - rfl
  apply (agree_encode _).bind hstop
  rintro email - rfl
  have hview : (User.mk key username email hash).view =
      (User.mk key username email hash').view := rfl
  exact (htwins.agree_put hview _).bind (fun _ _ halike => halike)
    fun stored stored' hstored => agree_pure hstored

theorem Twins.agree_update (htwins : Twins first second) (key : String)
    (credentials : Credentials) :
    Agree (Hold first second) Alike id (update firstService key credentials)
      (update secondService key credentials) := by
  have hstop := htwins.alike
  rw [update_eq, update_eq]
  apply (agree_checkIdentifier _ _).bind hstop
  rintro - - -
  apply agree_ask_bind (Option.map User.view) (htwins.find? key) hstop
  intro found found' hfound hfound' hviewed
  -- The runs find rows that look the same, or neither finds one.
  cases found with
  | none =>
      cases found' with
      | none => exact (agree_refuse id _).weaken hstop
      | some old => cases hviewed
  | some old =>
      cases found' with
      | none => cases hviewed
      | some old' =>
          have hold := List.mem_of_find?_eq_some (Table.find?_eq_ok_iff.mp hfound).2
          have hold' := List.mem_of_find?_eq_some (Table.find?_eq_ok_iff.mp hfound').2
          have hsame : old.view = old'.view := Option.some.inj hviewed
          have hid : old.id = old'.id := congrArg UserView.id hsame
          apply (htwins.agree_refuseTaken _ _ _).bind hstop
          rintro - - -
          apply (agree_hashPassword _).bind hstop
          intro hash hash' _
          apply (agree_encode _).bind hstop
          rintro username - rfl
          apply (agree_encode _).bind hstop
          rintro email - rfl
          have hview : (User.mk old.id username email hash).view =
              (User.mk old'.id username email hash').view := by
            simp [User.view, hid]
          exact (htwins.agree_replace hold hold' hsame hview rfl _).bind
            (fun _ _ halike => halike) fun stored stored' hstored => agree_pure hstored

theorem Twins.agree_remove (htwins : Twins first second) (key : String) :
    Agree (Hold first second) Alike id (delete key) (delete key) := by
  unfold delete
  simp only [edit_delete]
  apply (agree_checkIdentifier _ _).bind htwins.alike
  rintro - - -
  apply (htwins.agree_delete key _).bind fun _ _ halike => halike
  rintro - - -
  exact agree_pure rfl

theorem Twins.agree_list (htwins : Twins first second)
    (hengine : firstService.engine = secondService.engine) (request : Listing.Request) :
    Agree (Hold first second) Alike id (list firstService request)
      (list secondService request) := by
  unfold list
  rw [hengine]
  apply agree_ask_bind (Page.map User.view) _ htwins.alike
  · intro page page' _ _ hview
    exact (agree_pure hview).weaken htwins.alike
  · rw [← Table.page_seen User.schema_shows, ← Table.page_seen User.schema_shows, htwins.seen]

theorem Twins.agree_findOne (htwins : Twins first second) (key : String) :
    Agree (Hold first second) Alike id (findOne key) (findOne key) := by
  unfold findOne
  apply (agree_checkIdentifier _ _).bind htwins.alike
  rintro - - -
  apply agree_ask_bind (Option.map User.view) (htwins.find? key) htwins.alike
  intro found found' _ _ hviewed
  cases found with
  | none =>
      cases found' with
      | none => exact (agree_refuse id _).weaken htwins.alike
      | some user => cases hviewed
  | some user =>
      cases found' with
      | none => cases hviewed
      | some user' => exact (agree_pure (Option.some.inj hviewed)).weaken htwins.alike

theorem Twins.agree_run {call : UserCall} (htwins : Twins first second)
    (hengine : firstService.engine = secondService.engine) (hcall : call.isLogin = false) :
    Agree (Hold first second) Alike id (call.run firstService) (call.run secondService) := by
  have hanswer : ∀ one other, Alike one other → Alike one other := fun _ _ halike => halike
  cases call with
  | create credentials =>
      apply (htwins.agree_create credentials).bind hanswer
      rintro view - rfl
      exact agree_pure rfl
  | update key credentials =>
      apply (htwins.agree_update key credentials).bind hanswer
      rintro view - rfl
      exact agree_pure rfl
  | delete key =>
      apply (htwins.agree_remove key).bind hanswer
      rintro - - -
      exact agree_pure rfl
  | list request =>
      apply (htwins.agree_list hengine request).bind hanswer
      rintro page - rfl
      exact agree_pure rfl
  | findOne key =>
      apply (htwins.agree_findOne key).bind hanswer
      rintro view - rfl
      exact agree_pure rfl
  | login now credentials => cases hcall

/-! ## Runs -/

/-- The outcome of every call of a run, and the state that the call left. -/
def trace (service : Service) : List UserCall → State → List (Except Failure UserAnswer × State)
  | [], _ => []
  | call :: rest, state =>
      (call.run service).after state :: trace service rest ((call.run service).after state).2

/-- The outcomes are the same, and so is what is shown of the users. -/
def LooksLike (entry entry' : Except Failure UserAnswer × State) : Prop :=
  entry.1 = entry'.1 ∧ entry.2.users.seen User.view = entry'.2.users.seen User.view

theorem Alike.trace (halike : Alike one other)
    (hengine : firstService.engine = secondService.engine) {calls : List UserCall}
    (hcalls : ∀ call ∈ calls, call.isLogin = false) :
    List.Forall₂ LooksLike (trace firstService calls one) (trace secondService calls other) := by
  induction calls generalizing one other with
  | nil => exact .nil
  | cons call rest ih =>
      have hcall := hcalls call List.mem_cons_self
      have hhold : Hold one.users other.users one other := ⟨rfl, rfl, halike.identifiers⟩
      obtain ⟨houtcome, hafter⟩ :=
        halike.users.agree_run hengine hcall one other hhold
      rw [Except.map_id, id, id] at houtcome
      refine .cons ⟨houtcome, hafter.users.seen⟩ (ih hafter ?_)
      intro later hlater
      exact hcalls later (List.mem_cons_of_mem call hlater)

/-- From two tables that differ in password hashes only, every run of calls without a login gives
the same outcomes, and leaves tables that differ in password hashes only after every call. -/
theorem password_hashes_stay_secret
    (firstService secondService : Service)
    (hengine : firstService.engine = secondService.engine) (one other : State)
    (calls : List UserCall)
    (hseen : one.users.seen User.view = other.users.seen User.view)
    (hkeys : (one.users.rows.map User.id).Nodup) (hupdates : .update ∉ one.users.failing)
    (hidentifiers : one.identifiers = other.identifiers)
    (hcalls : ∀ call ∈ calls, call.isLogin = false) :
    List.Forall₂ LooksLike (trace firstService calls one) (trace secondService calls other) := by
  have halike : Alike one other := ⟨⟨hseen, hkeys, hupdates⟩, hidentifiers⟩
  exact halike.trace hengine hcalls

def adaWith (hash : String) : State where
  users := { rows :=
    [⟨"00000000-0000-4000-8000-000000000001", "ada", "ada@example.com", hash⟩] }

def curious : List UserCall :=
  [.list ⟨{}, some ⟨"password", .ascending⟩, []⟩,
    .findOne "00000000-0000-4000-8000-000000000001",
    .update "00000000-0000-4000-8000-000000000001" ⟨"eve", "", "SecurePass123!"⟩]

theorem password_hashes_stay_secret_ada :
    (adaWith "first").users.rows ≠ (adaWith "second").users.rows ∧
      List.Forall₂ LooksLike (trace .plain curious (adaWith "first"))
        (trace .plain curious (adaWith "second")) := by
  have hdiffer : (adaWith "first").users.rows ≠ (adaWith "second").users.rows := by
    decide
  have hkeys : ((adaWith "first").users.rows.map User.id).Nodup :=
    List.nodup_singleton _
  have hupdates : .update ∉ (adaWith "first").users.failing :=
    List.not_mem_nil
  have hcalls : ∀ call ∈ curious, call.isLogin = false := by
    simp [curious, UserCall.isLogin]
  exact ⟨hdiffer, password_hashes_stay_secret .plain .plain rfl (adaWith "first")
    (adaWith "second") curious rfl hkeys hupdates rfl hcalls⟩

end Users
end Roster
