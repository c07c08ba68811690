import Roster.Service.State
import Roster.Proofs.Table.Session
import Mathlib.Tactic

/-!
# Calls of the service, step by step

A call is a sequence of steps, and only the steps that write to a table can change one.  A call
is *quiet* when no step of it writes, and *atomic* when it leaves both tables alone whenever it
fails.  A step that works on a table in a session comes to one operation on the table, and it is
atomic because nothing is kept of an operation that fails.  What comes before a writing step has to
be quiet, and what comes after it must not fail.
-/

namespace Roster

/-- Both tables are what they were; counters and the outbox may differ. -/
structure SameTables (before after : State) : Prop where
  users : after.users = before.users
  campaigns : after.campaigns = before.campaigns

theorem SameTables.refl (state : State) : SameTables state state :=
  ⟨rfl, rfl⟩

theorem SameTables.trans {first second third : State}
    (hfirst : SameTables first second) (hsecond : SameTables second third) :
    SameTables first third :=
  ⟨hsecond.users.trans hfirst.users, hsecond.campaigns.trans hfirst.campaigns⟩

/-- A service with the usual settings that salts nothing. -/
def Service.plain : Service where
  signer := { secret := "secret" }
  salt := fun _ => []

namespace Call

variable {α β ρ : Type}

/-! ## Steps in sequence -/

theorem eq_of_after {first second : Call α}
    (hafter : ∀ state, first.after state = second.after state) : first = second :=
  funext hafter

theorem after_bind (call : Call α) (next : α → Call β) (state : State) :
    (call >>= next).after state =
      match call.after state with
      | (.ok value, middle) => (next value).after middle
      | (.error failure, middle) => (.error failure, middle) := by
  have hbind : (call >>= next).after state =
      (ExceptT.bindCont next (call.after state).1).run (call.after state).2 := rfl
  rw [hbind]
  rcases call.after state with ⟨outcome, middle⟩
  cases outcome with
  | ok value => rfl
  | error failure => rfl

theorem after_bind_eq_ok_iff
    {call : Call α} {next : α → Call β} {state after : State} {result : β} :
    (call >>= next).after state = (.ok result, after) ↔
      ∃ value middle, call.after state = (.ok value, middle) ∧
        (next value).after middle = (.ok result, after) := by
  rw [after_bind]
  rcases call.after state with ⟨outcome, middle⟩
  cases outcome with
  | ok value => simp
  | error failure => simp

@[simp] theorem after_pure (value : α) (state : State) :
    (pure value : Call α).after state = (.ok value, state) := rfl

@[simp] theorem after_refuse (refusal : Refusal) (state : State) :
    (refuse refusal : Call α).after state =
      (.error (.refused refusal), state) := rfl

@[simp] theorem after_crash (crash : Crash) (state : State) :
    (Call.crash crash : Call α).after state =
      (.error (.crashed crash), state) := rfl

@[simp] theorem after_get (state : State) :
    (get : Call State).after state = (.ok state, state) := rfl

@[simp] theorem after_modify (change : State → State) (state : State) :
    (modify change : Call Unit).after state = (.ok (), change state) := rfl

/-! ## Single steps -/

/-- Carries out an operation on a table, of which nothing is kept when it fails. -/
def perform (shelf : Shelf ρ) (task : Task)
    (operation : Table ρ → Except StoreError (α × Table ρ)) : Call α := do
  match operation (shelf.table (← get)) with
  | .ok (value, table) =>
    modify (shelf.place table)
    return value
  | .error error => throw (Failure.ofStore task shelf.subject error)

theorem after_perform (shelf : Shelf ρ) (task : Task)
    (operation : Table ρ → Except StoreError (α × Table ρ)) (state : State) :
    (perform shelf task operation).after state =
      match operation (shelf.table state) with
      | .ok (value, table) => (.ok value, shelf.place table state)
      | .error error => (.error (.ofStore task shelf.subject error), state) := by
  unfold perform
  rw [after_bind]
  simp only [after_get]
  rcases operation (shelf.table state) with error | ⟨value, table⟩
  · rfl
  · rfl

theorem after_ask (shelf : Shelf ρ) (task : Task)
    (question : Table ρ → Except StoreError α) (state : State) :
    (ask shelf task question).after state =
      match question (shelf.table state) with
      | .ok value => (.ok value, state)
      | .error error => (.error (.ofStore task shelf.subject error), state) := by
  unfold ask
  rw [after_bind]
  simp only [after_get]
  cases question (shelf.table state) with
  | ok value => rfl
  | error error => rfl

theorem after_freshIdentifier (state : State) :
    freshIdentifier.after state =
      (.ok (Identifier.generated (state.identifiers + 1)),
        { state with identifiers := state.identifiers + 1 }) := rfl

theorem after_encode (text : LooseText) (state : State) :
    (encode text).after state =
      match text.encode with
      | .ok plain => (.ok plain, state)
      | .error fault => (.error (.crashed (.store (.unencodable fault))), state) := by
  unfold encode
  cases text.encode with
  | ok plain => rfl
  | error fault => rfl

theorem after_checkIdentifier (subject : Subject) (id : String) (state : State) :
    (checkIdentifier subject id).after state =
      if Identifier.isSpelling id then (.ok (), state)
      else (.error (.refused (.badIdentifier subject)), state) := by
  unfold checkIdentifier
  by_cases hid : Identifier.isSpelling id
  · rw [if_pos hid, if_pos hid, after_pure]
  · rw [if_neg hid, if_neg hid, after_refuse]

/-! ## Work in sessions -/

theorem after_edit (shelf : Shelf ρ) (task : Task) (work : Work ρ StoreError α) (state : State) :
    (edit shelf task work).after state =
      ((work.onTable (shelf.table state)).1.mapError (.ofStore task shelf.subject),
        shelf.place (work.onTable (shelf.table state)).2 state) := by
  unfold edit
  rw [after_bind]
  simp only [after_get]
  rcases work.onTable (shelf.table state) with ⟨outcome, table⟩
  cases outcome with
  | ok value => rfl
  | error error => rfl

/-- Work that comes to an operation is that operation. -/
theorem after_edit_eq {shelf : Shelf ρ} {task : Task} {work : Work ρ StoreError α}
    {operation : Table ρ → Except StoreError (α × Table ρ)} {state : State}
    (hwork : work.onTable (shelf.table state) =
      (shelf.table state).settled (operation (shelf.table state))) :
    (edit shelf task work).after state = (perform shelf task operation).after state := by
  rw [after_edit, after_perform, hwork]
  rcases operation (shelf.table state) with error | ⟨value, table⟩
  · exact congrArg (Prod.mk _) (shelf.place_table state)
  · rfl

theorem edit_put (shelf : Shelf ρ) (task : Task) (schema : Schema ρ) (draft : Draft ρ) :
    edit shelf task (Repository.put schema draft) =
      perform shelf task (Table.put schema draft) := by
  apply eq_of_after
  intro state
  exact after_edit_eq (Repository.put_onTable draft (shelf.table state))

theorem edit_delete (shelf : Shelf ρ) (task : Task) (schema : Schema ρ) (key : String) :
    edit shelf task (Repository.delete schema key) =
      perform shelf task (Table.delete schema key) := by
  apply eq_of_after
  intro state
  exact after_edit_eq (Repository.delete_onTable key (shelf.table state))

/-- The calls do the same in all states of a kind. -/
def SameWhere (good : State → Prop) (first second : Call α) : Prop :=
  ∀ state, good state → first.after state = second.after state

section SameWhere

variable {good : State → Prop}

theorem sameWhere_refl (call : Call α) : SameWhere good call call := by
  intro state _
  rfl

theorem SameWhere.bind_left {first second : Call α} (hcalls : SameWhere good first second)
    (next : α → Call β) : SameWhere good (first >>= next) (second >>= next) := by
  intro state hgood
  rw [after_bind, after_bind, hcalls state hgood]

theorem SameWhere.bind_right {call : Call α} {next next' : α → Call β}
    (hstays : ∀ state, good state → good (call.after state).2)
    (hnext : ∀ value, SameWhere good (next value) (next' value)) :
    SameWhere good (call >>= next) (call >>= next') := by
  intro state hgood
  have hmiddle := hstays state hgood
  rw [after_bind, after_bind]
  rcases hafter : call.after state with ⟨outcome, middle⟩
  rw [hafter] at hmiddle
  cases outcome with
  | ok value => exact hnext value middle hmiddle
  | error failure => rfl

end SameWhere

/-- Selects work on the table of the shelf. -/
def Readable (shelf : Shelf ρ) (state : State) : Prop :=
  .select ∉ (shelf.table state).failing

theorem sameWhere_edit_replace (shelf : Shelf ρ) (task : Task) (schema : Schema ρ) (old : ρ)
    (changed : Except StoreError (Option ρ)) :
    SameWhere (Readable shelf) (edit shelf task (Repository.replace schema old changed))
      (perform shelf task (Table.replace schema old changed)) := by
  intro state hreadable
  exact after_edit_eq (Repository.replace_onTable hreadable old changed)

/-- What follows a lookup goes on only if selects work. -/
theorem ask_find?_bind_congr {shelf : Shelf ρ} {task : Task} {schema : Schema ρ} {key : String}
    {next next' : Option ρ → Call β}
    (hnext : ∀ found, SameWhere (Readable shelf) (next found) (next' found)) :
    ask shelf task (Table.find? schema key) >>= next =
      ask shelf task (Table.find? schema key) >>= next' := by
  apply eq_of_after
  intro state
  rw [after_bind, after_bind, after_ask]
  cases hfind : (shelf.table state).find? schema key with
  | ok found => exact hnext found state (Table.find?_eq_ok_iff.mp hfind).1
  | error error => rfl

/-! ## Successful steps

What is known when a call that starts with the step succeeds. -/

section Success

variable {next : α → Call β} {state after : State} {result : β}

theorem perform_ok
    {shelf : Shelf ρ} {task : Task}
    {operation : Table ρ → Except StoreError (α × Table ρ)} {value : α}
    (hcall : (perform shelf task operation).after state = (.ok value, after)) :
    ∃ table, operation (shelf.table state) = .ok (value, table) ∧
      after = shelf.place table state := by
  rw [after_perform] at hcall
  cases hoperation : operation (shelf.table state) with
  | ok outcome =>
      rw [hoperation] at hcall
      obtain ⟨hvalue, hafter⟩ := Prod.mk.inj hcall
      cases hvalue
      exact ⟨outcome.2, rfl, hafter.symm⟩
  | error error =>
      rw [hoperation] at hcall
      cases hcall

theorem perform_bind_ok
    {shelf : Shelf ρ} {task : Task}
    {operation : Table ρ → Except StoreError (α × Table ρ)}
    (hcall : (perform shelf task operation >>= next).after state = (.ok result, after)) :
    ∃ value table, operation (shelf.table state) = .ok (value, table) ∧
      (next value).after (shelf.place table state) = (.ok result, after) := by
  obtain ⟨value, middle, hfirst, hrest⟩ := after_bind_eq_ok_iff.mp hcall
  obtain ⟨table, hoperation, rfl⟩ := perform_ok hfirst
  exact ⟨value, table, hoperation, hrest⟩

theorem ask_bind_ok
    {shelf : Shelf ρ} {task : Task} {question : Table ρ → Except StoreError α}
    (hcall : (ask shelf task question >>= next).after state = (.ok result, after)) :
    ∃ value, question (shelf.table state) = .ok value ∧
      (next value).after state = (.ok result, after) := by
  rw [after_bind, after_ask] at hcall
  cases hquestion : question (shelf.table state) with
  | ok value =>
      rw [hquestion] at hcall
      exact ⟨value, rfl, hcall⟩
  | error error =>
      rw [hquestion] at hcall
      cases hcall

theorem encode_bind_ok
    {text : LooseText} {next : String → Call β}
    (hcall : (encode text >>= next).after state = (.ok result, after)) :
    ∃ plain, text = LooseText.ofString plain ∧
      (next plain).after state = (.ok result, after) := by
  rw [after_bind, after_encode] at hcall
  cases hencode : text.encode with
  | ok plain =>
      rw [hencode] at hcall
      exact ⟨plain, LooseText.encode_eq_ok_iff.mp hencode, hcall⟩
  | error fault =>
      rw [hencode] at hcall
      cases hcall

theorem checkIdentifier_bind_ok
    {subject : Subject} {id : String} {next : Unit → Call β}
    (hcall : (checkIdentifier subject id >>= next).after state =
      (.ok result, after)) :
    Identifier.isSpelling id ∧ (next ()).after state = (.ok result, after) := by
  rw [after_bind, after_checkIdentifier] at hcall
  by_cases hid : Identifier.isSpelling id
  · rw [if_pos hid] at hcall
    exact ⟨hid, hcall⟩
  · rw [if_neg hid] at hcall
    cases hcall

end Success

/-! ## Calls that only read -/

/-- Whatever comes of the call, it leaves the state as it was. -/
def ReadsOnly (call : Call α) : Prop :=
  ∀ state, (call.after state).2 = state

theorem readsOnly_pure (value : α) : ReadsOnly (pure value) := by
  intro state
  rfl

theorem readsOnly_refuse (refusal : Refusal) : ReadsOnly (refuse refusal : Call α) := by
  intro state
  rfl

theorem readsOnly_crash (crash : Crash) : ReadsOnly (Call.crash crash : Call α) := by
  intro state
  rfl

theorem readsOnly_ask (shelf : Shelf ρ) (task : Task)
    (question : Table ρ → Except StoreError α) : ReadsOnly (ask shelf task question) := by
  intro state
  rw [after_ask]
  cases question (shelf.table state) with
  | ok value => rfl
  | error error => rfl

theorem readsOnly_encode (text : LooseText) : ReadsOnly (encode text) := by
  intro state
  rw [after_encode]
  cases text.encode with
  | ok plain => rfl
  | error fault => rfl

theorem readsOnly_checkIdentifier (subject : Subject) (id : String) :
    ReadsOnly (checkIdentifier subject id) := by
  intro state
  rw [after_checkIdentifier]
  by_cases hid : Identifier.isSpelling id
  · rw [if_pos hid]
  · rw [if_neg hid]

theorem ReadsOnly.bind {call : Call α} {next : α → Call β}
    (hcall : ReadsOnly call) (hnext : ∀ value, ReadsOnly (next value)) :
    ReadsOnly (call >>= next) := by
  intro state
  have hfirst := hcall state
  rw [after_bind]
  rcases hafter : call.after state with ⟨outcome, middle⟩
  rw [hafter] at hfirst
  subst hfirst
  cases outcome with
  | ok value => exact hnext value middle
  | error failure => rfl

/-! ## Quiet calls -/

/-- Whatever comes of the call, it leaves both tables alone. -/
def Quiet (call : Call α) : Prop :=
  ∀ state, SameTables state (call.after state).2

theorem ReadsOnly.quiet {call : Call α} (hcall : ReadsOnly call) : Quiet call := by
  intro state
  rw [hcall state]
  exact .refl state

theorem quiet_pure (value : α) : Quiet (pure value) :=
  (readsOnly_pure value).quiet

theorem quiet_refuse (refusal : Refusal) : Quiet (refuse refusal : Call α) :=
  (readsOnly_refuse refusal).quiet

theorem quiet_ask (shelf : Shelf ρ) (task : Task)
    (question : Table ρ → Except StoreError α) : Quiet (ask shelf task question) :=
  (readsOnly_ask shelf task question).quiet

theorem quiet_freshIdentifier : Quiet freshIdentifier := by
  intro state
  exact ⟨rfl, rfl⟩

theorem quiet_encode (text : LooseText) : Quiet (encode text) :=
  (readsOnly_encode text).quiet

theorem quiet_checkIdentifier (subject : Subject) (id : String) :
    Quiet (checkIdentifier subject id) :=
  (readsOnly_checkIdentifier subject id).quiet

theorem Quiet.sameTables {call : Call α} {outcome : Except Failure α}
    {state after : State}
    (hquiet : Quiet call) (hcall : call.after state = (outcome, after)) :
    SameTables state after := by
  have htables := hquiet state
  rwa [hcall] at htables

theorem Quiet.readable {shelf : Shelf ρ} {call : Call α} (hquiet : Quiet call)
    (hshelf : ∀ {before after}, SameTables before after →
      shelf.table after = shelf.table before)
    (state : State) (hreadable : Readable shelf state) :
    Readable shelf (call.after state).2 := by
  unfold Readable
  rwa [hshelf (hquiet state)]

theorem Quiet.bind {call : Call α} {next : α → Call β}
    (hcall : Quiet call) (hnext : ∀ value, Quiet (next value)) :
    Quiet (call >>= next) := by
  intro state
  have hfirst := hcall state
  rw [after_bind]
  rcases hafter : call.after state with ⟨outcome, middle⟩
  rw [hafter] at hfirst
  cases outcome with
  | ok value => exact hfirst.trans (hnext value middle)
  | error failure => exact hfirst

/-! ## Atomic calls -/

/-- A call that fails leaves both tables alone. -/
def Atomic (call : Call α) : Prop :=
  ∀ state failure, (call.after state).1 = .error failure →
    SameTables state (call.after state).2

theorem Atomic.sameTables {call : Call α} {failure : Failure} {state after : State}
    (hatomic : Atomic call) (hcall : call.after state = (.error failure, after)) :
    SameTables state after := by
  have htables := hatomic state failure
  rw [hcall] at htables
  exact htables rfl

theorem Quiet.atomic {call : Call α} (hcall : Quiet call) : Atomic call := by
  intro state _ _
  exact hcall state

theorem atomic_perform (shelf : Shelf ρ) (task : Task)
    (operation : Table ρ → Except StoreError (α × Table ρ)) :
    Atomic (perform shelf task operation) := by
  intro state failure hfailure
  rw [after_perform] at hfailure ⊢
  cases hoperation : operation (shelf.table state) with
  | ok result =>
      rw [hoperation] at hfailure
      cases hfailure
  | error error => exact .refl state

theorem Quiet.bind_atomic {call : Call α} {next : α → Call β}
    (hcall : Quiet call) (hnext : ∀ value, Atomic (next value)) :
    Atomic (call >>= next) := by
  intro state failure hfailure
  have hfirst := hcall state
  rw [after_bind] at hfailure ⊢
  rcases hafter : call.after state with ⟨outcome, middle⟩
  rw [hafter] at hfirst hfailure
  cases outcome with
  | ok value => exact hfirst.trans (hnext value middle failure hfailure)
  | error _ => exact hfirst

/-- Steps that cannot fail may follow a step that writes. -/
theorem Atomic.bind_total {call : Call α} {next : α → Call β}
    (hcall : Atomic call)
    (hnext : ∀ value state failure,
      ((next value).after state).1 ≠ .error failure) :
    Atomic (call >>= next) := by
  intro state failure hfailure
  have hfirst := hcall state
  rw [after_bind] at hfailure ⊢
  rcases hafter : call.after state with ⟨outcome, middle⟩
  rw [hafter] at hfirst hfailure
  cases outcome with
  | ok value => exact absurd hfailure (hnext value middle failure)
  | error error => exact hfirst error rfl

theorem Atomic.bind_pure {call : Call α} (hcall : Atomic call) (answer : α → β) :
    Atomic (call >>= fun value => pure (answer value)) := by
  apply hcall.bind_total
  intro value state failure hfailure
  cases hfailure

/-! ## Ways to fail -/

/-- Whatever the call fails with is of the given kind. -/
def FailsWith (kind : Failure → Prop) (call : Call α) : Prop :=
  ∀ state failure, (call.after state).1 = .error failure → kind failure

section FailsWith

variable {kind : Failure → Prop}

theorem failsWith_pure (value : α) : FailsWith kind (pure value) := by
  intro state failure hfailure
  cases hfailure

theorem failsWith_perform {shelf : Shelf ρ} {task : Task}
    {operation : Table ρ → Except StoreError (α × Table ρ)}
    (hstore : ∀ table error, operation table = .error error →
      kind (.ofStore task shelf.subject error)) :
    FailsWith kind (perform shelf task operation) := by
  intro state failure hfailure
  rw [after_perform] at hfailure
  cases hoperation : operation (shelf.table state) with
  | ok outcome =>
      rw [hoperation] at hfailure
      cases hfailure
  | error error =>
      rw [hoperation] at hfailure
      cases hfailure
      exact hstore _ error hoperation

theorem failsWith_freshIdentifier : FailsWith kind freshIdentifier := by
  intro state failure hfailure
  cases hfailure

theorem failsWith_encode
    (hcrash : ∀ fault, kind (.crashed (.store (.unencodable fault)))) (text : LooseText) :
    FailsWith kind (encode text) := by
  intro state failure hfailure
  rw [after_encode] at hfailure
  cases hencode : text.encode with
  | ok plain =>
      rw [hencode] at hfailure
      cases hfailure
  | error fault =>
      rw [hencode] at hfailure
      cases hfailure
      exact hcrash fault

/-- A failure of no kind that the call has does not occur. -/
theorem FailsWith.ne_error {failure : Failure} {call : Call α}
    (hcall : FailsWith (· ≠ failure) call) (state : State) :
    (call.after state).1 ≠ .error failure := by
  intro hfailure
  exact hcall state failure hfailure rfl

theorem FailsWith.bind {call : Call α} {next : α → Call β}
    (hcall : FailsWith kind call) (hnext : ∀ value, FailsWith kind (next value)) :
    FailsWith kind (call >>= next) := by
  intro state failure hfailure
  have hfirst := hcall state
  rw [after_bind] at hfailure
  rcases hafter : call.after state with ⟨outcome, middle⟩
  rw [hafter] at hfirst hfailure
  cases outcome with
  | ok value => exact hnext value middle failure hfailure
  | error error =>
      cases hfailure
      exact hfirst failure rfl

end FailsWith

/-! ## Calls and the outbox -/

/-- Whatever comes of the call, it tells the broker nothing. -/
def Silent (call : Call α) : Prop :=
  ∀ state, (call.after state).2.outbox = state.outbox

/-- A call that succeeds adds to the outbox what belongs to its answer, and a call that fails adds
nothing. -/
def Tells (call : Call α) (heard : α → List ProducerCall) : Prop :=
  ∀ state, (call.after state).2.outbox =
    state.outbox ++
      match (call.after state).1 with
      | .ok value => heard value
      | .error _ => []

theorem ReadsOnly.silent {call : Call α} (hcall : ReadsOnly call) : Silent call := by
  intro state
  rw [hcall state]

theorem silent_freshIdentifier : Silent freshIdentifier := by
  intro state
  rfl

theorem silent_perform {shelf : Shelf ρ}
    (hplace : ∀ table state, (shelf.place table state).outbox = state.outbox) (task : Task)
    (operation : Table ρ → Except StoreError (α × Table ρ)) :
    Silent (perform shelf task operation) := by
  intro state
  rw [after_perform]
  cases operation (shelf.table state) with
  | ok result => exact hplace _ _
  | error error => rfl

theorem Silent.bind {call : Call α} {next : α → Call β}
    (hcall : Silent call) (hnext : ∀ value, Silent (next value)) :
    Silent (call >>= next) := by
  intro state
  have hfirst := hcall state
  rw [after_bind]
  rcases hafter : call.after state with ⟨outcome, middle⟩
  rw [hafter] at hfirst
  cases outcome with
  | ok value => exact (hnext value middle).trans hfirst
  | error failure => exact hfirst

theorem tells_refuse (refusal : Refusal) (heard : α → List ProducerCall) :
    Tells (refuse refusal) heard := by
  intro state
  simp

theorem Silent.bind_tells
    {call : Call α} {next : α → Call β} {heard : β → List ProducerCall}
    (hcall : Silent call) (hnext : ∀ value, Tells (next value) heard) :
    Tells (call >>= next) heard := by
  intro state
  have hfirst := hcall state
  rw [after_bind]
  rcases hafter : call.after state with ⟨outcome, middle⟩
  rw [hafter] at hfirst
  cases outcome with
  | ok value =>
      have hrest := hnext value middle
      rw [hfirst] at hrest
      exact hrest
  | error failure => simpa using hfirst

/-! ## Counting identifiers -/

/-- Whatever comes of the call, the count of identifiers does not go back. -/
def Counts (call : Call α) : Prop :=
  ∀ state, state.identifiers ≤ (call.after state).2.identifiers

theorem ReadsOnly.counts {call : Call α} (hcall : ReadsOnly call) : Counts call := by
  intro state
  rw [hcall state]

theorem counts_freshIdentifier : Counts freshIdentifier := by
  intro state
  exact Nat.le_succ state.identifiers

theorem counts_perform {shelf : Shelf ρ}
    (hplace : ∀ table state, (shelf.place table state).identifiers = state.identifiers)
    (task : Task) (operation : Table ρ → Except StoreError (α × Table ρ)) :
    Counts (perform shelf task operation) := by
  intro state
  rw [after_perform]
  cases operation (shelf.table state) with
  | ok result => exact (hplace _ _).ge
  | error error => exact Nat.le_refl _

theorem Counts.bind {call : Call α} {next : α → Call β}
    (hcall : Counts call) (hnext : ∀ value, Counts (next value)) :
    Counts (call >>= next) := by
  intro state
  have hfirst := hcall state
  rw [after_bind]
  rcases hafter : call.after state with ⟨outcome, middle⟩
  rw [hafter] at hfirst
  cases outcome with
  | ok value => exact hfirst.trans (hnext value middle)
  | error failure => exact hfirst

end Call
end Roster
