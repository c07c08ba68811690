import Roster.Proofs.Service.Call
import Roster.Proofs.Table.Faults
import Mathlib.Tactic

/-!
# Which calls crash

A call is answered when it succeeds or is refused.  It crashes on what the service does not turn
into an answer: a value that the database cannot take is one of these, a statement that fails is
none.  A call crashes when one of its steps does, and a step comes about only when those before it
have succeeded.
-/

namespace Roster

/-- The failures of the store that the service does not answer for. -/
def StoreError.Escapes : StoreError → Prop
  | .outOfRange | .unencodable _ => True
  | .invalid _ | .unordered | .database => False

theorem Failure.ofStore_eq_crashed_iff
    {task : Task} {subject : Subject} {error : StoreError} {crash : Crash} :
    ofStore task subject error = .crashed crash ↔ error.Escapes ∧ crash = .store error := by
  cases error with
  | invalid name => simp [ofStore, StoreError.Escapes]
  | unordered => simp [ofStore, StoreError.Escapes]
  | database => simp [ofStore, StoreError.Escapes]
  | outOfRange => simp [ofStore, StoreError.Escapes, eq_comm]
  | unencodable fault => simp [ofStore, StoreError.Escapes, eq_comm]

namespace Call

variable {α β ρ : Type} {state : State} {crash : Crash}

def CrashesWith (call : Call α) (state : State) (crash : Crash) : Prop :=
  (call.after state).1 = .error (.crashed crash)

/-- Whatever the call fails with is a refusal. -/
def Answers (call : Call α) : Prop :=
  FailsWith (fun failure => ∃ refusal, failure = .refused refusal) call

theorem Answers.not_crashesWith {call : Call α} (hcall : Answers call) :
    ¬ CrashesWith call state crash := by
  intro hcrash
  obtain ⟨refusal, hrefused⟩ := hcall state _ hcrash
  cases hrefused

/-! ## Steps that do not crash -/

theorem answers_pure (value : α) : Answers (pure value) :=
  failsWith_pure value

theorem answers_refuse (refusal : Refusal) : Answers (refuse refusal : Call α) := by
  intro state failure hfailure
  cases hfailure
  exact ⟨refusal, rfl⟩

theorem answers_encode (plain : String) : Answers (encode (LooseText.ofString plain)) := by
  intro state failure hfailure
  rw [after_encode, LooseText.encode_ofString] at hfailure
  cases hfailure

theorem answers_checkIdentifier {subject : Subject} {id : String} :
    Answers (checkIdentifier subject id) := by
  intro state failure hfailure
  rw [after_checkIdentifier] at hfailure
  split_ifs at hfailure
  cases hfailure
  exact ⟨.badIdentifier subject, rfl⟩

theorem answers_find
    {shelf : Shelf ρ} {task : Task} {schema : Schema ρ} {key : String} :
    Answers (ask shelf task (Table.find? schema key)) := by
  intro state failure hfailure
  rw [after_ask] at hfailure
  cases hfind : (shelf.table state).find? schema key with
  | ok found =>
      rw [hfind] at hfailure
      cases hfailure
  | error error =>
      rw [hfind] at hfailure
      cases hfailure
      obtain ⟨-, rfl⟩ := Table.find?_eq_error_iff.mp hfind
      exact ⟨_, rfl⟩

theorem answers_freshIdentifier : Answers freshIdentifier :=
  failsWith_freshIdentifier

theorem answers_perform {shelf : Shelf ρ} {task : Task}
    {operation : Table ρ → Except StoreError (α × Table ρ)}
    (hstore : ∀ table error, operation table = .error error → error = .database) :
    Answers (perform shelf task operation) := by
  apply failsWith_perform
  intro table error herror
  cases hstore table error herror
  exact ⟨_, rfl⟩

/-! ## Steps in sequence -/

theorem crashesWith_bind_iff {call : Call α} {next : α → Call β} :
    CrashesWith (call >>= next) state crash ↔
      CrashesWith call state crash ∨
        ∃ value middle, call.after state = (.ok value, middle) ∧
          CrashesWith (next value) middle crash := by
  unfold CrashesWith
  rw [after_bind]
  rcases call.after state with ⟨outcome, middle⟩
  cases outcome with
  | ok value => simp
  | error failure => simp

/-- After a step that does not crash, only what follows it can. -/
theorem Answers.crashesWith_bind_iff {call : Call α} {next : α → Call β} (hcall : Answers call) :
    CrashesWith (call >>= next) state crash ↔
      ∃ value middle, call.after state = (.ok value, middle) ∧
        CrashesWith (next value) middle crash := by
  rw [Call.crashesWith_bind_iff, or_iff_right hcall.not_crashesWith]

theorem crashesWith_checkIdentifier_bind_iff
    {subject : Subject} {id : String} {next : Unit → Call β} :
    CrashesWith (checkIdentifier subject id >>= next) state crash ↔
      Identifier.isSpelling id = true ∧ CrashesWith (next ()) state crash := by
  rw [Call.crashesWith_bind_iff]
  unfold CrashesWith
  rw [after_checkIdentifier]
  by_cases hid : Identifier.isSpelling id = true
  · simp only [hid, if_true, Prod.mk.injEq, true_and]
    constructor
    · rintro (h | ⟨_, _, rfl, h⟩)
      · cases h
      · exact h
    · intro h
      exact Or.inr ⟨(), state, rfl, h⟩
  · simp [hid]

theorem crashesWith_ask_bind_iff
    {shelf : Shelf ρ} {task : Task} {question : Table ρ → Except StoreError α}
    {next : α → Call β} :
    CrashesWith (ask shelf task question >>= next) state crash ↔
      (∃ error, question (shelf.table state) = .error error ∧ error.Escapes ∧
          crash = .store error) ∨
        ∃ value, question (shelf.table state) = .ok value ∧
          CrashesWith (next value) state crash := by
  rw [Call.crashesWith_bind_iff]
  unfold CrashesWith
  rw [after_ask]
  cases question (shelf.table state) with
  | ok value => simp
  | error error => simp [Failure.ofStore_eq_crashed_iff]

/-- Looking for a key does not crash, and what follows is only tried when there is a row that has
it. -/
theorem crashesWith_find_bind_iff
    {shelf : Shelf ρ} {task : Task} {schema : Schema ρ} {key : String}
    {next : Option ρ → Call β} {stops : Prop}
    (hnone : ¬ CrashesWith (next none) state crash)
    (hsome : .select ∉ (shelf.table state).failing →
      ∀ old, CrashesWith (next (some old)) state crash ↔ stops) :
    CrashesWith (ask shelf task (Table.find? schema key) >>= next) state crash ↔
      .select ∉ (shelf.table state).failing ∧
        (∃ old ∈ (shelf.table state).rows, schema.key old = key) ∧ stops := by
  rw [crashesWith_ask_bind_iff]
  constructor
  · rintro (⟨error, herror, hescapes, -⟩ | ⟨found, hfound, hcrash⟩)
    · obtain ⟨-, rfl⟩ := Table.find?_eq_error_iff.mp herror
      cases hescapes
    · obtain ⟨hselect, hrow⟩ := Table.find?_eq_ok_iff.mp hfound
      cases found with
      | none => exact absurd hcrash hnone
      | some old =>
          have hkey : schema.key old = key := by simpa using List.find?_some hrow
          exact ⟨hselect, ⟨old, List.mem_of_find?_eq_some hrow, hkey⟩,
            (hsome hselect old).mp hcrash⟩
  · rintro ⟨hselect, ⟨old, hold, hkey⟩, hstops⟩
    have hthere : ((shelf.table state).rows.find? (schema.key · = key)).isSome := by
      rw [List.find?_isSome]
      exact ⟨old, hold, decide_eq_true hkey⟩
    obtain ⟨first, hfirst⟩ := Option.isSome_iff_exists.mp hthere
    exact Or.inr ⟨some first, Table.find?_eq_ok_iff.mpr ⟨hselect, hfirst⟩,
      (hsome hselect first).mpr hstops⟩

theorem crashesWith_encode_bind_iff {text : LooseText} {next : String → Call β} :
    CrashesWith (encode text >>= next) state crash ↔
      (∃ fault, text.encode = .error fault ∧ crash = .store (.unencodable fault)) ∨
        ∃ plain, text = LooseText.ofString plain ∧ CrashesWith (next plain) state crash := by
  rw [Call.crashesWith_bind_iff]
  unfold CrashesWith
  rw [after_encode]
  simp only [← LooseText.encode_eq_ok_iff]
  cases text.encode with
  | ok plain => simp
  | error fault => simp [eq_comm]

end Call
end Roster
