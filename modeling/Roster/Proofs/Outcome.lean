import Mathlib.Tactic

/-!
# Outcomes of operations in sequence

An operation that is followed by another one succeeds exactly when both do, and a change of its
failures does not touch its success.  Every account of an operation on the store starts by taking
it apart with these equivalences.
-/

namespace Roster
namespace Outcome

variable {ε α β : Type}

theorem ok_bind (value : α) (next : α → Except ε β) :
    Except.ok value >>= next = next value := rfl

theorem bind_eq_ok_iff
    {first : Except ε α} {next : α → Except ε β} {result : β} :
    first >>= next = .ok result ↔
      ∃ value, first = .ok value ∧ next value = .ok result := by
  cases first with
  | ok value => simp [bind, Except.bind]
  | error failure => simp [bind, Except.bind]

theorem mapError_eq_ok_iff
    {δ : Type} {first : Except ε α} {change : ε → δ} {result : α} :
    first.mapError change = .ok result ↔ first = .ok result := by
  cases first with
  | ok value => simp [Except.mapError]
  | error failure => simp [Except.mapError]

theorem map_eq_ok_iff {first : Except ε α} {view : α → β} {result : β} :
    first.map view = .ok result ↔ ∃ value, first = .ok value ∧ view value = result := by
  cases first with
  | ok value => simp [Except.map]
  | error failure => simp [Except.map]

theorem map_eq_error_iff {first : Except ε α} {view : α → β} {failure : ε} :
    first.map view = .error failure ↔ first = .error failure := by
  cases first with
  | ok value => simp [Except.map]
  | error other => simp [Except.map]

/-- Outcomes that look the same have failed alike, or succeeded with values that look the same. -/
theorem map_eq_map_iff
    {γ : Type} {first : Except ε α} {second : Except ε β} {view : α → γ} {shown : β → γ} :
    first.map view = second.map shown ↔
      (∃ value other, first = .ok value ∧ second = .ok other ∧ view value = shown other) ∨
        ∃ failure, first = .error failure ∧ second = .error failure := by
  cases first with
  | ok value =>
      cases second with
      | ok other => simp [Except.map]
      | error failure => simp [Except.map]
  | error failure =>
      cases second with
      | ok other => simp [Except.map]
      | error other => simp [Except.map, eq_comm]

theorem pure_eq_ok_iff {value result : α} :
    (pure value : Except ε α) = .ok result ↔ value = result := by
  simp [pure, Except.pure]

section Causes

/-! An operation is told apart by what makes it succeed or fail when there is always such a cause
and each cause has its own outcome. -/

variable {outcome : Except ε α} {Yields : α → Prop} {Faulty : ε → Prop}

theorem eq_ok_iff_of_causes (hok : ∀ value, Yields value → outcome = .ok value)
    (herror : ∀ failure, Faulty failure → outcome = .error failure)
    (hcauses : (∃ value, Yields value) ∨ ∃ failure, Faulty failure) {value : α} :
    outcome = .ok value ↔ Yields value := by
  refine ⟨?_, hok value⟩
  intro houtcome
  rcases hcauses with ⟨found, hfound⟩ | ⟨failure, hfailure⟩
  · rw [hok found hfound] at houtcome
    exact Except.ok.inj houtcome ▸ hfound
  · rw [herror failure hfailure] at houtcome
    cases houtcome

theorem eq_error_iff_of_causes (hok : ∀ value, Yields value → outcome = .ok value)
    (herror : ∀ failure, Faulty failure → outcome = .error failure)
    (hcauses : (∃ value, Yields value) ∨ ∃ failure, Faulty failure) {failure : ε} :
    outcome = .error failure ↔ Faulty failure := by
  refine ⟨?_, herror failure⟩
  intro houtcome
  rcases hcauses with ⟨value, hvalue⟩ | ⟨found, hfound⟩
  · rw [hok value hvalue] at houtcome
    cases houtcome
  · rw [herror found hfound] at houtcome
    exact Except.error.inj houtcome ▸ hfound

end Causes

/-- Items are taken one after another, so all of them are taken or there is no outcome. -/
theorem mapM_eq_ok_iff {items : List α} {take : α → Except ε β} {results : List β} :
    items.mapM take = .ok results ↔
      List.Forall₂ (fun item result => take item = .ok result) items results := by
  induction items generalizing results with
  | nil =>
      rw [List.mapM_nil, pure_eq_ok_iff, List.forall₂_nil_left_iff]
      exact eq_comm
  | cons first rest hrest =>
      rw [List.mapM_cons, bind_eq_ok_iff, List.forall₂_cons_left_iff]
      simp only [bind_eq_ok_iff, pure_eq_ok_iff, hrest]
      constructor
      · rintro ⟨result, hfirst, others, hothers, rfl⟩
        exact ⟨result, others, hfirst, hothers, rfl⟩
      · rintro ⟨result, others, hfirst, hothers, rfl⟩
        exact ⟨result, hfirst, others, hothers, rfl⟩

/-- The results are what the items were taken as. -/
theorem mem_mapM_iff {items : List α} {take : α → Except ε β} {results : List β}
    (hresults : items.mapM take = .ok results) {result : β} :
    result ∈ results ↔ ∃ item ∈ items, take item = .ok result := by
  have hpairs := mapM_eq_ok_iff.mp hresults
  clear hresults
  induction hpairs with
  | nil => simp
  | cons hfirst _ ih => simp [hfirst, ih, eq_comm]

theorem mapM_replicate {take : α → Except ε β} {item : α} {result : β}
    (htake : take item = .ok result) (count : Nat) :
    (List.replicate count item).mapM take = .ok (List.replicate count result) := by
  induction count with
  | zero => rfl
  | succ count ih =>
      rw [List.replicate_succ, List.mapM_cons, htake, ok_bind, ih]
      rfl

theorem bind_eq_error_iff
    {first : Except ε α} {next : α → Except ε β} {failure : ε} :
    first >>= next = .error failure ↔
      first = .error failure ∨ ∃ value, first = .ok value ∧ next value = .error failure := by
  cases first with
  | ok value => simp [bind, Except.bind]
  | error other => simp [bind, Except.bind]

/-- The first item that cannot be taken decides how taking them all fails. -/
theorem mapM_eq_error_iff {items : List α} {take : α → Except ε β} {failure : ε} :
    items.mapM take = .error failure ↔
      ∃ front item back, items = front ++ item :: back ∧
        (∀ earlier ∈ front, ∃ result, take earlier = .ok result) ∧
        take item = .error failure := by
  induction items with
  | nil =>
      rw [List.mapM_nil]
      constructor
      · intro hfailure
        cases hfailure
      · rintro ⟨front, item, back, hitems, -⟩
        simp at hitems
  | cons first rest hrest =>
      rw [List.mapM_cons, bind_eq_error_iff]
      simp only [bind_eq_error_iff, hrest]
      constructor
      · rintro (hfirst | ⟨value, hfirst, ⟨front, item, back, rfl, hfront, hitem⟩ | ⟨_, _, hdone⟩⟩)
        · exact ⟨[], first, rest, rfl, by simp, hfirst⟩
        · refine ⟨first :: front, item, back, rfl, ?_, hitem⟩
          rintro earlier (_ | ⟨_, hearlier⟩)
          · exact ⟨value, hfirst⟩
          · exact hfront earlier hearlier
        · cases hdone
      · rintro ⟨front, item, back, hitems, hfront, hitem⟩
        cases front with
        | nil =>
            obtain ⟨rfl, rfl⟩ := List.cons.inj hitems
            exact .inl hitem
        | cons earlier front =>
            obtain ⟨rfl, rfl⟩ := List.cons.inj hitems
            obtain ⟨value, hvalue⟩ := hfront first List.mem_cons_self
            refine .inr ⟨value, hvalue, .inl ⟨front, item, back, rfl, ?_, hitem⟩⟩
            intro other hother
            exact hfront other (List.mem_cons_of_mem first hother)

end Outcome
end Roster
