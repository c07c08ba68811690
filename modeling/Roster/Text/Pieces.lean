/-!
# Cutting texts

A text is cut at every occurrence of a separator, so a text with `n` separators has `n + 1`
pieces, some of which may be empty; putting the separators back restores the text.
-/

namespace Roster

variable {α : Type} [DecidableEq α]

def pieces (separator : α) : List α → List (List α)
  | [] => [[]]
  | c :: rest =>
    if c = separator then [] :: pieces separator rest
    else
      match pieces separator rest with
      | [] => [[c]]
      | first :: others => (c :: first) :: others

def joinPieces {α : Type} (separator : α) : List (List α) → List α
  | [] => []
  | [piece] => piece
  | piece :: others => piece ++ separator :: joinPieces separator others

def cutFirst? (separator : α) : List α → Option (List α × List α)
  | [] => none
  | c :: rest =>
    if c = separator then some ([], rest)
    else (cutFirst? separator rest).map fun (before, after) => (c :: before, after)

def cutLast? (separator : α) : List α → Option (List α × List α)
  | [] => none
  | c :: rest =>
    match cutLast? separator rest with
    | some (before, after) => some (c :: before, after)
    | none => if c = separator then some ([], rest) else none

theorem pieces_ne_nil (separator : α) (text : List α) : pieces separator text ≠ [] := by
  cases text with
  | nil => simp [pieces]
  | cons c rest =>
    unfold pieces
    split
    · simp
    · split <;> simp

theorem joinPieces_cons_cons {α : Type} (separator : α) (piece next : List α)
    (others : List (List α)) :
    joinPieces separator (piece :: next :: others) =
      piece ++ separator :: joinPieces separator (next :: others) := rfl

theorem joinPieces_pieces (separator : α) (text : List α) :
    joinPieces separator (pieces separator text) = text := by
  induction text with
  | nil => rfl
  | cons c rest ih =>
    unfold pieces
    cases hp : pieces separator rest with
    | nil => exact absurd hp (pieces_ne_nil separator rest)
    | cons first others =>
      rw [hp] at ih
      by_cases hc : c = separator
      · simp [hc, joinPieces, ih]
      · cases others with
        | nil => simpa [hc, joinPieces] using ih
        | cons next others => simpa [hc, joinPieces] using ih

theorem pieces_of_not_mem {separator : α} {text : List α} (h : separator ∉ text) :
    pieces separator text = [text] := by
  induction text with
  | nil => rfl
  | cons c rest ih =>
    have hc : c ≠ separator := fun e => h (by simp [e])
    have hrest : separator ∉ rest := fun m => h (List.mem_cons_of_mem _ m)
    simp [pieces, hc, ih hrest]

/-- A separator between two texts ends the last piece of the one and begins the first of the
other. -/
theorem pieces_append (separator : α) (front back : List α) :
    pieces separator (front ++ separator :: back) =
      pieces separator front ++ pieces separator back := by
  induction front with
  | nil => simp [pieces]
  | cons c front ih =>
    cases hp : pieces separator front with
    | nil => exact absurd hp (pieces_ne_nil separator front)
    | cons first others =>
      rw [hp] at ih
      by_cases hc : c = separator
      · simp [pieces, hc, hp, ih]
      · simp [pieces, hc, hp, ih]

theorem pieces_append_cons {separator : α} {piece : List α} (h : separator ∉ piece)
    (rest : List α) :
    pieces separator (piece ++ separator :: rest) = piece :: pieces separator rest := by
  rw [pieces_append, pieces_of_not_mem h]
  rfl

theorem not_mem_of_mem_pieces {separator : α} {text piece : List α}
    (h : piece ∈ pieces separator text) : separator ∉ piece := by
  induction text generalizing piece with
  | nil => simp_all [pieces]
  | cons c rest ih =>
    unfold pieces at h
    cases hp : pieces separator rest with
    | nil => exact absurd hp (pieces_ne_nil separator rest)
    | cons first others =>
      rw [hp] at h ih
      by_cases hc : c = separator
      · rw [if_pos hc] at h
        rcases List.mem_cons.1 h with rfl | h
        · simp
        · exact ih h
      · rw [if_neg hc] at h
        rcases List.mem_cons.1 h with rfl | h
        · intro m
          rcases List.mem_cons.1 m with e | m
          · exact hc e.symm
          · exact ih List.mem_cons_self m
        · exact ih (List.mem_cons_of_mem _ h)

theorem pieces_joinPieces {separator : α} {parts : List (List α)} (hparts : parts ≠ [])
    (hfree : ∀ part ∈ parts, separator ∉ part) :
    pieces separator (joinPieces separator parts) = parts := by
  induction parts with
  | nil => exact absurd rfl hparts
  | cons part others ih =>
    have hpart : separator ∉ part := hfree part List.mem_cons_self
    cases others with
    | nil => exact pieces_of_not_mem hpart
    | cons next others =>
      rw [joinPieces_cons_cons, pieces_append_cons hpart,
        ih (by simp) fun other hother => hfree other (List.mem_cons_of_mem part hother)]

/-- The pieces of a text are the only parts without the separator that it is joined from. -/
theorem pieces_eq_iff {separator : α} {text : List α} {parts : List (List α)} :
    pieces separator text = parts ↔
      parts ≠ [] ∧ joinPieces separator parts = text ∧ ∀ part ∈ parts, separator ∉ part := by
  constructor
  · rintro rfl
    exact ⟨pieces_ne_nil separator text, joinPieces_pieces separator text,
      fun part hpart => not_mem_of_mem_pieces hpart⟩
  · rintro ⟨hparts, rfl, hfree⟩
    exact pieces_joinPieces hparts hfree

theorem length_pieces (separator : α) (text : List α) :
    (pieces separator text).length = text.count separator + 1 := by
  induction text with
  | nil => rfl
  | cons c rest ih =>
    unfold pieces
    cases hp : pieces separator rest with
    | nil => exact absurd hp (pieces_ne_nil separator rest)
    | cons first others =>
      rw [hp] at ih
      by_cases hc : c = separator
      · simp [hc, ← ih]
      · simpa [hc] using ih

theorem count_joinPieces (separator : α) {parts : List (List α)} (hparts : parts ≠ []) :
    (joinPieces separator parts).count separator + 1 =
      parts.length + parts.flatten.count separator := by
  induction parts with
  | nil => exact absurd rfl hparts
  | cons part others ih =>
    cases others with
    | nil => simp [joinPieces, Nat.add_comm]
    | cons next others =>
      have hothers := ih (by simp)
      rw [joinPieces_cons_cons, List.count_append, List.count_cons_self, List.flatten_cons,
        List.count_append, List.length_cons]
      omega

/-- A text that is joined from parts is cut into the same parts when it has no more separators
than joining them has put in. -/
theorem pieces_eq_iff_count {separator : α} {text : List α} {parts : List (List α)}
    (hparts : parts ≠ []) :
    pieces separator text = parts ↔
      joinPieces separator parts = text ∧ text.count separator + 1 = parts.length := by
  have hfree : (∀ part ∈ parts, separator ∉ part) ↔ parts.flatten.count separator = 0 := by
    simp [List.count_eq_zero]
  have hcount := count_joinPieces separator hparts
  rw [pieces_eq_iff, hfree]
  constructor
  · rintro ⟨-, rfl, hnone⟩
    exact ⟨rfl, by omega⟩
  · rintro ⟨rfl, hlength⟩
    exact ⟨hparts, rfl, by omega⟩

end Roster
