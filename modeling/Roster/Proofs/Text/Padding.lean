import Roster.Text.Base64
import Roster.Proofs.Outcome
import Mathlib.Tactic

/-!
# Where tolerant base64 breaks off

The tolerant reading skips what carries no data.  It ends early at padding that completes the last
group of four, and only there, so it breaks off exactly when no beginning of the text is complete
in this way and the characters that carry data are no whole number of groups.
-/

namespace Roster.Base64

variable {alphabet : Alphabet} {text seen rest : List Char} {c : Char} {error : DecodeError}

/-! ## Data and padding -/

/-- The values of the characters that carry data. -/
def Alphabet.data (alphabet : Alphabet) (text : List Char) : List Nat :=
  text.filterMap alphabet.value?

/-- The number of equals signs behind the last character that carries data. -/
def Alphabet.pads (alphabet : Alphabet) (text : List Char) : Nat :=
  (text.reverse.takeWhile fun c => (alphabet.value? c).isNone).count '='

/-- The characters in the last group of four that carry data. -/
def Alphabet.groupSize (alphabet : Alphabet) (text : List Char) : Nat :=
  (alphabet.data text).length % 4

/-- The last group of four is begun, and padding makes up for what it lacks. -/
def Alphabet.Completes (alphabet : Alphabet) (text : List Char) : Prop :=
  2 ≤ alphabet.groupSize text ∧ 4 ≤ alphabet.groupSize text + alphabet.pads text

/-- No beginning of the text ends its reading. -/
def Alphabet.ReadsOn (alphabet : Alphabet) (text : List Char) : Prop :=
  ∀ front, front <+: text → ¬ alphabet.Completes front

/-- The text is read to its end, where a group is left incomplete. -/
inductive BreaksOff (alphabet : Alphabet) (text : List Char) : DecodeError → Prop where
  | loneCharacter (hreadsOn : alphabet.ReadsOn text) (hgroup : alphabet.groupSize text = 1) :
      BreaksOff alphabet text (.loneCharacter (alphabet.data text).length)
  | incompletePadding (hreadsOn : alphabet.ReadsOn text)
      (hgroup : 2 ≤ alphabet.groupSize text) : BreaksOff alphabet text .incompletePadding

theorem BreaksOff.readsOn (hbreaks : BreaksOff alphabet text error) : alphabet.ReadsOn text := by
  cases hbreaks with
  | loneCharacter hreadsOn => exact hreadsOn
  | incompletePadding hreadsOn => exact hreadsOn

theorem groupSize_lt : alphabet.groupSize text < 4 :=
  Nat.mod_lt _ (by decide)

theorem groupSize_nil : alphabet.groupSize [] = 0 := rfl

theorem readsOn_nil : alphabet.ReadsOn [] := by
  rintro front hfront ⟨hbegun, -⟩
  rw [List.prefix_nil.mp hfront, groupSize_nil] at hbegun
  cases hbegun

theorem readsOn_append_singleton_iff :
    alphabet.ReadsOn (text ++ [c]) ↔
      alphabet.ReadsOn text ∧ ¬ alphabet.Completes (text ++ [c]) := by
  unfold Alphabet.ReadsOn
  simp only [List.prefix_concat_iff, forall_eq_or_imp]
  exact and_comm

section Data

variable {value : Nat} (hvalue : alphabet.value? c = some value)

include hvalue

theorem data_append_of_some : alphabet.data (text ++ [c]) = alphabet.data text ++ [value] := by
  simp [Alphabet.data, hvalue]

theorem not_completes_of_some : ¬ alphabet.Completes (text ++ [c]) := by
  rintro ⟨-, hcomplete⟩
  have hpads : alphabet.pads (text ++ [c]) = 0 := by
    simp [Alphabet.pads, hvalue]
  have hgroup : alphabet.groupSize (text ++ [c]) < 4 := groupSize_lt
  omega

end Data

section NoData

variable (hvalue : alphabet.value? c = none)

include hvalue

theorem data_append_of_none : alphabet.data (text ++ [c]) = alphabet.data text := by
  simp [Alphabet.data, hvalue]

theorem groupSize_append_of_none :
    alphabet.groupSize (text ++ [c]) = alphabet.groupSize text := by
  unfold Alphabet.groupSize
  rw [data_append_of_none hvalue]

theorem pads_append_of_none :
    alphabet.pads (text ++ [c]) = alphabet.pads text + if c = '=' then 1 else 0 := by
  simp [Alphabet.pads, hvalue, List.count_cons]

theorem completes_append_of_none_iff :
    alphabet.Completes (text ++ [c]) ↔
      2 ≤ alphabet.groupSize text ∧
        4 ≤ alphabet.groupSize text + alphabet.pads text + if c = '=' then 1 else 0 := by
  unfold Alphabet.Completes
  rw [groupSize_append_of_none hvalue, pads_append_of_none hvalue, Nat.add_assoc]

end NoData

/-! ## The reading -/

/-- The reading is on its way.  It counts padding only once a group is begun, so the count is that
of the text only then. -/
structure Underway (alphabet : Alphabet) (seen : List Char) (pads : Nat) : Prop where
  readsOn : alphabet.ReadsOn seen
  counted : 2 ≤ alphabet.groupSize seen → pads = alphabet.pads seen

theorem underway_nil : Underway alphabet [] 0 where
  readsOn := readsOn_nil
  counted _ := rfl

namespace Underway

variable {pads : Nat} (hunderway : Underway alphabet seen pads)

include hunderway

theorem data {value : Nat} (hvalue : alphabet.value? c = some value) :
    Underway alphabet (seen ++ [c]) 0 where
  readsOn :=
    readsOn_append_singleton_iff.mpr ⟨hunderway.readsOn, not_completes_of_some hvalue⟩
  counted _ := by simp [Alphabet.pads, hvalue]

theorem foreign (hvalue : alphabet.value? c = none) (hc : c ≠ '=') :
    Underway alphabet (seen ++ [c]) pads := by
  constructor
  · refine readsOn_append_singleton_iff.mpr ⟨hunderway.readsOn, ?_⟩
    rw [completes_append_of_none_iff hvalue, if_neg hc]
    exact hunderway.readsOn seen (List.prefix_refl seen)
  · rw [groupSize_append_of_none hvalue, pads_append_of_none hvalue, if_neg hc]
    exact hunderway.counted

variable (hequals : alphabet.value? '=' = none)

include hequals

theorem completes_iff (hbegun : 2 ≤ alphabet.groupSize seen) :
    alphabet.Completes (seen ++ ['=']) ↔ 4 ≤ alphabet.groupSize seen + pads + 1 := by
  rw [completes_append_of_none_iff hequals, if_pos rfl, ← hunderway.counted hbegun]
  exact and_iff_right hbegun

theorem padding (hbegun : 2 ≤ alphabet.groupSize seen)
    (hlacks : ¬ 4 ≤ alphabet.groupSize seen + pads + 1) :
    Underway alphabet (seen ++ ['=']) (pads + 1) := by
  constructor
  · refine readsOn_append_singleton_iff.mpr ⟨hunderway.readsOn, ?_⟩
    rw [hunderway.completes_iff hequals hbegun]
    exact hlacks
  · intro _
    rw [pads_append_of_none hequals, if_pos rfl, ← hunderway.counted hbegun]

theorem idle (hidle : ¬ 2 ≤ alphabet.groupSize seen) :
    Underway alphabet (seen ++ ['=']) pads := by
  constructor
  · refine readsOn_append_singleton_iff.mpr ⟨hunderway.readsOn, ?_⟩
    rw [completes_append_of_none_iff hequals]
    exact fun hcompletes => hidle hcompletes.1
  · rw [groupSize_append_of_none hequals]
    exact fun hbegun => absurd hbegun hidle

end Underway

theorem length_reverse_data_mod :
    (alphabet.data text).reverse.length % 4 = alphabet.groupSize text := by
  rw [List.length_reverse]
  rfl

theorem collect_nil_eq_error_iff {pads : Nat} (hreadsOn : alphabet.ReadsOn seen) :
    collect alphabet (alphabet.data seen).reverse pads [] = .error error ↔
      BreaksOff alphabet seen error := by
  unfold collect
  rw [length_reverse_data_mod]
  constructor
  · intro herror
    split at herror
    next => cases herror
    next hsize =>
      cases herror
      rw [List.length_reverse]
      exact .loneCharacter hreadsOn hsize
    next size hzero hone =>
      cases herror
      exact .incompletePadding hreadsOn ((Nat.two_le_iff _).mpr ⟨hzero, hone⟩)
  · rintro (⟨-, hsize⟩ | ⟨-, hbegun⟩)
    · simp only [hsize, List.length_reverse]
    · split
      next hsize => omega
      next hsize => omega
      next => rfl

/-- The induction is on what is still to be read. -/
theorem collect_eq_error_iff (hequals : alphabet.value? '=' = none) {pads : Nat}
    (hunderway : Underway alphabet seen pads) :
    collect alphabet (alphabet.data seen).reverse pads rest = .error error ↔
      BreaksOff alphabet (seen ++ rest) error := by
  induction rest generalizing seen pads with
  | nil =>
      rw [List.append_nil]
      exact collect_nil_eq_error_iff hunderway.readsOn
  | cons c rest ih =>
      have happend : seen ++ c :: rest = seen ++ [c] ++ rest := by simp
      unfold collect
      rw [happend, length_reverse_data_mod]
      by_cases hc : c = '='
      · subst hc
        rw [if_pos rfl]
        split_ifs with hbegun hcomplete
        · refine iff_of_false nofun fun hbreaks => ?_
          apply hbreaks.readsOn (seen ++ ['=']) (List.prefix_append _ _)
          exact (hunderway.completes_iff hequals hbegun).mpr hcomplete
        · rw [← ih (hunderway.padding hequals hbegun hcomplete), data_append_of_none hequals]
        · rw [← ih (hunderway.idle hequals hbegun), data_append_of_none hequals]
      · rw [if_neg hc]
        cases hvalue : alphabet.value? c with
        | some value =>
            rw [← ih (hunderway.data hvalue), data_append_of_some hvalue, List.reverse_append]
            rfl
        | none => rw [← ih (hunderway.foreign hvalue hc), data_append_of_none hvalue]

theorem decodeTolerant_eq_error_iff (hequals : alphabet.value? '=' = none) :
    decodeTolerant alphabet text = .error error ↔ BreaksOff alphabet text error := by
  unfold decodeTolerant
  rw [Outcome.map_eq_error_iff]
  exact collect_eq_error_iff hequals underway_nil

end Roster.Base64
