import Roster.Table.Schema
import Roster.Proofs.Outcome
import Mathlib.Tactic

/-!
# The order of sorted rows

Rows are sorted by the cells of one column.  As long as the column holds no real numbers, the
order of its cells is total and transitive: empty cells come first, integers by their value, and
texts by their code points.  A descending sort is the same order read backwards.
-/

namespace Roster
namespace Cell

def IsExact : Cell → Prop
  | .real _ => False
  | _ => True

/-- The cell may stand before the other one in an ascending sort. -/
def AtMost : Cell → Cell → Prop
  | .null, _ => True
  | .int a, .int b => a ≤ b
  | .int _, .text _ => True
  | .text a, .text b => a ≤ b
  | _, _ => False

def InOrder (direction : Listing.Direction) (first second : Cell) : Prop :=
  match direction with
  | .ascending => first.AtMost second
  | .descending => second.AtMost first

theorem isLE_compare_text {a b : String} : (compare a b).isLE = true ↔ a ≤ b := by
  have hcompare : compare a b = compareOfLessAndEq a b := rfl
  rw [hcompare]
  exact isLE_compareOfLessAndEq String.le_antisymm String.not_le String.le_total

theorem isLE_order_iff {first second : Cell}
    (hfirst : first.IsExact) (hsecond : second.IsExact) :
    (first.order second).isLE = true ↔ first.AtMost second := by
  cases first with
  | null =>
      cases second with
      | real value => cases hsecond
      | null => simp [order, isNull, AtMost]
      | int value => simp [order, isNull, AtMost]
      | text value => simp [order, isNull, AtMost]
  | int a =>
      cases second with
      | real value => cases hsecond
      | null => simp [order, isNull, AtMost]
      | int b => simpa [order, isNull, compare?, AtMost] using Int.isLE_compare
      | text b => simp [order, isNull, compare?, AtMost]
  | real value => cases hfirst
  | text a =>
      cases second with
      | real value => cases hsecond
      | null => simp [order, isNull, AtMost]
      | int b => simp [order, isNull, compare?, AtMost]
      | text b => simpa [order, isNull, compare?, AtMost] using isLE_compare_text

theorem AtMost.total {first second : Cell}
    (hfirst : first.IsExact) (hsecond : second.IsExact) :
    first.AtMost second ∨ second.AtMost first := by
  cases first with
  | null => exact .inl trivial
  | int a =>
      cases second with
      | null => exact .inr trivial
      | int b => exact Int.le_total a b
      | real value => cases hsecond
      | text b => exact .inl trivial
  | real value => cases hfirst
  | text a =>
      cases second with
      | null => exact .inr trivial
      | int b => exact .inr trivial
      | real value => cases hsecond
      | text b => exact String.le_total a b

theorem AtMost.trans {first second third : Cell}
    (hfirst : first.AtMost second) (hsecond : second.AtMost third) :
    first.AtMost third := by
  cases first with
  | null => trivial
  | int a =>
      cases second with
      | null => cases hfirst
      | int b =>
          cases third with
          | null => cases hsecond
          | int c => exact Int.le_trans hfirst hsecond
          | real value => cases hsecond
          | text c => trivial
      | real value => cases hfirst
      | text b =>
          cases third with
          | null => cases hsecond
          | int c => cases hsecond
          | real value => cases hsecond
          | text c => trivial
  | real value => cases hfirst
  | text a =>
      cases second with
      | null => cases hfirst
      | int b => cases hfirst
      | real value => cases hfirst
      | text b =>
          cases third with
          | null => cases hsecond
          | int c => cases hsecond
          | real value => cases hsecond
          | text c => exact String.le_trans hfirst hsecond

theorem AtMost.antisymm {first second : Cell}
    (hfirst : first.AtMost second) (hsecond : second.AtMost first) : first = second := by
  cases first with
  | null =>
      cases second with
      | null => rfl
      | _ => cases hsecond
  | int a =>
      cases second with
      | int b => exact congrArg Cell.int (Int.le_antisymm hfirst hsecond)
      | text b => cases hsecond
      | _ => cases hfirst
  | real value => cases hfirst
  | text a =>
      cases second with
      | text b => exact congrArg Cell.text (String.le_antisymm hfirst hsecond)
      | _ => cases hfirst

theorem InOrder.antisymm {direction : Listing.Direction} {first second : Cell}
    (hfirst : InOrder direction first second) (hsecond : InOrder direction second first) :
    first = second := by
  cases direction with
  | ascending => exact AtMost.antisymm hfirst hsecond
  | descending => exact AtMost.antisymm hsecond hfirst

end Cell

namespace Schema

variable {ρ : Type}

/-- No column of the schema holds real numbers. -/
def IsExact (schema : Schema ρ) : Prop :=
  ∀ column ∈ schema.columns, ∀ row, (column.cell row).IsExact

theorem column_eq_ok {schema : Schema ρ} {name : String} {column : Column ρ}
    (hcolumn : schema.column name = .ok column) : column ∈ schema.columns := by
  unfold Schema.column at hcolumn
  split at hcolumn
  · split at hcolumn
    next found hfind =>
      cases hcolumn
      exact List.mem_of_find?_eq_some hfind
    next hfind => cases hcolumn
  · cases hcolumn

theorem precedes_iff {column : Column ρ} {direction : Listing.Direction}
    (hexact : ∀ row, (column.cell row).IsExact) {first second : ρ} :
    precedes column direction first second = true ↔
      Cell.InOrder direction (column.cell first) (column.cell second) := by
  cases direction with
  | ascending => exact Cell.isLE_order_iff (hexact first) (hexact second)
  | descending => exact Cell.isLE_order_iff (hexact second) (hexact first)

section Precedes

variable {column : Column ρ} {direction : Listing.Direction}
  (hexact : ∀ row, (column.cell row).IsExact)

include hexact

theorem precedes_trans (first second third : ρ)
    (hfirst : precedes column direction first second = true)
    (hsecond : precedes column direction second third = true) :
    precedes column direction first third = true := by
  rw [precedes_iff hexact] at hfirst hsecond ⊢
  cases direction with
  | ascending => exact Cell.AtMost.trans hfirst hsecond
  | descending => exact Cell.AtMost.trans hsecond hfirst

theorem precedes_total (first second : ρ) :
    (precedes column direction first second || precedes column direction second first) =
      true := by
  rw [Bool.or_eq_true, precedes_iff hexact, precedes_iff hexact]
  cases direction with
  | ascending => exact Cell.AtMost.total (hexact first) (hexact second)
  | descending => exact Cell.AtMost.total (hexact second) (hexact first)

theorem mergeSort_inOrder (rows : List ρ) :
    (rows.mergeSort (precedes column direction)).Pairwise fun first second =>
      Cell.InOrder direction (column.cell first) (column.cell second) := by
  apply (List.pairwise_mergeSort (precedes_trans hexact) (precedes_total hexact) rows).imp
  intro first second hprecedes
  exact (precedes_iff hexact).mp hprecedes

end Precedes

theorem arrangement_perm {schema : Schema ρ} {sort : Option Listing.SortKey}
    {arrange : List ρ → List ρ} (harrange : schema.arrangement sort = .ok arrange)
    (rows : List ρ) : (arrange rows).Perm rows := by
  cases sort with
  | none =>
      obtain rfl := Except.ok.inj harrange
      exact List.Perm.refl rows
  | some key =>
      obtain ⟨column, -, hsorts⟩ := Outcome.bind_eq_ok_iff.mp harrange
      obtain rfl := Outcome.pure_eq_ok_iff.mp hsorts
      exact List.mergeSort_perm rows _

end Schema
end Roster
