import Roster.Listing.PageCount
import Roster.Proofs.Number.Ceiling
import Mathlib.Tactic

/-!
# Page counts are exact

As long as there are at most 2 ^ 53 rows, the count of pages is the least number of pages that
hold all rows, whatever the page size that fits 64 bits.
-/

namespace Roster.Listing

theorem pageCount?_eq_ceiling? (total : Nat) {pageSize : Nat} (hpositive : 0 < pageSize) :
    pageCount? total pageSize = (Double.ofQuotient false total pageSize).ceiling? := by
  have hlimited : (pageSize : Int) ≠ unlimited := by
    unfold unlimited
    omega
  have hsize : ¬ (pageSize : Int) ≤ 0 := by
    omega
  have hsign : decide ((total : Int) < 0) = false := by
    rw [decide_eq_false_iff_not]
    omega
  unfold pageCount?
  rw [if_neg hlimited, if_neg hsize, hsign, Int.natAbs_natCast, Int.natAbs_natCast]

/-- The count of pages is the ceiling of the number of rows over the page size. -/
theorem pageCount?_eq_ceil {total pageSize : Nat}
    (htotal : total ≤ 2 ^ 53) (hpositive : 0 < pageSize) (hfits : pageSize < 2 ^ 64) :
    pageCount? total pageSize = some ⌈(total : ℚ) / pageSize⌉ := by
  rw [pageCount?_eq_ceiling? total hpositive]
  exact Double.ceiling?_ofQuotient htotal hpositive hfits

theorem pageCount?_eq {total pageSize count : Nat}
    (htotal : total ≤ 2 ^ 53) (hpositive : 0 < pageSize) (hfits : pageSize < 2 ^ 64)
    (hlow : total ≤ count * pageSize) (hhigh : count * pageSize < total + pageSize) :
    pageCount? total pageSize = some (count : Int) := by
  have hsize : (0 : ℚ) < pageSize := by
    exact_mod_cast hpositive
  rw [pageCount?_eq_ceil htotal hpositive hfits, Option.some_inj, Int.ceil_eq_iff,
    lt_div_iff₀ hsize, div_le_iff₀ hsize]
  qify at hlow hhigh
  constructor
  · push_cast
    linarith
  · exact_mod_cast hlow

/-- Whatever the numbers, a count of pages is the ceiling of the nearest double. -/
theorem pageCount?_rounds {total pageSize : Nat} {count : Int} (hpositive : 0 < pageSize)
    (hcount : pageCount? total pageSize = some count) :
    ∃ negative significand exponent,
      Double.IsNearest ((total : ℚ) / pageSize) negative significand exponent ∧
        count = ⌈Double.value negative significand exponent⌉ := by
  rw [pageCount?_eq_ceiling? total hpositive] at hcount
  cases hrounded : Double.ofQuotient false total pageSize with
  | finite negative significand exponent =>
      have hnearest := Double.ofQuotient_isNearest hpositive hrounded
      rw [if_neg Bool.false_ne_true, one_mul] at hnearest
      rw [hrounded, Double.ceiling?_finite, Option.some_inj] at hcount
      exact ⟨negative, significand, exponent, hnearest, hcount.symm⟩
  | infinite negative => simp [hrounded, Double.ceiling?] at hcount
  | nan => simp [hrounded, Double.ceiling?] at hcount

/-- A number of pages holds all rows exactly when it is at least the ceiling. -/
theorem holds_iff_ceil_le {total pageSize count : Int} (hpositive : 1 ≤ pageSize) :
    total ≤ count * pageSize ↔ ⌈(total : ℚ) / pageSize⌉ ≤ count := by
  have hsize : (0 : ℚ) < pageSize := by
    exact_mod_cast hpositive
  rw [Int.ceil_le, div_le_iff₀ hsize]
  exact_mod_cast Iff.rfl

/-- The quotient of the number of rows and the page size is rounded to the nearest double before
its ceiling is taken, and yet the count of pages is the ceiling of the quotient itself, the least
number of pages that hold all rows. -/
theorem page_count_is_exact_ceiling {total pageSize : Int}
    (hnonneg : 0 ≤ total) (hrows : total ≤ 2 ^ 53)
    (hpositive : 1 ≤ pageSize) (hfits : pageSize < 2 ^ 64) :
    pageCount? total pageSize = some ⌈(total : ℚ) / pageSize⌉ ∧
      IsLeast {count : Int | total ≤ count * pageSize} ⌈(total : ℚ) / pageSize⌉ ∧
      ∃ negative significand exponent,
        Double.IsNearest ((total : ℚ) / pageSize) negative significand exponent ∧
          pageCount? total pageSize =
            some ⌈Double.value negative significand exponent⌉ := by
  obtain ⟨rows, rfl⟩ := Int.eq_ofNat_of_zero_le hnonneg
  obtain ⟨size, rfl⟩ := Int.eq_ofNat_of_zero_le (zero_le_one.trans hpositive)
  have hcount : pageCount? rows size = some ⌈((rows : Int) : ℚ) / (size : Int)⌉ := by
    rw [Int.cast_natCast, Int.cast_natCast]
    exact pageCount?_eq_ceil (by exact_mod_cast hrows) (by omega) (by exact_mod_cast hfits)
  refine ⟨hcount, ⟨?_, ?_⟩, ?_⟩
  · exact (holds_iff_ceil_le hpositive).mpr le_rfl
  · intro count hholds
    exact (holds_iff_ceil_le hpositive).mp hholds
  · obtain ⟨negative, significand, exponent, hnearest, hceiling⟩ :=
      pageCount?_rounds (by omega) hcount
    refine ⟨negative, significand, exponent, ?_, ?_⟩
    · rwa [Int.cast_natCast, Int.cast_natCast]
    · rw [hcount, hceiling]

/-- A third more than a whole number of pages, where doubles are half a page apart. -/
theorem page_count_is_exact_ceiling_thirds :
    (0 : Int) ≤ 9007199254740991 ∧ (9007199254740991 : Int) ≤ 2 ^ 53 ∧ (1 : Int) ≤ 3 ∧
      (3 : Int) < 2 ^ 64 ∧ pageCount? 9007199254740991 3 = some 3002399751580331 ∧
        IsLeast {count : Int | 9007199254740991 ≤ count * 3} 3002399751580331 := by
  obtain ⟨hcount, hleast, -⟩ := @page_count_is_exact_ceiling 9007199254740991 3
    (by norm_num) (by norm_num) (by norm_num) (by norm_num)
  have hceiling : ⌈((9007199254740991 : Int) : ℚ) / (3 : Int)⌉ = 3002399751580331 := by
    rw [Int.ceil_eq_iff]
    norm_num
  rw [hceiling] at hcount hleast
  exact ⟨by norm_num, by norm_num, by norm_num, by norm_num, hcount, hleast⟩

/-- With one row more than 2 ^ 53 the quotient is rounded down, and a page is missing. -/
example : pageCount? (2 ^ 53 + 1) 1 = some (2 ^ 53) := by decide +kernel

end Roster.Listing
