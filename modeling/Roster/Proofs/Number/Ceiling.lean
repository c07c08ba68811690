import Roster.Proofs.Number.Rounding
import Mathlib.Tactic

/-!
# The ceiling of a rounded quotient

A quotient of naturals is rounded to a double before its ceiling is taken.  Rounding to nearest
never passes an integer that it starts at or below, so the ceiling cannot grow.  It cannot drop
either as long as the numerator is at most 2 ^ 53: the quotient lies above the integer below it by
at least one over the denominator, which is more than half of the distance of two neighbouring
doubles there.
-/

namespace Roster
namespace Double

theorem ceiling?_finite (negative : Bool) (significand : Nat) (exponent : Int) :
    (finite negative significand exponent).ceiling? =
      some ⌈value negative significand exponent⌉ := by
  unfold ceiling?
  rw [← fraction_value, Rat.ceil_intCast_div_natCast]

/-- Numbers that are not tiny have all 53 bits at their exponent. -/
theorem Scales.full {target : ℚ} {exponent : Int} (hscales : Scales target exponent)
    (hlarge : 2 ^ (-1021 : Int) ≤ target) : 2 ^ 52 ≤ target / 2 ^ exponent := by
  rcases hscales.above with habove | hleast
  · exact habove
  · have hbelow := hscales.below
    rw [hleast, div_lt_iff₀ (by positivity)] at hbelow
    have hpower : (2 : ℚ) ^ 53 * 2 ^ (-1074 : Int) = 2 ^ (-1021 : Int) := by
      rw [← zpow_natCast, ← zpow_add₀ two_ne_zero]
      rfl
    linarith

section Quotient

variable {numerator denominator : Nat}

theorem tiny_le_quotient (hnumerator : 0 < numerator) (hdenominator : 0 < denominator)
    (hfits : denominator < 2 ^ 64) :
    (2 : ℚ) ^ (-1021 : Int) ≤ numerator / denominator := by
  have hone : (1 : ℚ) ≤ numerator := by
    exact_mod_cast hnumerator
  have hpos : (0 : ℚ) < denominator := by
    exact_mod_cast hdenominator
  have hlarge : (denominator : ℚ) ≤ 2 ^ 64 := by
    exact_mod_cast hfits.le
  calc (2 : ℚ) ^ (-1021 : Int)
      ≤ 2 ^ (-64 : Int) := zpow_le_zpow_right₀ one_le_two (by omega)
    _ = 1 / 2 ^ 64 := by norm_num
    _ ≤ numerator / denominator := by gcongr

/-- The quotient lies above the integer below it by at least one over the denominator. -/
theorem one_div_le_quotient_sub (hdenominator : 0 < denominator) {below : ℤ}
    (hbelow : (below : ℚ) < numerator / denominator) :
    1 / (denominator : ℚ) ≤ numerator / denominator - below := by
  have hpos : (0 : ℚ) < denominator := by
    exact_mod_cast hdenominator
  rw [lt_div_iff₀ hpos] at hbelow
  have hstep : below * denominator + 1 ≤ (numerator : ℤ) := by
    exact_mod_cast hbelow
  rw [div_sub' hpos.ne', div_le_div_iff_of_pos_right hpos]
  qify at hstep
  linarith

section Rounded

variable {exponent own : Int} {rounded significand : Nat}
  (hrounded : Rounded ((numerator : ℚ) / denominator) exponent rounded significand own)
include hrounded

/-- A power of two is a double itself. -/
theorem value_of_power
    (hpower : (2 : ℚ) ^ 52 = numerator / denominator / 2 ^ exponent) :
    value false significand own = numerator / denominator := by
  have hunit : (2 : ℚ) ^ exponent ≠ 0 := by
    positivity
  have hexact : (rounded : ℤ) = 2 ^ 52 :=
    le_antisymm (hrounded.nearest.le (by exact_mod_cast hpower.ge))
      (hrounded.nearest.ge (by exact_mod_cast hpower.le))
  rw [hrounded.value_eq, ← Int.cast_natCast, hexact, Int.cast_pow, Int.cast_ofNat, hpower,
    div_mul_cancel₀ _ hunit]

/-- Half a unit is less than one over the denominator, so the rounded quotient
stays above the integer below the ceiling. -/
theorem ceil_value_of_shift {shift : Nat} (hshift : exponent = -(shift : Int))
    (hdenominator : 0 < denominator) (hunit : denominator < 2 * 2 ^ shift) :
    ⌈value false significand own⌉ = ⌈(numerator : ℚ) / denominator⌉ := by
  have hpower : (0 : ℚ) < 2 ^ shift := by
    positivity
  have hnearest := hrounded.nearest
  rw [hshift, zpow_neg, zpow_natCast, div_inv_eq_mul] at hnearest
  rw [hrounded.value_eq, hshift, zpow_neg, zpow_natCast, ← div_eq_mul_inv, Int.ceil_eq_iff,
    lt_div_iff₀ hpower, div_le_iff₀ hpower]
  constructor
  · have hbelow : ((⌈(numerator : ℚ) / denominator⌉ - 1 : ℤ) : ℚ) <
        numerator / denominator := by
      push_cast
      linarith [Int.ceil_lt_add_one ((numerator : ℚ) / denominator)]
    have hstep := mul_le_mul_of_nonneg_right (one_div_le_quotient_sub hdenominator hbelow)
      hpower.le
    have hhalf : (1 / 2 : ℚ) < 1 / denominator * 2 ^ shift := by
      have hpos : (0 : ℚ) < denominator := by
        exact_mod_cast hdenominator
      rw [one_div_mul_eq_div, lt_div_iff₀ hpos]
      qify at hunit
      linarith
    have herror := hnearest.sub_le_half
    push_cast at hstep
    linarith
  · have hbelow : (numerator : ℚ) / denominator * 2 ^ shift ≤
        ((⌈(numerator : ℚ) / denominator⌉ * 2 ^ shift : ℤ) : ℚ) := by
      push_cast
      exact mul_le_mul_of_nonneg_right (Int.le_ceil _) hpower.le
    exact_mod_cast hnearest.le hbelow

theorem ceil_value_eq (hbits : numerator ≤ 2 ^ 53) (hdenominator : 0 < denominator)
    (hlarge : (2 : ℚ) ^ (-1021 : Int) ≤ numerator / denominator) :
    ⌈value false significand own⌉ = ⌈(numerator : ℚ) / denominator⌉ := by
  have hpos : (0 : ℚ) < denominator := by
    exact_mod_cast hdenominator
  rcases (hrounded.scales.full hlarge).eq_or_lt with hpower | hless
  · rw [value_of_power hrounded hpower]
  · have hunit : (2 : ℚ) ^ exponent * denominator < 2 := by
      rw [lt_div_iff₀ (by positivity), lt_div_iff₀ hpos] at hless
      qify at hbits
      linarith
    have hsmall : (2 : ℚ) ^ exponent < 2 ^ (1 : Int) := by
      have hone : (1 : ℚ) ≤ denominator := by
        exact_mod_cast hdenominator
      rw [zpow_one]
      exact (le_mul_of_one_le_right (by positivity) hone).trans_lt hunit
    have hexponent := (zpow_lt_zpow_iff_right₀ one_lt_two).mp hsmall
    obtain ⟨shift, hshift⟩ : ∃ shift : Nat, exponent = -(shift : Int) :=
      ⟨(-exponent).toNat, by omega⟩
    apply ceil_value_of_shift hrounded hshift hdenominator
    rw [hshift, zpow_neg, zpow_natCast, inv_mul_lt_iff₀ (by positivity), mul_comm] at hunit
    exact_mod_cast hunit

end Rounded

/-- The ceiling of the quotient of a numerator of at most 53 bits does not
change when the quotient is rounded to a double first. -/
theorem ceiling?_ofQuotient (hbits : numerator ≤ 2 ^ 53) (hdenominator : 0 < denominator)
    (hfits : denominator < 2 ^ 64) :
    (ofQuotient false numerator denominator).ceiling? =
      some ⌈(numerator : ℚ) / denominator⌉ := by
  rcases numerator.eq_zero_or_pos with hzero | hnumerator
  · subst hzero
    unfold ofQuotient zero
    rw [if_pos rfl, ceiling?_finite]
    simp [value]
  · have hlarge := tiny_le_quotient hnumerator hdenominator hfits
    have hshort : (numerator : ℚ) / denominator ≤ 2 ^ 53 := by
      have hone : (1 : ℚ) ≤ denominator := by
        exact_mod_cast hdenominator
      have hbound : (numerator : ℚ) ≤ 2 ^ 53 := by
        exact_mod_cast hbits
      exact (div_le_self (Nat.cast_nonneg numerator) hone).trans hbound
    obtain ⟨significand, own, hfinite⟩ :=
      exists_ofQuotient_eq_finite false hnumerator hdenominator hshort
    obtain ⟨-, exponent, rounded, hrounded⟩ :=
      rounded_of_ofQuotient hnumerator hdenominator hfinite
    rw [hfinite, ceiling?_finite, ceil_value_eq hrounded hbits hdenominator hlarge]

end Quotient

end Double
end Roster
