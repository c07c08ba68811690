import Roster.Number.Double
import Mathlib.Data.Rat.Floor
import Mathlib.Tactic

/-!
# Rounding to the nearest double

A quotient of naturals is scaled until 53 bits stand before the point, or until the exponent is
the least one, and the scaled quotient is rounded to a natural number.  Doubles of this exponent
and of greater ones lie on the grid of its unit, so none of them is nearer than the natural number
that was chosen; doubles of smaller exponents lie below all quotients that are scaled this way.
-/

namespace Roster

/-! ## Rounding to a natural number -/

section Natural

variable {numerator denominator : Nat}

theorem roundHalfEven_neighbour (numerator denominator : Nat) :
    (roundHalfEven numerator denominator = numerator / denominator ∧
      2 * (numerator % denominator) ≤ denominator) ∨
    (roundHalfEven numerator denominator = numerator / denominator + 1 ∧
      denominator ≤ 2 * (numerator % denominator)) := by
  unfold roundHalfEven
  simp only
  split_ifs
  · omega
  · omega
  · omega

theorem roundHalfEven_middle (hmiddle : 2 * (numerator % denominator) = denominator) :
    roundHalfEven numerator denominator % 2 = 0 := by
  unfold roundHalfEven
  simp only
  rw [if_neg (by omega), if_neg (by omega)]
  omega

/-- The error of rounding is at most half a unit. -/
theorem roundHalfEven_bounds (numerator : Nat) (hpos : 0 < denominator) :
    2 * numerator ≤ 2 * (roundHalfEven numerator denominator * denominator) + denominator ∧
      2 * (roundHalfEven numerator denominator * denominator) ≤
        2 * numerator + denominator := by
  have hdivision := Nat.div_add_mod' numerator denominator
  have hrest := Nat.mod_lt numerator hpos
  rcases roundHalfEven_neighbour numerator denominator with
    ⟨hrounded, hbelow⟩ | ⟨hrounded, habove⟩
  · rw [hrounded]
    omega
  · rw [hrounded, Nat.add_mul]
    omega

theorem roundHalfEven_even
    (hpos : 0 < denominator)
    (hhalf : 2 * numerator =
        2 * (roundHalfEven numerator denominator * denominator) + denominator ∨
      2 * (roundHalfEven numerator denominator * denominator) =
        2 * numerator + denominator) :
    roundHalfEven numerator denominator % 2 = 0 := by
  have hdivision := Nat.div_add_mod' numerator denominator
  have hrest := Nat.mod_lt numerator hpos
  apply roundHalfEven_middle
  rcases roundHalfEven_neighbour numerator denominator with ⟨hrounded, -⟩ | ⟨hrounded, -⟩
  · rw [hrounded] at hhalf
    omega
  · rw [hrounded, Nat.add_mul] at hhalf
    omega

/-! ## The nearest integer -/

theorem quotient_sub_eq (hpos : 0 < denominator) :
    (numerator : ℚ) / denominator - roundHalfEven numerator denominator =
      (2 * numerator - 2 * (roundHalfEven numerator denominator * denominator)) /
        (2 * denominator) := by
  have hdenominator : (denominator : ℚ) ≠ 0 := by
    exact_mod_cast hpos.ne'
  field_simp

theorem abs_quotient_sub_le (numerator : Nat) (hpos : 0 < denominator) :
    |(numerator : ℚ) / denominator - roundHalfEven numerator denominator| ≤ 1 / 2 := by
  obtain ⟨hlow, hhigh⟩ := roundHalfEven_bounds numerator hpos
  have hdenominator : (0 : ℚ) < 2 * denominator := by
    exact_mod_cast Nat.mul_pos two_pos hpos
  rw [quotient_sub_eq hpos, abs_le, le_div_iff₀ hdenominator, div_le_iff₀ hdenominator]
  qify at hlow hhigh
  constructor
  · linarith
  · linarith

theorem roundHalfEven_even_of_half (hpos : 0 < denominator)
    (hhalf : |(numerator : ℚ) / denominator - roundHalfEven numerator denominator| = 1 / 2) :
    roundHalfEven numerator denominator % 2 = 0 := by
  have hdenominator : (2 * denominator : ℚ) ≠ 0 := by
    exact_mod_cast (Nat.mul_pos two_pos hpos).ne'
  rw [quotient_sub_eq hpos] at hhalf
  apply roundHalfEven_even hpos
  rcases (abs_eq (by norm_num)).mp hhalf with habove | hbelow
  · left
    rw [div_eq_iff hdenominator] at habove
    qify
    linarith
  · right
    rw [div_eq_iff hdenominator] at hbelow
    qify
    linarith

/-- Every other integer is at least half a unit away. -/
theorem half_le_abs_quotient_sub (hpos : 0 < denominator) {other : ℤ}
    (hother : other ≠ roundHalfEven numerator denominator) :
    1 / 2 ≤ |(numerator : ℚ) / denominator - other| := by
  have hrounded := abs_quotient_sub_le numerator hpos
  have hapart : (1 : ℚ) ≤ |(other : ℚ) - roundHalfEven numerator denominator| := by
    exact_mod_cast Int.one_le_abs (sub_ne_zero.mpr hother)
  have htriangle := abs_sub_le (other : ℚ) ((numerator : ℚ) / denominator)
    (roundHalfEven numerator denominator)
  rw [abs_sub_comm (other : ℚ) (numerator / denominator)] at htriangle
  linarith

/-- No integer is nearer to the number, and if another one is as near, then
this one is even. -/
structure IsNearestNat (target : ℚ) (rounded : Nat) : Prop where
  nearest : ∀ other : ℤ, |target - rounded| ≤ |target - other|
  even : ∀ other : ℤ, other ≠ rounded → |target - other| = |target - rounded| →
    rounded % 2 = 0

theorem isNearestNat_roundHalfEven (numerator : Nat) (hpos : 0 < denominator) :
    IsNearestNat ((numerator : ℚ) / denominator) (roundHalfEven numerator denominator) := by
  have hrounded := abs_quotient_sub_le numerator hpos
  constructor
  · intro other
    by_cases hother : other = roundHalfEven numerator denominator
    · rw [hother, Int.cast_natCast]
    · exact hrounded.trans (half_le_abs_quotient_sub hpos hother)
  · intro other hother htie
    apply roundHalfEven_even_of_half hpos
    exact le_antisymm hrounded (htie ▸ half_le_abs_quotient_sub hpos hother)

end Natural

namespace IsNearestNat

variable {target : ℚ} {rounded : Nat} {bound : ℤ}

/-- Rounding to the nearest never passes an integer that it starts at or below. -/
theorem le (hnearest : IsNearestNat target rounded) (hle : target ≤ bound) :
    (rounded : ℤ) ≤ bound := by
  by_contra hmore
  have hpassed : (bound : ℚ) < rounded := by
    exact_mod_cast Int.not_le.mp hmore
  have hdistance := hnearest.nearest bound
  rw [abs_of_nonpos (by linarith), abs_of_nonpos (by linarith)] at hdistance
  linarith

theorem ge (hnearest : IsNearestNat target rounded) (hge : bound ≤ target) :
    bound ≤ rounded := by
  by_contra hless
  have hpassed : (rounded : ℚ) < bound := by
    exact_mod_cast Int.not_le.mp hless
  have hdistance := hnearest.nearest bound
  rw [abs_of_nonneg (by linarith), abs_of_nonneg (by linarith)] at hdistance
  linarith

theorem sub_le_half (hnearest : IsNearestNat target rounded) :
    target - rounded ≤ 1 / 2 := by
  have habove := hnearest.nearest (rounded + 1)
  have hself := le_abs_self (target - rounded)
  push_cast at habove
  rcases le_total target (rounded + 1) with hle | hge
  · rw [abs_of_nonpos (sub_nonpos.mpr hle)] at habove
    linarith
  · rw [abs_of_nonneg (sub_nonneg.mpr hge)] at habove
    linarith

end IsNearestNat

namespace Double

/-! ## Doubles as numbers -/

/-- The number that a finite double stands for. -/
def value (negative : Bool) (significand : Nat) (exponent : Int) : ℚ :=
  (if negative then -1 else 1) * (significand * 2 ^ exponent)

/-- A significand of 53 bits and an exponent in range; at the least exponent
the significand may be shorter. -/
structure InFormat (significand : Nat) (exponent : Int) : Prop where
  short : significand < 2 ^ 53
  least : -1074 ≤ exponent
  greatest : exponent ≤ 971
  full : 2 ^ 52 ≤ significand ∨ exponent = -1074

/-- The numbers that finite doubles stand for. -/
def IsDouble (number : ℚ) : Prop :=
  ∃ negative significand exponent,
    InFormat significand exponent ∧ number = value negative significand exponent

/-- No double is nearer to the number, and if another one is as near, then the
significand is even. -/
structure IsNearest (target : ℚ) (negative : Bool) (significand : Nat) (exponent : Int) :
    Prop where
  inFormat : InFormat significand exponent
  nearest : ∀ other, IsDouble other →
    |target - value negative significand exponent| ≤ |target - other|
  even : ∀ other, IsDouble other → other ≠ value negative significand exponent →
    |target - other| = |target - value negative significand exponent| → significand % 2 = 0

theorem fraction_value (negative : Bool) (significand : Nat) (exponent : Int) :
    ((fraction negative significand exponent).1 : ℚ) /
      (fraction negative significand exponent).2 = value negative significand exponent := by
  unfold fraction value
  obtain ⟨shift, rfl | rfl⟩ := exponent.eq_nat_or_neg
  · have hsign : (0 : Int) ≤ shift := Int.natCast_nonneg shift
    simp only [if_pos hsign, Int.toNat_natCast]
    cases negative <;> simp
  · cases shift with
    | zero => cases negative <;> simp
    | succ shift =>
        have hsign : ¬ (0 : Int) ≤ -((shift + 1 : Nat) : Int) := by
          omega
        simp only [if_neg hsign, neg_neg, Int.toNat_natCast]
        rw [zpow_neg, zpow_natCast, ← div_eq_mul_inv]
        cases negative <;> simp [neg_div]

/-- A significand that is rounded up to the next power of two is halved, which
changes nothing about the value. -/
theorem value_carried (negative : Bool) (exponent : Int) :
    value negative (2 ^ 52) (exponent + 1) = value negative (2 ^ 53) exponent := by
  unfold value
  rw [zpow_add_one₀ two_ne_zero]
  push_cast
  ring

theorem value_not (negative : Bool) (significand : Nat) (exponent : Int) :
    value (!negative) significand exponent = -value negative significand exponent := by
  unfold value
  cases negative <;> simp

theorem IsDouble.neg {number : ℚ} (hnumber : IsDouble number) : IsDouble (-number) := by
  obtain ⟨negative, significand, exponent, hformat, rfl⟩ := hnumber
  exact ⟨!negative, significand, exponent, hformat, (value_not ..).symm⟩

theorem IsNearest.neg {target : ℚ} {negative : Bool} {significand : Nat} {exponent : Int}
    (hnearest : IsNearest target negative significand exponent) :
    IsNearest (-target) (!negative) significand exponent := by
  have hdistance : ∀ other, |(-target) - other| = |target - -other| := by
    intro other
    rw [abs_sub_comm, sub_neg_eq_add, sub_neg_eq_add, add_comm]
  refine ⟨hnearest.inFormat, ?_, ?_⟩
  · intro other hother
    rw [value_not, hdistance, hdistance, neg_neg]
    exact hnearest.nearest (-other) hother.neg
  · intro other hother hne htie
    rw [value_not] at hne htie
    rw [hdistance, hdistance, neg_neg] at htie
    exact hnearest.even (-other) hother.neg (fun heq => hne (neg_eq_iff_eq_neg.mp heq)) htie

/-! ## Scaling -/

section Scaling

variable {numerator denominator : Nat}

theorem scale_natCast (numerator denominator shift : Nat) :
    scale numerator denominator (shift : Int) = (numerator, denominator * 2 ^ shift) := by
  unfold scale
  rw [if_pos (Int.natCast_nonneg shift)]
  rfl

theorem scale_neg (numerator denominator shift : Nat) :
    scale numerator denominator (-(shift : Int)) = (numerator * 2 ^ shift, denominator) := by
  unfold scale
  cases shift with
  | zero => simp
  | succ shift =>
      have hneg : ¬ (0 : Int) ≤ -((shift + 1 : Nat) : Int) := by
        omega
      rw [if_neg hneg]
      simp

theorem scale_pos (numerator : Nat) (hdenominator : 0 < denominator) (exponent : Int) :
    0 < (scale numerator denominator exponent).2 := by
  obtain ⟨shift, rfl | rfl⟩ := exponent.eq_nat_or_neg
  · rw [scale_natCast]
    exact Nat.mul_pos hdenominator (Nat.two_pow_pos shift)
  · rw [scale_neg]
    exact hdenominator

theorem scale_quotient (numerator denominator : Nat) (exponent : Int) :
    ((scale numerator denominator exponent).1 : ℚ) / (scale numerator denominator exponent).2 =
      numerator / denominator / 2 ^ exponent := by
  obtain ⟨shift, rfl | rfl⟩ := exponent.eq_nat_or_neg
  · rw [scale_natCast, zpow_natCast]
    push_cast
    rw [div_div]
  · rw [scale_neg, zpow_neg, zpow_natCast]
    push_cast
    rw [div_inv_eq_mul, mul_div_right_comm]

/-- The guess from the lengths of both numbers is at most one too small. -/
theorem guess_bounds (bits : Nat) (hnumerator : 0 < numerator)
    (hdenominator : 0 < denominator) :
    2 ^ bits < 2 * ((numerator : ℚ) / denominator /
        2 ^ ((numerator.log2 : Int) - denominator.log2 - bits)) ∧
      (numerator : ℚ) / denominator /
        2 ^ ((numerator.log2 : Int) - denominator.log2 - bits) < 2 * 2 ^ bits := by
  have hlow : (2 : ℚ) ^ numerator.log2 ≤ numerator := by
    exact_mod_cast Nat.log2_self_le hnumerator.ne'
  have hhigh : (numerator : ℚ) < 2 * 2 ^ numerator.log2 := by
    rw [← pow_succ']
    exact_mod_cast Nat.lt_log2_self
  have hlowDenominator : (2 : ℚ) ^ denominator.log2 ≤ denominator := by
    exact_mod_cast Nat.log2_self_le hdenominator.ne'
  have hhighDenominator : (denominator : ℚ) < 2 * 2 ^ denominator.log2 := by
    rw [← pow_succ']
    exact_mod_cast Nat.lt_log2_self
  have hpos : (0 : ℚ) < denominator * 2 ^ numerator.log2 := by
    positivity
  have hguess : (numerator : ℚ) / denominator /
      2 ^ ((numerator.log2 : Int) - denominator.log2 - bits) =
        2 ^ bits * (numerator * 2 ^ denominator.log2) /
          (denominator * 2 ^ numerator.log2) := by
    rw [zpow_sub₀ two_ne_zero, zpow_sub₀ two_ne_zero, zpow_natCast, zpow_natCast, zpow_natCast]
    field_simp
  rw [hguess, ← mul_div_assoc, lt_div_iff₀ hpos, div_lt_iff₀ hpos]
  constructor
  · calc (2 : ℚ) ^ bits * (denominator * 2 ^ numerator.log2)
        < 2 ^ bits * ((2 * 2 ^ denominator.log2) * 2 ^ numerator.log2) := by gcongr
      _ ≤ 2 ^ bits * ((2 * 2 ^ denominator.log2) * numerator) := by gcongr
      _ = 2 * (2 ^ bits * (numerator * 2 ^ denominator.log2)) := by ring
  · calc (2 : ℚ) ^ bits * (numerator * 2 ^ denominator.log2)
        < 2 ^ bits * ((2 * 2 ^ numerator.log2) * 2 ^ denominator.log2) := by gcongr
      _ ≤ 2 ^ bits * ((2 * 2 ^ numerator.log2) * denominator) := by gcongr
      _ = 2 * 2 ^ bits * (denominator * 2 ^ numerator.log2) := by ring

theorem exponentOf_bounds (bits : Nat) (hnumerator : 0 < numerator)
    (hdenominator : 0 < denominator) :
    2 ^ bits ≤ 2 * ((numerator : ℚ) / denominator /
        2 ^ exponentOf bits numerator denominator) ∧
      (numerator : ℚ) / denominator /
        2 ^ exponentOf bits numerator denominator < 2 ^ bits := by
  obtain ⟨hlow, hhigh⟩ := guess_bounds bits hnumerator hdenominator
  unfold exponentOf
  simp only
  generalize hguess : (numerator.log2 : Int) - denominator.log2 - bits = guess at hlow hhigh ⊢
  have hpos : (0 : ℚ) < (scale numerator denominator guess).2 := by
    exact_mod_cast scale_pos numerator hdenominator guess
  have hmore : (scale numerator denominator guess).2 * Nat.pow 2 bits ≤
      (scale numerator denominator guess).1 ↔
        (2 : ℚ) ^ bits ≤ numerator / denominator / 2 ^ guess := by
    rw [← scale_quotient, le_div_iff₀ hpos, mul_comm]
    exact_mod_cast Iff.rfl
  by_cases hgrows : (2 : ℚ) ^ bits ≤ numerator / denominator / 2 ^ guess
  · rw [if_pos (hmore.mpr hgrows), zpow_add_one₀ two_ne_zero, ← div_div]
    constructor
    · linarith
    · linarith
  · rw [if_neg (fun hle => hgrows (hmore.mp hle))]
    exact ⟨hlow.le, not_le.mp hgrows⟩

end Scaling

/-! ## Nearest doubles -/

/-- At the exponent a number has 53 bits before the point, or fewer at the least one. -/
structure Scales (target : ℚ) (exponent : Int) : Prop where
  least : -1074 ≤ exponent
  below : target / 2 ^ exponent < 2 ^ 53
  above : 2 ^ 52 ≤ target / 2 ^ exponent ∨ exponent = -1074

theorem scales_exponentOf {numerator denominator : Nat} (hnumerator : 0 < numerator)
    (hdenominator : 0 < denominator) :
    Scales ((numerator : ℚ) / denominator)
      (max (exponentOf precision numerator denominator) leastExponent) := by
  obtain ⟨hlow, hhigh⟩ := exponentOf_bounds precision hnumerator hdenominator
  have hleast : leastExponent = -1074 := rfl
  have hprecision : precision = 53 := rfl
  rw [hprecision] at hlow hhigh ⊢
  rw [hleast]
  rcases le_total (exponentOf 53 numerator denominator) (-1074) with hsmall | hlarge
  · rw [max_eq_right hsmall]
    refine ⟨le_rfl, ?_, .inr rfl⟩
    calc (numerator : ℚ) / denominator / 2 ^ (-1074 : Int)
        ≤ numerator / denominator / 2 ^ exponentOf 53 numerator denominator := by
          gcongr
          norm_num
      _ < 2 ^ 53 := hhigh
  · rw [max_eq_left hlarge]
    refine ⟨hlarge, hhigh, .inl ?_⟩
    linarith

theorem abs_sub_mul_zpow (target number : ℚ) (exponent : Int) :
    |target - number * 2 ^ exponent| = |target / 2 ^ exponent - number| * 2 ^ exponent := by
  have hpos : (0 : ℚ) < 2 ^ exponent := by
    positivity
  rw [← abs_of_pos hpos, ← abs_mul, abs_of_pos hpos, sub_mul, div_mul_cancel₀ _ hpos.ne']

/-- Doubles of at least the exponent lie on its grid; the others are so small
that they are shorter than 53 bits there. -/
theorem IsDouble.onGrid_or_below {number : ℚ} (hnumber : IsDouble number) (exponent : Int) :
    (∃ multiple : ℤ, number = multiple * 2 ^ exponent) ∨
      (number < 2 ^ 52 * 2 ^ exponent ∧ exponent ≠ -1074) := by
  obtain ⟨negative, significand, own, hformat, rfl⟩ := hnumber
  unfold value
  rcases le_or_gt exponent own with hle | hlt
  · left
    obtain ⟨shift, rfl⟩ := Int.le.dest hle
    refine ⟨(if negative then -1 else 1) * (significand * 2 ^ shift), ?_⟩
    rw [zpow_add₀ two_ne_zero, zpow_natCast]
    push_cast
    ring
  · right
    have hleast := hformat.least
    refine ⟨?_, by omega⟩
    have hshort : (significand : ℚ) < 2 ^ 53 := by
      exact_mod_cast hformat.short
    calc (if negative then -1 else 1 : ℚ) * (significand * 2 ^ own)
        ≤ 1 * (significand * 2 ^ own) := by
          gcongr
          split_ifs <;> norm_num
      _ < 2 ^ 53 * 2 ^ own := by
          rw [one_mul]
          gcongr
      _ = 2 ^ 52 * 2 ^ (own + 1) := by
          rw [zpow_add_one₀ two_ne_zero]
          ring
      _ ≤ 2 ^ 52 * 2 ^ exponent := by
          gcongr
          · norm_num
          · omega

section Nearest

variable {target : ℚ} {exponent : Int} {rounded : Nat}

/-- No double off the grid comes as near as the multiple that is nearest on the grid. -/
theorem Scales.onGrid_or_farther (hscales : Scales target exponent)
    (hrounded : IsNearestNat (target / 2 ^ exponent) rounded)
    {number : ℚ} (hnumber : IsDouble number) :
    (∃ multiple : ℤ, number = multiple * 2 ^ exponent) ∨
      |target - rounded * 2 ^ exponent| < |target - number| := by
  rcases hnumber.onGrid_or_below exponent with hgrid | ⟨hbelow, hleast⟩
  · exact .inl hgrid
  · right
    have habove := hscales.above.resolve_right hleast
    have hpower : |target / 2 ^ exponent - rounded| ≤ target / 2 ^ exponent - 2 ^ 52 := by
      have hother := hrounded.nearest (2 ^ 52)
      rwa [Int.cast_pow, Int.cast_ofNat, abs_of_nonneg (sub_nonneg.mpr habove)] at hother
    have hunit : (2 : ℚ) ^ exponent ≠ 0 := by
      positivity
    calc |target - rounded * 2 ^ exponent|
        = |target / 2 ^ exponent - rounded| * 2 ^ exponent := abs_sub_mul_zpow ..
      _ ≤ (target / 2 ^ exponent - 2 ^ 52) * 2 ^ exponent := by gcongr
      _ = target - 2 ^ 52 * 2 ^ exponent := by rw [sub_mul, div_mul_cancel₀ _ hunit]
      _ < target - number := by linarith
      _ ≤ |target - number| := le_abs_self _

theorem Scales.exponent_le (hscales : Scales target exponent) (hshort : target ≤ 2 ^ 53) :
    exponent ≤ 1 := by
  rcases hscales.above with habove | hleast
  · have hunit : (0 : ℚ) < 2 ^ exponent := by
      positivity
    rw [le_div_iff₀ hunit] at habove
    rw [← zpow_le_zpow_iff_right₀ (one_lt_two (α := ℚ)), zpow_one]
    linarith
  · omega

/-- A double that stands for the multiple of the unit that is nearest to a number. -/
structure Rounded (target : ℚ) (exponent : Int) (rounded significand : Nat) (own : Int) :
    Prop where
  scales : Scales target exponent
  nearest : IsNearestNat (target / 2 ^ exponent) rounded
  inFormat : InFormat significand own
  value_eq : value false significand own = rounded * 2 ^ exponent
  even : rounded % 2 = 0 → significand % 2 = 0

theorem Rounded.isNearest {significand : Nat} {own : Int}
    (hrounded : Rounded target exponent rounded significand own) :
    IsNearest target false significand own := by
  have hunit : (0 : ℚ) < 2 ^ exponent := by
    positivity
  refine ⟨hrounded.inFormat, ?_, ?_⟩
  · intro other hother
    rw [hrounded.value_eq]
    rcases hrounded.scales.onGrid_or_farther hrounded.nearest hother with
      ⟨multiple, rfl⟩ | hfarther
    · rw [abs_sub_mul_zpow, abs_sub_mul_zpow]
      exact mul_le_mul_of_nonneg_right (hrounded.nearest.nearest multiple) hunit.le
    · exact hfarther.le
  · intro other hother hne htie
    rw [hrounded.value_eq] at hne htie
    rcases hrounded.scales.onGrid_or_farther hrounded.nearest hother with
      ⟨multiple, rfl⟩ | hfarther
    · rw [abs_sub_mul_zpow, abs_sub_mul_zpow] at htie
      apply hrounded.even
      apply hrounded.nearest.even multiple
      · rintro rfl
        exact hne (by rw [Int.cast_natCast])
      · exact mul_right_cancel₀ hunit.ne' htie
    · exact absurd htie hfarther.ne'

end Nearest

section Quotient

variable {negative sign : Bool} {numerator denominator significand : Nat} {own : Int}

theorem ofQuotient_eq (hzero : numerator ≠ 0) {exponent : Int}
    (hexponent : max (exponentOf precision numerator denominator) leastExponent = exponent)
    {rounded : Nat}
    (hrounded : roundHalfEven (scale numerator denominator exponent).1
      (scale numerator denominator exponent).2 = rounded) :
    ofQuotient negative numerator denominator =
      if rounded = 2 ^ 53 then
        if 971 < exponent + 1 then infinite negative
        else finite negative (2 ^ 52) (exponent + 1)
      else if 971 < exponent then infinite negative
      else finite negative rounded exponent := by
  have hprecision : Nat.pow 2 precision = 2 ^ 53 := rfl
  have hhalf : Nat.pow 2 (precision - 1) = 2 ^ 52 := rfl
  unfold ofQuotient
  rw [if_neg hzero, hexponent]
  dsimp only
  rw [hrounded, hprecision, hhalf]
  by_cases hcarry : rounded = 2 ^ 53
  · rw [if_pos hcarry, if_pos hcarry]
    rfl
  · rw [if_neg hcarry, if_neg hcarry]
    rfl

/-- A positive quotient is rounded on the grid of its exponent; a significand
that comes out one bit too long is halved. -/
theorem ofQuotient_onGrid (negative : Bool) (hnumerator : 0 < numerator)
    (hdenominator : 0 < denominator) :
    ∃ exponent rounded, Scales ((numerator : ℚ) / denominator) exponent ∧
      IsNearestNat ((numerator : ℚ) / denominator / 2 ^ exponent) rounded ∧
      ofQuotient negative numerator denominator =
        if rounded = 2 ^ 53 then
          if 971 < exponent + 1 then infinite negative
          else finite negative (2 ^ 52) (exponent + 1)
        else if 971 < exponent then infinite negative
        else finite negative rounded exponent := by
  obtain ⟨exponent, hexponent⟩ : ∃ exponent : Int,
      max (exponentOf precision numerator denominator) leastExponent = exponent := ⟨_, rfl⟩
  have hscales := scales_exponentOf hnumerator hdenominator
  rw [hexponent] at hscales
  have hnearest := isNearestNat_roundHalfEven (scale numerator denominator exponent).1
    (scale_pos numerator hdenominator exponent)
  rw [scale_quotient] at hnearest
  exact ⟨exponent, _, hscales, hnearest, ofQuotient_eq hnumerator.ne' hexponent rfl⟩

theorem rounded_of_ofQuotient (hnumerator : 0 < numerator) (hdenominator : 0 < denominator)
    (hquotient : ofQuotient negative numerator denominator = finite sign significand own) :
    sign = negative ∧ ∃ exponent rounded,
      Rounded ((numerator : ℚ) / denominator) exponent rounded significand own := by
  obtain ⟨exponent, rounded, hscales, hnearest, hequation⟩ :=
    ofQuotient_onGrid negative hnumerator hdenominator
  have hshort : (rounded : ℤ) ≤ 2 ^ 53 :=
    hnearest.le (by exact_mod_cast hscales.below.le)
  have hfull : (2 ^ 52 : ℤ) ≤ rounded ∨ exponent = -1074 :=
    hscales.above.imp_left fun habove => hnearest.ge (by exact_mod_cast habove)
  have hleast := hscales.least
  rw [hquotient] at hequation
  split_ifs at hequation with hcarry hgreatest hgreatest
  · injection hequation with hsign hsignificand hown
    subst hsign hsignificand hown
    refine ⟨rfl, exponent, rounded, hscales, hnearest,
      ⟨by norm_num, by omega, by omega, .inl le_rfl⟩, ?_, fun _ => rfl⟩
    rw [hcarry, value_carried, value, if_neg Bool.false_ne_true, one_mul]
  · injection hequation with hsign hsignificand hown
    subst hsign hsignificand hown
    refine ⟨rfl, own, significand, hscales, hnearest,
      ⟨by omega, hleast, by omega, by omega⟩, ?_, id⟩
    rw [value, if_neg Bool.false_ne_true, one_mul]

theorem exists_ofQuotient_eq_finite (negative : Bool) (hnumerator : 0 < numerator)
    (hdenominator : 0 < denominator) (hshort : (numerator : ℚ) / denominator ≤ 2 ^ 53) :
    ∃ significand own,
      ofQuotient negative numerator denominator = finite negative significand own := by
  obtain ⟨exponent, rounded, hscales, -, hequation⟩ :=
    ofQuotient_onGrid negative hnumerator hdenominator
  have hexponent := hscales.exponent_le hshort
  rw [hequation]
  by_cases hcarry : rounded = 2 ^ 53
  · rw [if_pos hcarry]
    exact ⟨_, _, if_neg (by omega)⟩
  · rw [if_neg hcarry]
    exact ⟨_, _, if_neg (by omega)⟩

theorem isNearest_zero (negative : Bool) : IsNearest 0 negative 0 leastExponent := by
  have hvalue : value negative 0 leastExponent = 0 := by
    unfold value
    simp
  refine ⟨⟨by norm_num, le_rfl, by decide, .inr rfl⟩, ?_, fun _ _ _ _ => rfl⟩
  intro other _
  rw [hvalue, sub_zero, abs_zero]
  exact abs_nonneg _

/-- A quotient whose rounding is finite is rounded to the nearest double. -/
theorem ofQuotient_isNearest (hdenominator : 0 < denominator)
    (hquotient : ofQuotient negative numerator denominator = finite sign significand own) :
    IsNearest ((if negative then -1 else 1) * ((numerator : ℚ) / denominator))
      sign significand own := by
  rcases numerator.eq_zero_or_pos with hzero | hnumerator
  · subst hzero
    unfold ofQuotient zero at hquotient
    rw [if_pos rfl] at hquotient
    injection hquotient with hsign hsignificand hown
    subst hsign hsignificand hown
    rw [Nat.cast_zero, zero_div, mul_zero]
    exact isNearest_zero negative
  · obtain ⟨rfl, exponent, rounded, hrounded⟩ :=
      rounded_of_ofQuotient hnumerator hdenominator hquotient
    cases sign with
    | false =>
        rw [if_neg Bool.false_ne_true, one_mul]
        exact hrounded.isNearest
    | true =>
        rw [if_pos rfl, neg_one_mul]
        exact hrounded.isNearest.neg

end Quotient

end Double
end Roster
