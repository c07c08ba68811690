import Roster.Token.Moment
import Roster.Proofs.Number.Rounding
import Mathlib.Tactic

/-!
# Seconds of a moment

A moment is rounded to a double before its second is taken.  A number that is a double itself does
not change, so nothing happens to whole seconds.  For moments from 1970 to 2514 nothing happens to
the second of any other moment either: there two neighbouring doubles are less than two microseconds
apart, so that a moment before a whole second is not rounded up to it.
-/

namespace Roster

namespace Double

/-! ## Numbers that are doubles -/

/-- A whole number of at most 53 bits is a double at every unit that is not too small. -/
theorem isDouble_of_short {significand : Nat} (hshort : significand < 2 ^ 53) (exponent : Int)
    (hleast : -1022 ≤ exponent) (hgreatest : exponent ≤ 971) :
    IsDouble (significand * 2 ^ exponent) := by
  rcases significand.eq_zero_or_pos with hzero | hpos
  · refine ⟨false, 0, leastExponent, ⟨by norm_num, le_rfl, by decide, .inr rfl⟩, ?_⟩
    simp [value, hzero]
  · -- the significand is shifted until it has all its bits
    have hlow := Nat.log2_self_le hpos.ne'
    have hhigh := Nat.lt_log2_self (n := significand)
    have hbits : significand.log2 < 53 := (Nat.log2_lt hpos.ne').mpr hshort
    obtain ⟨shift, hshift⟩ : ∃ shift, 52 = significand.log2 + shift :=
      ⟨52 - significand.log2, by omega⟩
    have hfull : 2 ^ 52 ≤ significand * 2 ^ shift := by
      rw [hshift, Nat.pow_add]
      exact Nat.mul_le_mul_right _ hlow
    have hfits : significand * 2 ^ shift < 2 ^ 53 := by
      rw [show 53 = significand.log2 + 1 + shift by omega, Nat.pow_add]
      exact Nat.mul_lt_mul_of_pos_right hhigh (by positivity)
    refine ⟨false, significand * 2 ^ shift, exponent - shift,
      ⟨hfits, by omega, by omega, .inl hfull⟩, ?_⟩
    rw [value, if_neg Bool.false_ne_true, one_mul, zpow_sub₀ two_ne_zero, zpow_natCast]
    push_cast
    field_simp

theorem isDouble_intCast {number : Int} (hshort : number.natAbs < 2 ^ 53) :
    IsDouble number := by
  have hmagnitude : IsDouble (number.natAbs : ℚ) := by
    simpa using isDouble_of_short hshort 0 (by decide) (by decide)
  rcases number.natAbs_eq with hnumber | hnumber
  · rwa [hnumber, Int.cast_natCast]
  · rw [hnumber, Int.cast_neg, Int.cast_natCast]
    exact hmagnitude.neg

section IsNearest

variable {target : ℚ} {negative : Bool} {significand : Nat} {exponent : Int}
  (hnearest : IsNearest target negative significand exponent)
include hnearest

theorem IsNearest.eq_of_isDouble (htarget : IsDouble target) :
    value negative significand exponent = target := by
  have hdistance := hnearest.nearest target htarget
  rw [sub_self, abs_zero] at hdistance
  have hzero := abs_eq_zero.mp (le_antisymm hdistance (abs_nonneg _))
  linarith

theorem IsNearest.ge {bound : ℚ} (hbound : IsDouble bound) (hle : bound ≤ target) :
    bound ≤ value negative significand exponent := by
  by_contra hless
  have hdistance := hnearest.nearest bound hbound
  rw [abs_of_nonneg (by linarith), abs_of_nonneg (by linarith)] at hdistance
  linarith

theorem IsNearest.le {bound : ℚ} (hbound : IsDouble bound) (hle : target ≤ bound) :
    value negative significand exponent ≤ bound := by
  by_contra hmore
  have hdistance := hnearest.nearest bound hbound
  rw [abs_of_nonpos (by linarith), abs_of_nonpos (by linarith)] at hdistance
  linarith

/-- The rounded number is not beyond one that is farther off than a double is. -/
theorem IsNearest.lt_of_near {near bound : ℚ} (hnear : IsDouble near)
    (hcloser : |target - near| < bound - target) :
    value negative significand exponent < bound := by
  have hdistance := hnearest.nearest near hnear
  have habove := neg_abs_le (target - value negative significand exponent)
  linarith

end IsNearest

/-! ## Whole parts -/

theorem floor?_finite (negative : Bool) (significand : Nat) (exponent : Int) :
    (finite negative significand exponent).floor? =
      some ⌊value negative significand exponent⌋ := by
  unfold floor?
  rw [← fraction_value, Rat.floor_intCast_div_natCast]

theorem fraction_pos (negative : Bool) (significand : Nat) (exponent : Int) :
    0 < (fraction negative significand exponent).2 := by
  unfold fraction
  by_cases hsign : 0 ≤ exponent
  · simp only [if_pos hsign]
    exact Nat.one_pos
  · simp only [if_neg hsign]
    exact Nat.two_pow_pos _

theorem truncate?_of_nonneg {negative : Bool} {significand : Nat} {exponent : Int}
    (hpositive : 0 ≤ value negative significand exponent) :
    (finite negative significand exponent).truncate? =
      some ⌊value negative significand exponent⌋ := by
  have hpos : (0 : ℚ) < (fraction negative significand exponent).2 := by
    exact_mod_cast fraction_pos negative significand exponent
  have hnumerator : 0 ≤ (fraction negative significand exponent).1 := by
    rw [← fraction_value, le_div_iff₀ hpos, zero_mul] at hpositive
    exact_mod_cast hpositive
  unfold truncate?
  rw [← fraction_value, Rat.floor_intCast_div_natCast]
  exact congrArg some (Int.tdiv_eq_ediv_of_nonneg hnumerator)

theorem truncate?_of_value_eq {negative : Bool} {significand : Nat} {exponent whole : Int}
    (hwhole : value negative significand exponent = whole) :
    (finite negative significand exponent).truncate? = some whole := by
  have hpos := fraction_pos negative significand exponent
  rw [← fraction_value, div_eq_iff (by exact_mod_cast hpos.ne')] at hwhole
  have hproduct : (fraction negative significand exponent).1 =
      whole * (fraction negative significand exponent).2 := by
    exact_mod_cast hwhole
  unfold truncate?
  simp only [hproduct]
  exact congrArg some (Int.mul_tdiv_cancel whole (by omega))

/-- What is cut off brings a number no farther from zero. -/
theorem exists_truncate? (negative : Bool) (significand : Nat) (exponent : Int) :
    ∃ whole, (finite negative significand exponent).truncate? = some whole ∧
      |(whole : ℚ)| ≤ |value negative significand exponent| := by
  have hpos := fraction_pos negative significand exponent
  have hvalue := fraction_value negative significand exponent
  refine ⟨(fraction negative significand exponent).1.tdiv
    (fraction negative significand exponent).2, rfl, ?_⟩
  generalize (fraction negative significand exponent).1 = numerator at hvalue ⊢
  generalize (fraction negative significand exponent).2 = denominator at hpos hvalue ⊢
  have hcut : (numerator.tdiv denominator).natAbs * denominator ≤ numerator.natAbs := by
    rw [Int.natAbs_tdiv, Int.natAbs_natCast]
    exact Nat.div_mul_le_self numerator.natAbs denominator
  qify at hcut
  rw [← hvalue, abs_div, Nat.abs_cast, le_div_iff₀ (by exact_mod_cast hpos)]
  simpa using hcut

end Double

/-! ## Moments -/

namespace Moment

open Double

variable {moment : Moment} {seconds : Int}

@[simp] theorem micros_ofSeconds (seconds : Int) :
    (ofSeconds seconds).micros = seconds * microsPerSecond := rfl

@[simp] theorem micros_later (moment : Moment) (hours : Int) :
    (moment.later hours).micros = moment.micros + 3600 * hours * microsPerSecond := rfl

/-- The seconds of a moment, with their fraction. -/
def exact (moment : Moment) : ℚ :=
  moment.micros / microsPerSecond

theorem exact_eq (moment : Moment) :
    moment.exact = (if (moment.micros < 0 : Bool) then -1 else 1) *
      ((moment.micros.natAbs : ℚ) / microsPerSecond) := by
  unfold exact
  rw [mul_div_assoc']
  congr 1
  by_cases hnegative : moment.micros < 0
  · rw [if_pos (decide_eq_true hnegative), neg_one_mul]
    rw [← Int.cast_natCast, ← Int.cast_neg, ← Int.eq_neg_natAbs_of_nonpos hnegative.le]
  · rw [if_neg (by simpa using hnegative), one_mul]
    rw [← Int.cast_natCast, ← Int.eq_natAbs_of_nonneg (not_lt.mp hnegative)]

/-- The timestamp is the nearest double, for all moments of which a double can count the seconds. -/
theorem exists_timestamp (hshort : moment.micros.natAbs ≤ 2 ^ 53 * microsPerSecond) :
    ∃ negative significand exponent,
      moment.timestamp = .finite negative significand exponent ∧
        IsNearest moment.exact negative significand exponent := by
  have hper : 0 < microsPerSecond := by decide
  have hfinite : ∃ negative significand exponent,
      moment.timestamp = .finite negative significand exponent := by
    unfold timestamp
    rcases moment.micros.natAbs.eq_zero_or_pos with hzero | hpos
    · rw [hzero]
      exact ⟨_, _, _, rfl⟩
    · have hquotient : (moment.micros.natAbs : ℚ) / microsPerSecond ≤ 2 ^ 53 := by
        rw [div_le_iff₀ (by exact_mod_cast hper)]
        exact_mod_cast hshort
      exact ⟨_, exists_ofQuotient_eq_finite _ hpos hper hquotient⟩
  obtain ⟨negative, significand, exponent, htimestamp⟩ := hfinite
  refine ⟨negative, significand, exponent, htimestamp, ?_⟩
  rw [exact_eq]
  exact ofQuotient_isNearest hper htimestamp

theorem natAbs_written_le (bound : Nat) (hbound : bound < 2 ^ 53)
    (hmicros : moment.micros.natAbs ≤ bound * microsPerSecond) :
    moment.written.natAbs ≤ bound := by
  have hshort : moment.micros.natAbs ≤ 2 ^ 53 * microsPerSecond :=
    hmicros.trans (Nat.mul_le_mul_right _ hbound.le)
  obtain ⟨negative, significand, exponent, htimestamp, hnearest⟩ := exists_timestamp hshort
  obtain ⟨whole, hwhole, hcut⟩ := exists_truncate? negative significand exponent
  have hdouble : IsDouble ((bound : Int) : ℚ) := isDouble_intCast (by simpa using hbound)
  rw [Int.cast_natCast] at hdouble
  have hexact : |moment.exact| ≤ bound := by
    unfold exact
    rw [abs_div, Nat.abs_cast, div_le_iff₀ (by simp [microsPerSecond])]
    qify at hmicros
    simpa using hmicros
  have hvalue : |value negative significand exponent| ≤ bound := by
    obtain ⟨hless, hmore⟩ := abs_le.mp hexact
    exact abs_le.mpr ⟨hnearest.ge hdouble.neg hless, hnearest.le hdouble hmore⟩
  have hbounded : |(whole : ℚ)| ≤ bound := hcut.trans hvalue
  unfold written
  rw [htimestamp, hwhole]
  qify
  simpa using hbounded

/-! ### Whole seconds -/

theorem exact_ofSeconds (seconds : Int) : (ofSeconds seconds).exact = seconds := by
  have hper : (microsPerSecond : ℚ) ≠ 0 := by
    simp [microsPerSecond]
  unfold exact ofSeconds
  push_cast
  exact mul_div_cancel_right₀ _ hper

theorem second_ofSeconds (hshort : seconds.natAbs < 2 ^ 53) :
    (ofSeconds seconds).second = seconds ∧ (ofSeconds seconds).written = seconds := by
  have hfew : (ofSeconds seconds).micros.natAbs ≤ 2 ^ 53 * microsPerSecond := by
    unfold ofSeconds
    rw [Int.natAbs_mul]
    exact Nat.mul_le_mul_right _ hshort.le
  obtain ⟨negative, significand, exponent, htimestamp, hnearest⟩ := exists_timestamp hfew
  rw [exact_ofSeconds] at hnearest
  have hvalue := hnearest.eq_of_isDouble (isDouble_intCast hshort)
  unfold second written
  rw [htimestamp, floor?_finite, truncate?_of_value_eq hvalue, hvalue, Int.floor_intCast]
  exact ⟨rfl, rfl⟩

/-! ### Seconds of all moments -/

/-- From 1970 to 2514 doubles are close enough to keep the second of a moment. -/
def IsOrdinary (moment : Moment) : Prop :=
  0 ≤ moment.micros ∧ moment.micros < 2 ^ 34 * microsPerSecond

theorem exact_mul (moment : Moment) : moment.exact * microsPerSecond = moment.micros := by
  have hper : (microsPerSecond : ℚ) ≠ 0 := by
    simp [microsPerSecond]
  exact div_mul_cancel₀ _ hper

/-- On the grid of two to the power of nineteen a number is less than a microsecond away. -/
theorem exists_near (hordinary : moment.IsOrdinary) :
    ∃ near, IsDouble near ∧ |moment.exact - near| < 1 / microsPerSecond := by
  obtain ⟨hstart, hend⟩ := hordinary
  have hmicros := moment.exact_mul
  have hper : (microsPerSecond : ℚ) = 1000000 := by
    norm_num [microsPerSecond]
  have hlow : (0 : ℚ) ≤ moment.micros := by
    exact_mod_cast hstart
  have hhigh : (moment.micros : ℚ) + 1 ≤ 2 ^ 34 * 1000000 := by
    exact_mod_cast Int.add_one_le_iff.mpr hend
  rw [hper] at hmicros ⊢
  obtain ⟨hless, hmore⟩ := abs_le.mp (abs_sub_round (moment.exact * 2 ^ 19))
  set grid := round (moment.exact * 2 ^ 19)
  have hpositive : 0 ≤ grid := by
    have hnotBelow : (-1 : ℚ) < grid := by
      linarith
    have hinteger : (-1 : ℤ) < grid := by
      exact_mod_cast hnotBelow
    omega
  have hshort : grid.toNat < 2 ^ 53 := by
    have hbelow : (grid : ℚ) < 2 ^ 53 := by
      linarith
    have hinteger : grid < 2 ^ 53 := by
      exact_mod_cast hbelow
    omega
  have hdouble := isDouble_of_short hshort (-19) (by decide) (by decide)
  have hgrid : ((grid.toNat : Nat) : ℚ) = grid := by
    exact_mod_cast Int.toNat_of_nonneg hpositive
  refine ⟨_, hdouble, ?_⟩
  rw [hgrid, zpow_neg, abs_lt, ← div_eq_mul_inv]
  norm_num
  constructor
  · linarith
  · linarith

theorem IsOrdinary.floor_eq (hordinary : moment.IsOrdinary) :
    ∃ negative significand exponent,
      moment.timestamp = .finite negative significand exponent ∧
        0 ≤ value negative significand exponent ∧
        ⌊value negative significand exponent⌋ = moment.micros / microsPerSecond := by
  have hbounds := hordinary
  unfold IsOrdinary microsPerSecond at hbounds
  have hshort : moment.micros.natAbs ≤ 2 ^ 53 * microsPerSecond := by
    unfold microsPerSecond
    omega
  obtain ⟨negative, significand, exponent, htimestamp, hnearest⟩ := exists_timestamp hshort
  set whole := moment.micros / microsPerSecond with hwhole
  have hwhole_bounds : 0 ≤ whole ∧ whole < 2 ^ 34 := by
    unfold microsPerSecond at hwhole
    omega
  have hper : (microsPerSecond : ℚ) = 1000000 := by
    norm_num [microsPerSecond]
  have hmicros := moment.exact_mul
  have hdivision : whole * 1000000 ≤ moment.micros ∧ moment.micros + 1 ≤ (whole + 1) * 1000000 := by
    unfold microsPerSecond at hwhole
    omega
  qify at hdivision
  rw [hper] at hmicros
  have hbelow : (whole : ℚ) ≤ moment.exact := by
    linarith
  have habove : 1 / microsPerSecond ≤ (whole + 1 : ℚ) - moment.exact := by
    rw [hper]
    linarith
  have hge : (whole : ℚ) ≤ value negative significand exponent :=
    hnearest.ge (isDouble_intCast (by omega)) hbelow
  have hlt : value negative significand exponent < whole + 1 := by
    obtain ⟨near, hdouble, hclose⟩ := exists_near hordinary
    exact hnearest.lt_of_near hdouble (hclose.trans_le habove)
  have hzero : (0 : ℚ) ≤ whole := by
    exact_mod_cast hwhole_bounds.1
  exact ⟨negative, significand, exponent, htimestamp, hzero.trans hge,
    Int.floor_eq_iff.mpr ⟨hge, hlt⟩⟩

theorem IsOrdinary.second_eq (hordinary : moment.IsOrdinary) :
    moment.second = moment.micros / microsPerSecond := by
  obtain ⟨negative, significand, exponent, htimestamp, -, hfloor⟩ := hordinary.floor_eq
  unfold second
  rw [htimestamp, floor?_finite, hfloor]
  rfl

theorem IsOrdinary.written_eq (hordinary : moment.IsOrdinary) :
    moment.written = moment.micros / microsPerSecond := by
  obtain ⟨negative, significand, exponent, htimestamp, hpositive, hfloor⟩ := hordinary.floor_eq
  unfold written
  rw [htimestamp, truncate?_of_nonneg hpositive, hfloor]
  rfl

end Moment
end Roster
