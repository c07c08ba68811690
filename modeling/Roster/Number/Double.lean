/-!
# Doubles

Binary floating-point numbers as exact data: a sign, a significand below 2 ^ 53 and a power of
two. A quotient of naturals is rounded to the nearest double, a tie to the even significand.
-/

namespace Roster

def roundHalfEven (numerator denominator : Nat) : Nat :=
  let quotient := numerator / denominator
  let twice := 2 * (numerator % denominator)
  if twice < denominator then quotient
  else if denominator < twice then quotient + 1
  else quotient + quotient % 2

inductive Double where
  /-- `± significand * 2 ^ exponent` -/
  | finite (negative : Bool) (significand : Nat) (exponent : Int)
  | infinite (negative : Bool)
  | nan
  deriving DecidableEq, Inhabited

namespace Double

def precision : Nat := 53
def leastExponent : Int := -1074
def greatestExponent : Int := 971

def zero (negative : Bool) : Double := .finite negative 0 leastExponent

/-- The quotient `numerator / (denominator * 2 ^ exponent)` as a pair of naturals. -/
def scale (numerator denominator : Nat) (exponent : Int) : Nat × Nat :=
  if 0 ≤ exponent then (numerator, denominator * Nat.pow 2 exponent.toNat)
  else (numerator * Nat.pow 2 (-exponent).toNat, denominator)

/-- The exponent at which the quotient has exactly so many bits before the point. -/
def exponentOf (bits numerator denominator : Nat) : Int :=
  let guess : Int := (numerator.log2 : Int) - denominator.log2 - bits
  let (scaledNumerator, scaledDenominator) := scale numerator denominator guess
  if scaledDenominator * Nat.pow 2 bits ≤ scaledNumerator then guess + 1 else guess

/-- The double nearest to `numerator / denominator`, for a positive denominator. -/
def ofQuotient (negative : Bool) (numerator denominator : Nat) : Double :=
  if numerator = 0 then zero negative
  else
    let exponent := max (exponentOf precision numerator denominator) leastExponent
    let (scaledNumerator, scaledDenominator) := scale numerator denominator exponent
    let significand := roundHalfEven scaledNumerator scaledDenominator
    let (significand, exponent) :=
      if significand = Nat.pow 2 precision then (Nat.pow 2 (precision - 1), exponent + 1)
      else (significand, exponent)
    if greatestExponent < exponent then .infinite negative
    else .finite negative significand exponent

def fraction (negative : Bool) (significand : Nat) (exponent : Int) : Int × Nat :=
  let magnitude : Nat :=
    if 0 ≤ exponent then significand * Nat.pow 2 exponent.toNat else significand
  (if negative then -(magnitude : Int) else magnitude,
    if 0 ≤ exponent then 1 else Nat.pow 2 (-exponent).toNat)

def ceiling? : Double → Option Int
  | .finite negative significand exponent =>
    let (numerator, denominator) := fraction negative significand exponent
    some (-((-numerator) / denominator))
  | _ => none

def floor? : Double → Option Int
  | .finite negative significand exponent =>
    let (numerator, denominator) := fraction negative significand exponent
    some (numerator / denominator)
  | _ => none

def truncate? : Double → Option Int
  | .finite negative significand exponent =>
    let (numerator, denominator) := fraction negative significand exponent
    some (numerator.tdiv denominator)
  | _ => none

def toInt? : Double → Option Int
  | .finite negative significand exponent =>
    let (numerator, denominator) := fraction negative significand exponent
    if numerator % denominator = 0 then some (numerator / denominator) else none
  | _ => none

/-- Zeros of both signs compare equal; nothing compares with a NaN. -/
def compare? : Double → Double → Option Ordering
  | .nan, _ => none
  | _, .nan => none
  | .infinite a, .infinite b => some (compare b.toNat a.toNat)
  | .infinite a, .finite .. => some (if a then .lt else .gt)
  | .finite .., .infinite b => some (if b then .gt else .lt)
  | .finite aNegative a aExponent, .finite bNegative b bExponent =>
    let (p, q) := fraction aNegative a aExponent
    let (r, s) := fraction bNegative b bExponent
    some (compare (p * s) (r * q))

def ofDecimal (negative : Bool) (digits : Nat) (exponent : Int) : Double :=
  if digits = 0 then zero negative
  else
    let length : Int := (Nat.toDigits 10 digits).length
    if 400 < length + exponent then .infinite negative
    else if length + exponent < -400 then zero negative
    else if 0 ≤ exponent then ofQuotient negative (digits * Nat.pow 10 exponent.toNat) 1
    else ofQuotient negative digits (Nat.pow 10 (-exponent).toNat)

end Double

end Roster
