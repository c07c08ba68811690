import Roster.Number.Double

/-!
# Extended numbers

Numbers of sixty-four significant bits that are not negative. Every operation rounds the exact
result to the nearest such number, a tie to the even significand. Main definition: `decimal`, the
first fifteen digits of a number as a machine of this width finds them; the last of them can
differ from those of the exact value.
-/

namespace Roster

/-- The number `significand * 2 ^ exponent`. -/
structure Extended where
  significand : Nat
  exponent : Int
  deriving DecidableEq

namespace Extended

def precision : Nat := 64

def fraction (value : Extended) : Nat × Nat :=
  if 0 ≤ value.exponent then (value.significand * Nat.pow 2 value.exponent.toNat, 1)
  else (value.significand, Nat.pow 2 (-value.exponent).toNat)

def ofQuotient (numerator denominator : Nat) : Extended :=
  if numerator = 0 then ⟨0, 0⟩
  else
    let exponent := Double.exponentOf precision numerator denominator
    let (p, q) := Double.scale numerator denominator exponent
    ⟨roundHalfEven p q, exponent⟩

/-- The double nearest to `digits * 10 ^ exponent` as an extended number. -/
def constant (digits : Nat) (exponent : Int) : Extended :=
  match Double.ofDecimal false digits exponent with
  | .finite _ significand exponent => ⟨significand, exponent⟩
  | _ => ⟨0, 0⟩

def mul (a b : Extended) : Extended :=
  let (p, q) := a.fraction
  let (r, s) := b.fraction
  ofQuotient (p * r) (q * s)

def div (a b : Extended) : Extended :=
  let (p, q) := a.fraction
  let (r, s) := b.fraction
  ofQuotient (p * s) (q * r)

def add (a b : Extended) : Extended :=
  let (p, q) := a.fraction
  let (r, s) := b.fraction
  ofQuotient (p * s + r * q) (q * s)

def le (a b : Extended) : Bool :=
  let (p, q) := a.fraction
  let (r, s) := b.fraction
  p * s ≤ r * q

def split (value : Extended) : Nat × Extended :=
  let (p, q) := value.fraction
  (p / q, ofQuotient (p % q) q)

def ten : Extended := ⟨10, 0⟩

/-- More steps than any double needs. -/
def maxSteps : Nat := 64

/-- Multiplies a scale by a power of ten while the product is at most the value; `exponent` is the
power of ten that the scale stands for. -/
def growScale (value : Extended) (power : Nat) : (steps : Nat) → Extended × Int → Extended × Int
  | 0, found => found
  | steps + 1, (scale, exponent) =>
    let larger := (constant 1 power).mul scale
    if larger.le value then growScale value power steps (larger, exponent + power)
    else (scale, exponent)

def growValue (bound : Extended) (power : Nat) : (steps : Nat) → Extended × Int → Extended × Int
  | 0, found => found
  | steps + 1, (value, exponent) =>
    if bound.le value then (value, exponent)
    else growValue bound power steps (value.mul (constant 1 power), exponent - power)

/-- A positive number as one between 1 and 10 and a power of ten. -/
def normalize (value : Extended) : Extended × Int :=
  let (scale, exponent) :=
    growScale value 1 maxSteps
      (growScale value 10 maxSteps (growScale value 100 maxSteps (⟨1, 0⟩, 0)))
  growValue ⟨1, 0⟩ 1 maxSteps
    (growValue (constant 1 (-8)) 8 maxSteps (value.div scale, exponent))

def digits : (count : Nat) → Extended → List Nat
  | 0, _ => []
  | count + 1, value =>
    let (digit, rest) := value.split
    digit :: digits count (rest.mul ten)

/-- Half a unit of the fifteenth digit of a number between 1 and 10. -/
def halfUnit : Extended :=
  (constant 5 (-5)).mul (constant 1 (-10))

/-- Fifteen digits of a positive number, rounded, and the power of ten of the first. -/
def decimal (value : Extended) : List Nat × Int :=
  let (mantissa, exponent) := value.normalize
  let rounded := mantissa.add halfUnit
  if ten.le rounded then (digits 15 (rounded.mul (constant 1 (-1))), exponent + 1)
  else (digits 15 rounded, exponent)

end Extended

end Roster
