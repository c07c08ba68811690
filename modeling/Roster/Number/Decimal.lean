import Roster.Number.Extended

/-!
# Decimal texts of doubles

Two texts. The shortest one has the fewest digits that read back as the same double, and of
several such the nearest. The rounded one has fifteen significant digits and is what a text pattern
sees of a real column.
-/

namespace Roster

def natText (number : Nat) : List Char :=
  Nat.toDigits 10 number

def intText (number : Int) : String :=
  if number < 0 then String.ofList ('-' :: natText number.natAbs)
  else String.ofList (natText number.natAbs)

namespace Double

/-- Significant digits, and the place of the point: the value is `0.digits * 10 ^ point`. -/
structure Digits where
  digits : List Char
  point : Int

/-- The place of the point of a positive fraction: the least `k` with value below `10 ^ k`. -/
def pointOf (numerator denominator : Nat) : Int :=
  if denominator ≤ numerator then (natText (numerator / denominator)).length
  else
    let inverse := (denominator + numerator - 1) / numerator
    let length : Int := (natText inverse).length
    -- the value lies in `[1 / inverse, 1 / (inverse - 1))`
    if numerator * Nat.pow 10 (length - 1).toNat ≥ denominator then 2 - length else 1 - length

/-- The fraction as a multiple of `10 ^ exponent`: floor and remainder test. -/
def onGrid (numerator denominator : Nat) (exponent : Int) : Nat × Nat :=
  if 0 ≤ exponent then (numerator, denominator * Nat.pow 10 exponent.toNat)
  else (numerator * Nat.pow 10 (-exponent).toNat, denominator)

/-- The neighbours of a fraction on a decimal grid, the nearer first, a tie to the even one. -/
def neighbours (numerator denominator : Nat) (exponent : Int) : List Nat :=
  let (p, q) := onGrid numerator denominator exponent
  let low := p / q
  if roundHalfEven p q = low then [low, low + 1] else [low + 1, low]

/-- The first of the counts of digits on whose grid a neighbour reads back. -/
def shortestFrom (value : Double) (numerator denominator : Nat) (point : Int) :
    List Nat → Digits
  | [] => ⟨natText (roundHalfEven (onGrid numerator denominator (point - 17)).1
      (onGrid numerator denominator (point - 17)).2), point⟩
  | count :: counts =>
    let exponent := point - count
    match (neighbours numerator denominator exponent).find?
        (fun digits => ofDecimal false digits exponent = value) with
    | some digits =>
      let text := natText digits
      ⟨text, exponent + text.length⟩
    | none => shortestFrom value numerator denominator point counts

def shortest (significand : Nat) (exponent : Int) : Digits :=
  let (numerator, denominator) := fraction false significand exponent
  shortestFrom (.finite false significand exponent) numerator.toNat denominator
    (pointOf numerator.toNat denominator) (List.range' 1 17)

/-- Drops zeros from the end, keeping one digit. -/
def dropTrailingZeros (digits : List Char) : List Char :=
  match (digits.reverse.dropWhile (· = '0')).reverse with
  | [] => ['0']
  | kept => kept

def exponentText (exponent : Int) : List Char :=
  let digits := natText exponent.natAbs
  (if exponent < 0 then '-' else '+') :: (if digits.length < 2 then '0' :: digits else digits)

structure Layout where
  greatestPoint : Int
  pointBeforeExponent : Bool

/-- Texts in answers: positional from 0.0001 to below 10 ^ 16. -/
def answerLayout : Layout := ⟨16, false⟩

/-- Texts under a pattern: positional from 0.0001 to below 10 ^ 15. -/
def patternLayout : Layout := ⟨15, true⟩

def Layout.write (layout : Layout) (value : Digits) : List Char :=
  let digits := dropTrailingZeros value.digits
  if -4 < value.point ∧ value.point ≤ layout.greatestPoint then
    if value.point ≤ 0 then
      '0' :: '.' :: List.replicate (-value.point).toNat '0' ++ digits
    else
      let whole := value.point.toNat
      if digits.length ≤ whole then
        digits ++ List.replicate (whole - digits.length) '0' ++ ['.', '0']
      else digits.take whole ++ '.' :: digits.drop whole
  else
    let mantissa :=
      match digits with
      | [digit] => if layout.pointBeforeExponent then [digit, '.', '0'] else [digit]
      | digit :: rest => digit :: '.' :: rest
      | [] => []
    mantissa ++ 'e' :: exponentText (value.point - 1)

def text : Double → String
  | .nan => "nan"
  | .infinite negative => if negative then "-inf" else "inf"
  | .finite negative significand exponent =>
    let body :=
      if significand = 0 then "0.0".toList
      else answerLayout.write (shortest significand exponent)
    String.ofList (if negative then '-' :: body else body)

/-- Fifteen significant digits, found in extended numbers. -/
def fifteenDigits (significand : Nat) (exponent : Int) : Digits :=
  let (digits, power) := Extended.decimal ⟨significand, exponent⟩
  ⟨digits.flatMap natText, power + 1⟩

/-- The text of a double that a pattern is matched with. -/
def patternText : Double → String
  | .nan => ""
  | .infinite negative => if negative then "-Inf" else "Inf"
  | .finite negative significand exponent =>
    let body :=
      if significand = 0 then "0.0".toList
      else patternLayout.write (fifteenDigits significand exponent)
    String.ofList (if negative && significand ≠ 0 then '-' :: body else body)

end Double

end Roster
