import Roster.Text.Blank
import Roster.Text.Digit
import Roster.Text.Pieces
import Roster.Number.Decimal

/-!
# Reading numbers

Numbers in settings, filters and tokens. White space around a number is ignored, digits of every
script count, and single underscores may stand between digits. An integer of more than 4300 digits
is refused.
-/

namespace Roster

/-- Digit values of a run in which single underscores may separate digits. -/
def digitRun? (value? : Char → Option Nat) : List Char → Option (List Nat)
  | [] => none
  | [c] => (value? c).map fun digit => [digit]
  | c :: '_' :: rest =>
    match value? c with
    | some digit => (digitRun? value? rest).map (digit :: ·)
    | none => none
  | c :: next :: rest =>
    match value? c with
    | some digit => (digitRun? value? (next :: rest)).map (digit :: ·)
    | none => none

/-- Splits a leading sign from a text; the first part tells whether it is a minus. -/
def splitSign : List Char → Bool × List Char
  | '-' :: rest => (true, rest)
  | '+' :: rest => (false, rest)
  | text => (false, text)

def applySign (negative : Bool) (magnitude : Nat) : Int :=
  if negative then -(magnitude : Int) else magnitude

def maxIntegerDigits : Nat := 4300

inductive IntegerError where
  | malformed
  | tooManyDigits (count : Nat)
  deriving DecidableEq

def tooManyDigitsMessage (count : Nat) : String :=
  "Exceeds the limit (4300 digits) for integer string conversion: value has " ++ toString count ++
    " digits; use sys.set_int_max_str_digits() to increase the limit"

/-- The digits at the beginning of a text, and what follows the run of digits and underscores.
There are none when the underscores of the run do not each stand between digits. -/
def leadingDigits (value? : Char → Option Nat) (text : List Char) :
    Option (List Nat) × List Char :=
  let belongs (c : Char) : Bool := c = '_' || (value? c).isSome
  (digitRun? value? (text.takeWhile belongs), text.dropWhile belongs)

/-- Reads an integer in decimal. Too many digits are noticed before what follows them is. -/
def readInteger (text : List Char) : Except IntegerError Int :=
  let (negative, body) := splitSign (text.dropWhile isWhiteSpace)
  match leadingDigits digitValue? body with
  | (none, _) => .error .malformed
  | (some digits, rest) =>
    if maxIntegerDigits < digits.length then .error (.tooManyDigits digits.length)
    else if rest.all isWhiteSpace then .ok (applySign negative (natOfDigits 10 digits))
    else .error .malformed

/-- A decimal digit of any script in ASCII, any other character as it is. -/
def plainDigit (c : Char) : Char :=
  match digitValue? c with
  | some value => hexDigit value
  | none => c

def dropBaseMark : List Char → List Char
  | '0' :: mark :: rest =>
    if mark = 'x' || mark = 'X' then
      match rest with
      | '_' :: digits => digits
      | _ => rest
    else '0' :: mark :: rest
  | text => text

def readHexadecimal? (text : List Char) : Option Int :=
  let (negative, body) := splitSign ((text.map plainDigit).dropWhile isWhiteSpace)
  match leadingDigits hexDigit? (dropBaseMark body) with
  | (some digits, rest) =>
    if rest.all isWhiteSpace then some (applySign negative (natOfDigits 16 digits)) else none
  | (none, _) => none

/-- The words for numbers that are not finite, in lower case. -/
def specialDouble? (negative : Bool) (body : List Char) : Option Double :=
  let word := String.ofList (body.map fun c => if c.isUpper then c.toLower else c)
  if word == "inf" || word == "infinity" then some (.infinite negative)
  else if word == "nan" then some .nan
  else none

def digitRunOrEmpty? (text : List Char) : Option (List Nat) :=
  if text.isEmpty then some [] else digitRun? digitValue? text

def readMantissa? (text : List Char) : Option (List Nat × Nat) :=
  match cutFirst? '.' text with
  | none => (digitRun? digitValue? text).map fun digits => (digits, 0)
  | some (whole, fraction) => do
    if whole.isEmpty && fraction.isEmpty then none
    else
      let before ← digitRunOrEmpty? whole
      let after ← digitRunOrEmpty? fraction
      return (before ++ after, after.length)

def readExponent? (text : List Char) : Option Int := do
  let (negative, body) := splitSign text
  let digits ← digitRun? digitValue? body
  return applySign negative (natOfDigits 10 digits)

def readDouble? (text : List Char) : Option Double :=
  let (negative, body) := splitSign (trimBy isWhiteSpace text)
  match specialDouble? negative body with
  | some value => some value
  | none =>
    let lowered := body.map fun c => if c = 'E' then 'e' else c
    match cutFirst? 'e' lowered with
    | none => do
      let (digits, places) ← readMantissa? lowered
      return Double.ofDecimal negative (natOfDigits 10 digits) (-(places : Int))
    | some (mantissa, exponent) => do
      let (digits, places) ← readMantissa? mantissa
      let power ← readExponent? exponent
      return Double.ofDecimal negative (natOfDigits 10 digits) (power - places)

def minInt64 : Int := -9223372036854775808
def maxInt64 : Int := 9223372036854775807

def fitsInt64 (number : Int) : Bool :=
  minInt64 ≤ number && number ≤ maxInt64

end Roster
