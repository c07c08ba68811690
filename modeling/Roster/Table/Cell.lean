import Roster.Number.Decimal
import Roster.Number.Numeral

/-!
# Cells

A cell is what a row holds in a column: nothing, an integer of 64 bits, a real number or a text.
A comparison with an empty cell has no answer; when rows are sorted, empty cells come first.
-/

namespace Roster

inductive Cell where
  | null
  | int (value : Int)
  | real (value : Double)
  | text (value : String)
  deriving DecidableEq, Inhabited

namespace Cell

/-- A number that is not a number is stored as nothing. -/
def ofDouble : Double → Cell
  | .nan => .null
  | value => .real value

def ofText? : Option String → Cell
  | some value => .text value
  | none => .null

def ofBool (value : Bool) : Cell :=
  .int (if value then 1 else 0)

def asDouble (value : Int) : Double :=
  .finite (value < 0) value.natAbs 0

/-- Compares two cells; numbers come before texts, and an empty cell compares with nothing. -/
def compare? : Cell → Cell → Option Ordering
  | .null, _ | _, .null => none
  | .int a, .int b => some (compare a b)
  | .int a, .real b => (asDouble a).compare? b
  | .real a, .int b => a.compare? (asDouble b)
  | .real a, .real b => a.compare? b
  | .text a, .text b => some (compare a b)
  | .text _, _ => some .gt
  | _, .text _ => some .lt

/-- Do two cells hold the same value? An empty cell is the same as nothing. -/
def same (a b : Cell) : Bool :=
  a.compare? b = some .eq

def isNull : Cell → Bool
  | .null => true
  | _ => false

def asText? : Cell → Option String
  | .text value => some value
  | _ => none

def asInt? : Cell → Option Int
  | .int value => some value
  | _ => none

def order (a b : Cell) : Ordering :=
  match a.isNull, b.isNull with
  | true, true => .eq
  | true, false => .lt
  | false, true => .gt
  | false, false => (a.compare? b).getD .eq

/-- The text that patterns and lower-casing see. -/
def text? : Cell → Option String
  | .null => none
  | .int value => some (intText value)
  | .real value => some value.patternText
  | .text value => some value

def differs (a b : Cell) : Bool :=
  !(a.isNull && b.isNull) && !a.same b

/-- A numeral as a number. One without a point and an exponent is an integer if that fits. -/
def ofNumeral : Cell → Cell
  | .text value =>
    match Numeral.read? value.toList with
    | some numeral =>
      if numeral.isWhole && fitsInt64 numeral.integer then .int numeral.integer
      else .real numeral.double
    | none => .text value
  | cell => cell

def whole : Cell → Cell
  | .real value =>
    match value.toInt? with
    | some number =>
      if minInt64 < number ∧ number < maxInt64 then .int number else .real value
    | none => .real value
  | cell => cell

def unsignedZero : Cell → Cell
  | .real (.finite _ 0 _) => .real (.zero false)
  | cell => cell

/-- Can the cell be stored, and be compared with what is stored? -/
def isStorable : Cell → Bool
  | .int value => fitsInt64 value
  | _ => true

end Cell

end Roster
