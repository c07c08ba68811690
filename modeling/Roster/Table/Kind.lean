import Roster.Table.Cell
import Roster.Table.Error
import Roster.Text.Lower

/-!
# Kinds of columns

What a column holds decides how values enter it. The value of a filter is a text, which is read as
a value of the kind or refused. A value that is assigned is converted as far as possible: a column
of texts takes numbers as texts, and a column of numbers takes numerals as numbers. A value that is
looked for is converted in the same way.
-/

namespace Roster

inductive Kind where
  | text
  | integer
  | real
  | truth
  deriving DecidableEq

namespace Kind

def trueWords : List String := ["1", "true", "yes", "y"]
def falseWords : List String := ["0", "false", "no", "n"]

def word (value : String) : String :=
  lower (String.ofList (trim value.toList))

def read (kind : Kind) (value : String) : Except StoreError Cell :=
  match kind with
  | .text => .ok (.text value)
  | .integer =>
    match readInteger (trim value.toList) with
    | .ok number => if fitsInt64 number then .ok (.int number) else .error (.invalid value)
    | .error _ => .error (.invalid value)
  | .real =>
    match readDouble? (trim value.toList) with
    | some number => .ok (Cell.ofDouble number)
    | none => .error (.invalid value)
  | .truth =>
    if trueWords.contains (word value) then .ok (Cell.ofBool true)
    else if falseWords.contains (word value) then .ok (Cell.ofBool false)
    else .error (.invalid value)

def truthCell (kind : Kind) (value : Bool) : Cell :=
  match kind with
  | .text => .text (if value then "1" else "0")
  | _ => Cell.ofBool value

def compared (kind : Kind) (value : Cell) : Cell :=
  match kind with
  | .text => (value.text?.map .text).getD .null
  | .integer | .real | .truth => value.ofNumeral

/-- A value that is assigned as a statement takes it. Real numbers are converted, truth values are
checked, and all else is left to the column. -/
def prepared (kind : Kind) (value : Cell) : Except StoreError Cell :=
  match kind, value with
  | .real, .int number =>
    match Double.ofQuotient (number < 0) number.natAbs 1 with
    | .infinite _ => .error .database
    | double => .ok (.real double)
  | .real, .text spelling =>
    match readDouble? spelling.toList with
    | some number => .ok (Cell.ofDouble number)
    | none => .error .database
  | .truth, .null => .ok .null
  | .truth, value =>
    if value.same (.ofBool true) then .ok (.ofBool true)
    else if value.same (.ofBool false) then .ok (.ofBool false)
    else .error .database
  | _, value => .ok value

def stored (kind : Kind) (value : Cell) : Cell :=
  match kind with
  | .text => kind.compared value
  | .real => value.unsignedZero
  | .integer | .truth => (kind.compared value).whole

end Kind

end Roster
