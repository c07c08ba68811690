import Roster.Number.Reading

/-!
# What is wrong with a list request

A list request names a page, a sort key and filters. Each of its texts can be refused for a cause
listed here.
-/

namespace Roster.Listing

inductive Error where
  /-- A parameter, a token, an operator, a column or a value is not acceptable. -/
  | invalid (name : String)
  | notInteger (parameter raw : String)
  | tooManyDigits (count : Nat)
  deriving DecidableEq

def Error.message : Error → String
  | .invalid name => "invalid " ++ name ++ " parameter"
  | .notInteger parameter raw =>
    "invalid " ++ parameter ++ " parameter: \"" ++ raw ++ "\" is not an integer"
  | .tooManyDigits count => tooManyDigitsMessage count

/-- The faults that are reported as a bad query. A text with too many digits is no such fault. -/
def Error.isQueryFault : Error → Bool
  | .tooManyDigits _ => false
  | _ => true

def isWord (c : Char) : Bool :=
  c.isAlphanum || c = '_'

end Roster.Listing
