import Roster.Number.Double
import Roster.Text.CodePoint

/-!
# JSON values

Documents as data. Texts and names are loose, since an escape can spell any code point. An object
keeps all its fields in order, and of several fields with one name the last one counts.
-/

namespace Roster

inductive Json where
  | null
  | bool (value : Bool)
  | int (value : Int)
  | real (value : Double)
  | text (value : LooseText)
  | list (items : List Json)
  | object (fields : List (LooseText × Json))
  deriving Inhabited

namespace Json

abbrev Fields := List (LooseText × Json)

def lastField? (name : LooseText) : Fields → Option Json
  | [] => none
  | (key, value) :: rest =>
    match lastField? name rest with
    | some found => some found
    | none => if key = name then some value else none

def field? (value : Json) (name : LooseText) : Option Json :=
  match value with
  | .object fields => lastField? name fields
  | _ => none

/-- Null, false, zero and what is empty do not hold. -/
def holds : Json → Bool
  | .null => false
  | .bool value => value
  | .int value => value ≠ 0
  | .real (.finite _ significand _) => significand ≠ 0
  | .real _ => true
  | .text value => !value.isEmpty
  | .list items => !items.isEmpty
  | .object fields => !fields.isEmpty

end Json

end Roster
