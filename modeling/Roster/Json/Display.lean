import Roster.Json.Value
import Roster.Number.Decimal
import Roster.Text.Quoted

/-!
# Values in messages

A message that refuses a value shows the value and the word for its kind. An object shows every
name once: the first field of the name gives the place and the last one the value. A long text is
cut in the middle.
-/

namespace Roster.Json

/-- The entries of an object, each name once. -/
def settle (entries : List (LooseText × String)) : List (LooseText × String) :=
  entries.foldl (fun settled (name, shown) =>
    if settled.any (·.1 = name) then
      settled.map fun entry => if entry.1 = name then (name, shown) else entry
    else settled ++ [(name, shown)]) []

mutual

def display : Json → String
  | .null => "None"
  | .bool value => if value then "True" else "False"
  | .int value => intText value
  | .real value => value.text
  | .text value => Quoted.quote value
  | .list items => "[" ++ String.intercalate ", " (displayItems items) ++ "]"
  | .object fields =>
    let entries := (settle (displayFields fields)).map fun (name, shown) =>
      Quoted.quote name ++ ": " ++ shown
    "\x7b" ++ String.intercalate ", " entries ++ "\x7d"

def displayItems : List Json → List String
  | [] => []
  | item :: rest => display item :: displayItems rest

def displayFields : List (LooseText × Json) → List (LooseText × String)
  | [] => []
  | (name, value) :: rest => (name, display value) :: displayFields rest

end

def kindWord : Json → String
  | .null => "NoneType"
  | .bool _ => "bool"
  | .int _ => "int"
  | .real _ => "float"
  | .text _ => "str"
  | .list _ => "list"
  | .object _ => "dict"

/-- The longest beginning of a text that takes at most so many bytes. -/
def fitting : (room : Nat) → List Char → List Char
  | _, [] => []
  | room, c :: rest =>
    if c.utf8Size ≤ room then c :: fitting (room - c.utf8Size) rest else []

def shownSize : Nat := 50

def shorten (text : String) : String :=
  if text.utf8ByteSize ≤ shownSize then text
  else
    let tail := (fitting (shownSize / 2 - 1) text.toList.reverse).reverse
    String.ofList (fitting (shownSize / 2) text.toList ++ "...".toList ++ tail)

end Roster.Json
