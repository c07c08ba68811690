import Roster.Payload.Problem
import Roster.Json.Value
import Roster.Number.Reading

/-!
# Texts and integers of a payload

A text field takes texts only. An integer field also takes truth values, numbers without a
fractional part, and texts that spell an integer. A text is first read as it is, as a minus sign
and digits. Failing that it is tidied and read again: white space, a plus sign, zeros in front, a
fraction of zeros and underscores between digits do not count. Only the first reading tells a
number that is too long from a text that spells none.
-/

namespace Roster.Payload

def checkText : Json → Checked LooseText
  | .text value => .ok value
  | _ => .fail .notText

def checkString (value : Json) : Checked String := do
  match (← checkText value).encode with
  | .ok plain => return plain
  | .error _ => .fail .brokenText

/-- Reads an optional minus sign and digits, of which the first is no zero unless it is the only
one. Too many digits are noticed before what follows them is. -/
def readPlain (text : List Char) : Except Cause Int :=
  let (negative, body) :=
    match text with
    | '-' :: rest => (true, rest)
    | _ => (false, text)
  let run := body.takeWhile Char.isDigit
  if run.isEmpty || (run.head? = some '0' && run ≠ ['0']) then .error .unreadableInteger
  else if maxIntegerDigits < run.length then .error .integerTooLong
  else if run.length < body.length then .error .unreadableInteger
  else .ok (applySign negative (natOfDigits 10 (run.map fun c => c.toNat - 0x30)))

/-- What is left after zeros and underscores in front. `last` is the last one dropped; it is put
back when no digit follows. A minus sign may follow instead of a digit. -/
def afterZeros? (last : Char) : List Char → Option (List Char)
  | [] => some [last]
  | c :: rest =>
    if c = '0' || c = '_' then afterZeros? c rest
    else if c.isDigit || c = '-' then some (c :: rest)
    else if c = '.' then some (last :: c :: rest)
    else none

/-- The text without zeros in front; it has to start with a digit. -/
def dropZeros? : List Char → Option (List Char)
  | [] => none
  | c :: rest =>
    if c = '0' then afterZeros? c rest
    else if c.isDigit then some (c :: rest)
    else none

def dropZeroFraction (text : List Char) : List Char :=
  match cutFirst? '.' text with
  | some (whole, fraction) =>
    if !fraction.isEmpty && fraction.all (· = '0') then whole else text
  | none => text

/-- Drops underscores if each of them stands between other characters. -/
def dropUnderscores (text : List Char) : List Char :=
  if (pieces '_' text).all (!·.isEmpty) then text.filter (· ≠ '_') else text

def tidied? (text : List Char) : Option (List Char) :=
  let (negative, body) := splitSign (trimBy isWhiteSpace text)
  (dropZeros? body).map fun digits =>
    let plain := dropUnderscores (dropZeroFraction digits)
    if negative then '-' :: plain else plain

def integerOfText (text : List Char) : Checked Int :=
  match readPlain text with
  | .ok number => .ok number
  | .error .unreadableInteger =>
    match (tidied? text).map readPlain with
    | some (.ok number) => .ok number
    | _ => .fail .unreadableInteger
  | .error cause => .fail cause

/-- The integer that a double of a payload equals. It must not reach the bounds of 64 bits. -/
def integerOfDouble (value : Double) : Checked Int :=
  match value with
  | .finite .. =>
    match value.toInt? with
    | none => .fail .fractionalNumber
    | some number =>
      if minInt64 < number ∧ number ≤ maxInt64 then .ok number else .fail .integerTooLong
  | _ => .fail .infiniteNumber

def checkInteger : Json → Checked Int
  | .int value => .ok value
  | .bool value => .ok (if value then 1 else 0)
  | .real value => integerOfDouble value
  | .text value =>
    match value.chars? with
    | some chars => integerOfText chars
    | none => .fail .brokenText
  | _ => .fail .notInteger

def checkOptional {α : Type} (check : Json → Checked α) : Json → Checked (Option α)
  | .null => .ok none
  | value => (check value).map some

def required {α : Type} (fields : Json.Fields) (name : String)
    (check : Json → Checked α) : Checked α :=
  Checked.under name <|
    match Json.lastField? name fields with
    | some value => check value
    | none => .fail .missing

def withDefault {α : Type} (fields : Json.Fields) (name : String) (default : α)
    (check : Json → Checked α) : Checked α :=
  match Json.lastField? name fields with
  | some value => Checked.under name (check value)
  | none => .ok default

end Roster.Payload
