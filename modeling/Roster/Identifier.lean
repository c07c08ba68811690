import Roster.Number.Reading

/-!
# Identifiers

Rows are identified by texts. The service gives out identifiers in the usual hyphenated form, but
accepts every spelling of a 128-bit number: with or without hyphens, in braces, with a `urn:uuid:`
in front, in either letter case.
-/

namespace Roster.Identifier

/-- Removes the occurrences of a pattern, left to right; `skip` characters still belong to one. -/
def eraseFrom (pattern : List Char) : Nat → List Char → List Char
  | _, [] => []
  | 0, c :: rest =>
    if pattern.isPrefixOf (c :: rest) then eraseFrom pattern (pattern.length - 1) rest
    else c :: eraseFrom pattern 0 rest
  | skip + 1, _ :: rest => eraseFrom pattern skip rest

def erase (pattern : String) (text : List Char) : List Char :=
  eraseFrom pattern.toList 0 text

def bare (text : String) : List Char :=
  let plain := erase "uuid:" (erase "urn:" text.toList)
  (trimBy (fun c => c = '\x7b' || c = '\x7d') plain).filter (· ≠ '-')

def denotes? (text : String) : Option Nat :=
  if (bare text).length = 32 then
    match readHexadecimal? (bare text) with
    | some number => if 0 ≤ number then some number.toNat else none
    | none => none
  else none

def isSpelling (text : String) : Bool :=
  (denotes? text).isSome

def padded (width number : Nat) : String :=
  let digits := natText number
  String.ofList (List.replicate (width - digits.length) '0' ++ digits)

/-- The identifier that the service gives out as its `n`-th. -/
def generated (n : Nat) : String :=
  "00000000-0000-4000-8000-" ++ padded 12 n

end Roster.Identifier
