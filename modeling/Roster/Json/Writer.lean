import Roster.Json.Value
import Roster.Number.Decimal

/-!
# Writing JSON

Documents are written in three styles, which differ in the blanks after commas and colons and in
whether characters outside ASCII are escaped. Where they are, so are surrogates, and the outcome
holds characters only; where they are not, surrogates are written as they are.
-/

namespace Roster.Json

structure Style where
  comma : LooseText
  colon : LooseText
  asciiOnly : Bool

/-- No blanks, ASCII only: the parts of a token. -/
def tokenStyle : Style := ⟨",", ":", true⟩

/-- No blanks: events and answers. -/
def plainStyle : Style := ⟨",", ":", false⟩

/-- Blanks, ASCII only: log lines. -/
def logStyle : Style := ⟨", ", ": ", true⟩

def unitEscape (code : Nat) : List Char :=
  '\\' :: 'u' :: hexadecimal 4 code

/-- The escape of a code point, as a pair of surrogates beyond the first plane. -/
def unicodeEscape (code : Nat) : List Char :=
  if code < 0x10000 then unitEscape code
  else
    unitEscape (0xD800 + (code - 0x10000) / 0x400) ++
      unitEscape (0xDC00 + (code - 0x10000) % 0x400)

def escapeChar (asciiOnly : Bool) (c : Char) : List Char :=
  if c = '"' then ['\\', '"']
  else if c = '\\' then ['\\', '\\']
  else if c = '\n' then ['\\', 'n']
  else if c = '\r' then ['\\', 'r']
  else if c = '\t' then ['\\', 't']
  else if c = '\x08' then ['\\', 'b']
  else if c = '\x0c' then ['\\', 'f']
  else if c.toNat < 0x20 then unicodeEscape c.toNat
  else if asciiOnly && 0x7E < c.toNat then unicodeEscape c.toNat
  else [c]

def escape (asciiOnly : Bool) : CodePoint → LooseText
  | .char c => LooseText.ofChars (escapeChar asciiOnly c)
  | point => if asciiOnly then LooseText.ofChars (unicodeEscape point.code) else [point]

def writeText (asciiOnly : Bool) (text : LooseText) : LooseText :=
  .char '"' :: (text.flatMap (escape asciiOnly) ++ [.char '"'])

def writeDouble : Double → String
  | .nan => "NaN"
  | .infinite negative => if negative then "-Infinity" else "Infinity"
  | value => value.text

mutual

def write (style : Style) : Json → LooseText
  | .null => "null"
  | .bool value => if value then "true" else "false"
  | .int value => intText value
  | .real value => writeDouble value
  | .text value => writeText style.asciiOnly value
  | .list items => .char '[' :: (writeItems style items ++ [.char ']'])
  | .object fields => .char '\x7b' :: (writeFields style fields ++ [.char '\x7d'])

def writeItems (style : Style) : List Json → LooseText
  | [] => []
  | [item] => write style item
  | item :: next :: rest => write style item ++ style.comma ++ writeItems style (next :: rest)

def writeFields (style : Style) : List (LooseText × Json) → LooseText
  | [] => []
  | [(name, value)] => writeText style.asciiOnly name ++ style.colon ++ write style value
  | (name, value) :: next :: rest =>
    writeText style.asciiOnly name ++ style.colon ++ write style value ++ style.comma ++
      writeFields style (next :: rest)

end

end Roster.Json
