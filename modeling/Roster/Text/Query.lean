import Roster.Text.Pieces
import Roster.Text.Utf8
import Roster.Text.Digit

/-!
# Percent-encoding and query texts

A query text is a list of pairs joined by `&`. In names and values a plus sign is a space and
`%XX` is a byte of UTF-8; a percent sign that no two hexadecimal digits follow stands for itself.
-/

namespace Roster

def percentBytes : List Char → Bytes
  | [] => []
  | '%' :: high :: low :: rest =>
    match hexDigit? high, hexDigit? low with
    | some h, some l => UInt8.ofNat (h * 16 + l) :: percentBytes rest
    | _, _ => utf8 "%" ++ percentBytes (high :: low :: rest)
  | c :: rest => utf8 (String.singleton c) ++ percentBytes rest
termination_by text => text.length

def percentDecode (text : List Char) : String :=
  readUtf8Lenient (percentBytes text)

namespace Query

def decodePart (text : List Char) : String :=
  percentDecode (text.map fun c => if c = '+' then ' ' else c)

/-- The pair that one piece of a query holds; without an equals sign the value is empty. -/
def decodePair (piece : List Char) : String × String :=
  match cutFirst? '=' piece with
  | some (name, value) => (decodePart name, decodePart value)
  | none => (decodePart piece, "")

/-- The pairs of a query text, in order. Empty pieces are no pairs. -/
def decode (text : String) : List (String × String) :=
  ((pieces '&' text.toList).filter (!·.isEmpty)).map decodePair

def first? (pairs : List (String × String)) (name : String) : Option String :=
  (pairs.find? (·.1 == name)).map (·.2)

end Query

def percentDigit (value : Nat) : Char :=
  "0123456789ABCDEF".toList.getD value '0'

/-- Percent-encodes the bytes of all but some ASCII characters. -/
def percentEncode (keep : Char → Bool) (text : String) : String :=
  String.ofList <| (utf8 text).flatMap fun byte =>
    let c := Char.ofNat byte.toNat
    if byte < 0x80 && keep c then [c]
    else ['%', percentDigit (byte.toNat / 16), percentDigit (byte.toNat % 16)]

end Roster
