import Roster.Text.Utf8

/-!
# Encodings of a JSON document

A JSON document sent as bytes may be UTF-8, UTF-16 or UTF-32. A byte order mark tells, else the
places of the zero bytes among the first four. In every encoding surrogates without a partner are
taken as they are.
-/

namespace Roster

inductive Encoding where
  | utf8
  | utf16 (bigEndian : Bool)
  | utf32 (bigEndian : Bool)
  deriving DecidableEq

/-- The encoding of a document, and its bytes without the byte order mark. -/
def Encoding.detect (bytes : Bytes) : Encoding × Bytes :=
  match bytes with
  | 0x00 :: 0x00 :: 0xFE :: 0xFF :: rest => (.utf32 true, rest)
  | 0xFF :: 0xFE :: 0x00 :: 0x00 :: rest => (.utf32 false, rest)
  | 0xFE :: 0xFF :: rest => (.utf16 true, rest)
  | 0xFF :: 0xFE :: rest => (.utf16 false, rest)
  | 0xEF :: 0xBB :: 0xBF :: rest => (.utf8, rest)
  | a :: b :: c :: d :: _ =>
    if a == 0 then (if b == 0 then .utf32 true else .utf16 true, bytes)
    else if b == 0 then (if c == 0 && d == 0 then .utf32 false else .utf16 false, bytes)
    else (.utf8, bytes)
  | [a, b] =>
    if a == 0 then (.utf16 true, bytes)
    else if b == 0 then (.utf16 false, bytes)
    else (.utf8, bytes)
  | _ => (.utf8, bytes)

/-- Groups bytes into units of two; `none` when a byte is left over. -/
def units16? (bigEndian : Bool) : Bytes → Option (List Nat)
  | [] => some []
  | a :: b :: rest =>
    let value := if bigEndian then a.toNat * 0x100 + b.toNat else b.toNat * 0x100 + a.toNat
    (units16? bigEndian rest).map (value :: ·)
  | [_] => none

def units32? (bigEndian : Bool) : Bytes → Option (List Nat)
  | [] => some []
  | a :: b :: c :: d :: rest =>
    let digits := if bigEndian then [a, b, c, d] else [d, c, b, a]
    let value := digits.foldl (fun number digit => number * 0x100 + digit.toNat) 0
    (units32? bigEndian rest).map (value :: ·)
  | _ => none

/-- Reads UTF-16 units: a high surrogate and a low one next to it are one code point. -/
def joinUnits : List Nat → LooseText
  | high :: low :: rest =>
    if isHighSurrogate high && isLowSurrogate low then .ofPair high low :: joinUnits rest
    else .ofNat high :: joinUnits (low :: rest)
  | [unit] => [.ofNat unit]
  | [] => []

def decodeDocument? (bytes : Bytes) : Option LooseText :=
  match Encoding.detect bytes with
  | (.utf8, rest) => readUtf8Loose? rest
  | (.utf16 bigEndian, rest) => (units16? bigEndian rest).map joinUnits
  | (.utf32 bigEndian, rest) => do
    let units ← units32? bigEndian rest
    if units.all (· < 0x110000) then some (units.map .ofNat) else none

end Roster
