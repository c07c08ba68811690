import Roster.Text.CodePoint

/-!
# UTF-8

Texts as lists of bytes, and three readings of bytes as text. The strict one refuses ill-formed
input. The lenient one never fails: each maximal piece that cannot be continued to a character
becomes one U+FFFD. The loose one is strict but takes surrogates in the form of three bytes.
-/

namespace Roster

abbrev Bytes := List UInt8

def utf8 (text : String) : Bytes :=
  text.toUTF8.data.toList

def readUtf8? (bytes : Bytes) : Option String :=
  String.fromUTF8? ⟨bytes.toArray⟩

theorem readUtf8?_utf8 (text : String) : readUtf8? (utf8 text) = some text := by
  have h : (⟨text.toUTF8.data⟩ : ByteArray) = text.toByteArray := rfl
  have valid : text.toByteArray.IsValidUTF8 := text.isValidUTF8
  simp only [readUtf8?, utf8, Array.toArray_toList, h, String.fromUTF8?, valid, dite_true]
  rfl

namespace Utf8

/-- A code point of which some bytes are still to come. `low` and `high` bound the next byte. -/
structure Pending where
  missing : Nat
  low : UInt8
  high : UInt8
  code : Nat

/-- Bytes are read as code points, ill-formed pieces as nothing. -/
abbrev Pieces := List (Option CodePoint)

/-- What the first byte of a code point says of those that follow. `surrogates` tells whether the
form of a surrogate is well-formed. -/
def begin (surrogates : Bool) (byte : UInt8) : Pieces × Option Pending :=
  let code := byte.toNat
  if code < 0x80 then ([some (.ofNat code)], none)
  else if 0xC2 ≤ code ∧ code ≤ 0xDF then ([], some ⟨1, 0x80, 0xBF, code - 0xC0⟩)
  else if 0xE0 ≤ code ∧ code ≤ 0xEF then
    let low : UInt8 := if code = 0xE0 then 0xA0 else 0x80
    let high : UInt8 := if code = 0xED ∧ !surrogates then 0x9F else 0xBF
    ([], some ⟨2, low, high, code - 0xE0⟩)
  else if 0xF0 ≤ code ∧ code ≤ 0xF4 then
    let low : UInt8 := if code = 0xF0 then 0x90 else 0x80
    let high : UInt8 := if code = 0xF4 then 0x8F else 0xBF
    ([], some ⟨3, low, high, code - 0xF0⟩)
  else ([none], none)

/-- One more byte. A byte that cannot continue the pending code point starts a new one. -/
def feed (surrogates : Bool) (pending : Option Pending) (byte : UInt8) :
    Pieces × Option Pending :=
  match pending with
  | none => begin surrogates byte
  | some state =>
    if state.low ≤ byte ∧ byte ≤ state.high then
      let code := state.code * 0x40 + (byte.toNat - 0x80)
      if state.missing ≤ 1 then ([some (.ofNat code)], none)
      else ([], some ⟨state.missing - 1, 0x80, 0xBF, code⟩)
    else
      let (pieces, next) := begin surrogates byte
      (none :: pieces, next)

def readFrom (surrogates : Bool) (pending : Option Pending) : Bytes → Pieces
  | [] => if pending.isSome then [none] else []
  | byte :: rest =>
    let (pieces, next) := feed surrogates pending byte
    pieces ++ readFrom surrogates next rest

end Utf8

/-- Reads bytes as text, ill-formed pieces as U+FFFD. -/
def readUtf8Lenient (bytes : Bytes) : String :=
  String.ofList ((Utf8.readFrom false none bytes).map fun piece =>
    (piece.bind CodePoint.char?).getD replacementChar)

/-- Reads UTF-8 in which surrogates are well-formed. -/
def readUtf8Loose? (bytes : Bytes) : Option LooseText :=
  match readUtf8? bytes with
  | some text => some text
  | none => (Utf8.readFrom true none bytes).mapM id

theorem readUtf8Loose?_utf8 (text : String) :
    readUtf8Loose? (utf8 text) = some (LooseText.ofString text) := by
  simp [readUtf8Loose?, readUtf8?_utf8]

end Roster
