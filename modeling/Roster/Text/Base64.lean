import Roster.Text.Utf8

/-!
# Base64

Bytes are written in groups of six bits, most significant first, with no padding. The strict
reading accepts exactly what writing produces, with or without the padding that completes the
last group of four. The tolerant reading skips foreign characters, stops at padding that completes
a group, and ignores left-over bits.
-/

namespace Roster.Base64

/-- The characters for 62 and 63; those below are the letters and digits. -/
structure Alphabet where
  char62 : Char
  char63 : Char

def standard : Alphabet := ⟨'+', '/'⟩

def urlSafe : Alphabet := ⟨'-', '_'⟩

def dotted : Alphabet := ⟨'.', '/'⟩

def Alphabet.char (alphabet : Alphabet) (value : Nat) : Char :=
  if value < 26 then Char.ofNat (value + 0x41)
  else if value < 52 then Char.ofNat (value - 26 + 0x61)
  else if value < 62 then Char.ofNat (value - 52 + 0x30)
  else if value = 62 then alphabet.char62
  else alphabet.char63

def Alphabet.value? (alphabet : Alphabet) (c : Char) : Option Nat :=
  if 'A' ≤ c ∧ c ≤ 'Z' then some (c.toNat - 0x41)
  else if 'a' ≤ c ∧ c ≤ 'z' then some (c.toNat - 0x61 + 26)
  else if '0' ≤ c ∧ c ≤ '9' then some (c.toNat - 0x30 + 52)
  else if c = alphabet.char62 then some 62
  else if c = alphabet.char63 then some 63
  else none

/-- Bytes cut into groups of six bits; a last group is filled up with zero bits. -/
def sextets : Bytes → List Nat
  | a :: b :: c :: rest =>
    a.toNat / 4 :: (a.toNat % 4 * 16 + b.toNat / 16) :: (b.toNat % 16 * 4 + c.toNat / 64) ::
      c.toNat % 64 :: sextets rest
  | [a, b] => [a.toNat / 4, a.toNat % 4 * 16 + b.toNat / 16, b.toNat % 16 * 4]
  | [a] => [a.toNat / 4, a.toNat % 4 * 16]
  | [] => []

/-- Groups of six bits joined to bytes; left-over bits are dropped. -/
def bytesOfSextets : List Nat → Bytes
  | w :: x :: y :: z :: rest =>
    UInt8.ofNat (w * 4 + x / 16) :: UInt8.ofNat (x % 16 * 16 + y / 4) ::
      UInt8.ofNat (y % 4 * 64 + z) :: bytesOfSextets rest
  | [w, x, y] => [UInt8.ofNat (w * 4 + x / 16), UInt8.ofNat (x % 16 * 16 + y / 4)]
  | [w, x] => [UInt8.ofNat (w * 4 + x / 16)]
  | _ => []

def encode (alphabet : Alphabet) (bytes : Bytes) : List Char :=
  (sextets bytes).map alphabet.char

/-- Padding is absent or completes the last group of four. -/
def paddingFits (characters padding : Nat) : Bool :=
  padding == 0 || (characters % 4 == 2 && padding == 2) || (characters % 4 == 3 && padding == 1)

def decode? (alphabet : Alphabet) (text : List Char) : Option Bytes := do
  let body := text.takeWhile (· ≠ '=')
  let padding := text.dropWhile (· ≠ '=')
  if padding.all (· = '=') && paddingFits body.length padding.length then
    let values ← body.mapM alphabet.value?
    let bytes := bytesOfSextets values
    if sextets bytes = values then some bytes else none
  else none

inductive DecodeError where
  /-- One character is left over; the field counts the characters that carry data. -/
  | loneCharacter (count : Nat)
  | incompletePadding
  deriving DecidableEq

def DecodeError.message : DecodeError → String
  | .loneCharacter count =>
    "Invalid base64-encoded string: number of data characters (" ++ toString count ++
      ") cannot be 1 more than a multiple of 4"
  | .incompletePadding => "Incorrect padding"

/-- Collects the values of a text, newest first; `pads` counts the padding since the last one. -/
def collect (alphabet : Alphabet) (values : List Nat) (pads : Nat) :
    List Char → Except DecodeError (List Nat)
  | [] =>
    match values.length % 4 with
    | 0 => .ok values.reverse
    | 1 => .error (.loneCharacter values.length)
    | _ => .error .incompletePadding
  | c :: rest =>
    if c = '=' then
      if 2 ≤ values.length % 4 then
        if 4 ≤ values.length % 4 + pads + 1 then .ok values.reverse
        else collect alphabet values (pads + 1) rest
      else collect alphabet values pads rest
    else
      match alphabet.value? c with
      | some value => collect alphabet (value :: values) 0 rest
      | none => collect alphabet values pads rest

def decodeTolerant (alphabet : Alphabet) (text : List Char) : Except DecodeError Bytes :=
  (collect alphabet [] 0 text).map bytesOfSextets

theorem bytesOfSextets_sextets (bytes : Bytes) : bytesOfSextets (sextets bytes) = bytes := by
  fun_induction sextets bytes with
  | case1 a b c rest ih =>
    have ha := a.toNat_lt
    have hb := b.toNat_lt
    have hc := c.toNat_lt
    simp only [bytesOfSextets, ih]
    congr 1
    · rw [show a.toNat / 4 * 4 + (a.toNat % 4 * 16 + b.toNat / 16) / 16 = a.toNat by omega]
      simp
    congr 1
    · rw [show (a.toNat % 4 * 16 + b.toNat / 16) % 16 * 16 +
        (b.toNat % 16 * 4 + c.toNat / 64) / 4 = b.toNat by omega]
      simp
    congr 1
    · rw [show (b.toNat % 16 * 4 + c.toNat / 64) % 4 * 64 + c.toNat % 64 = c.toNat by omega]
      simp
  | case2 a b =>
    have ha := a.toNat_lt
    have hb := b.toNat_lt
    simp only [bytesOfSextets]
    rw [show a.toNat / 4 * 4 + (a.toNat % 4 * 16 + b.toNat / 16) / 16 = a.toNat by omega,
      show (a.toNat % 4 * 16 + b.toNat / 16) % 16 * 16 + b.toNat % 16 * 4 / 4 = b.toNat by omega]
    simp
  | case3 a =>
    have ha := a.toNat_lt
    simp only [bytesOfSextets]
    rw [show a.toNat / 4 * 4 + a.toNat % 4 * 16 / 16 = a.toNat by omega]
    simp
  | case4 => rfl

end Roster.Base64
