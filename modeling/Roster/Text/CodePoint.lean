import Roster.Text.Digit

/-!
# Code points

An escape in a document can spell half of a surrogate pair. Such a code point is no character, so a
text that comes from a document is loose: a list of code points. It can be stored, hashed and sent
only when it can be encoded, which is when all its code points are characters. Main statements:
`LooseText.encode_eq_ok_iff` and `LooseText.encode_eq_error_iff`.
-/

namespace Roster

def isHighSurrogate (code : Nat) : Bool :=
  0xD800 ≤ code && code < 0xDC00

def isLowSurrogate (code : Nat) : Bool :=
  0xDC00 ≤ code && code < 0xE000

def replacementChar : Char := Char.ofNat 0xFFFD

inductive CodePoint where
  | char (c : Char)
  /-- The surrogate at a distance from U+D800. -/
  | surrogate (distance : Fin 0x800)
  deriving DecidableEq

namespace CodePoint

def code : CodePoint → Nat
  | .char c => c.toNat
  | .surrogate distance => 0xD800 + distance.val

def ofNat (code : Nat) : CodePoint :=
  if h : 0xD800 ≤ code ∧ code < 0xE000 then .surrogate ⟨code - 0xD800, by omega⟩
  else .char (Char.ofNat code)

def char? : CodePoint → Option Char
  | .char c => some c
  | .surrogate _ => none

def isChar : CodePoint → Bool
  | .char _ => true
  | .surrogate _ => false

def ofPair (high low : Nat) : CodePoint :=
  .char (Char.ofNat (0x10000 + (high - 0xD800) * 0x400 + (low - 0xDC00)))

end CodePoint

abbrev LooseText := List CodePoint

/-- Where a text cannot be encoded: at a run of surrogates. -/
structure Unencodable where
  position : Nat
  count : Nat
  code : Nat
  deriving DecidableEq

def Unencodable.message (fault : Unencodable) : String :=
  let place :=
    if fault.count ≤ 1 then
      "character '\\u" ++ String.ofList (hexadecimal 4 fault.code) ++ "' in position " ++
        toString fault.position
    else
      "characters in position " ++ toString fault.position ++ "-" ++
        toString (fault.position + fault.count - 1)
  "'utf-8' codec can't encode " ++ place ++ ": surrogates not allowed"

namespace LooseText

def ofChars (text : List Char) : LooseText :=
  text.map .char

def ofString (text : String) : LooseText :=
  ofChars text.toList

instance : Coe String LooseText := ⟨ofString⟩

def chars? : LooseText → Option (List Char)
  | [] => some []
  | .char c :: rest => (chars? rest).map (c :: ·)
  | .surrogate _ :: _ => none

/-- The text with U+FFFD in the place of every surrogate. -/
def replaced (text : LooseText) : List Char :=
  text.map fun point => point.char?.getD replacementChar

def firstRun (text : LooseText) : Unencodable :=
  let rest := text.dropWhile CodePoint.isChar
  { position := (text.takeWhile CodePoint.isChar).length
    count := (rest.takeWhile (!·.isChar)).length
    code := (rest.head?.map CodePoint.code).getD 0 }

def encode (text : LooseText) : Except Unencodable String :=
  match text.chars? with
  | some chars => .ok (String.ofList chars)
  | none => .error text.firstRun

theorem chars?_ofChars (text : List Char) : chars? (ofChars text) = some text := by
  induction text with
  | nil => rfl
  | cons c rest ih =>
    show (chars? (ofChars rest)).map (c :: ·) = some (c :: rest)
    rw [ih]
    rfl

theorem eq_ofChars_of_chars? {text : LooseText} {chars : List Char}
    (h : chars? text = some chars) : text = ofChars chars := by
  induction text generalizing chars with
  | nil =>
    cases h
    rfl
  | cons point rest ih =>
    cases point with
    | char c =>
      obtain ⟨others, hothers, rfl⟩ := Option.map_eq_some_iff.1 h
      rw [ih hothers]
      rfl
    | surrogate distance => cases h

theorem isChar_of_mem_ofChars {text : List Char} :
    ∀ point ∈ ofChars text, point.isChar = true := by
  intro point hpoint
  obtain ⟨c, _, rfl⟩ := List.mem_map.mp hpoint
  rfl

theorem ofChars_replaced {text : LooseText} (hchars : ∀ point ∈ text, point.isChar = true) :
    ofChars text.replaced = text := by
  induction text with
  | nil => rfl
  | cons point rest ih =>
    have hrest := ih fun other hother => hchars other (List.mem_cons_of_mem point hother)
    cases point with
    | char c =>
      show CodePoint.char c :: ofChars (replaced rest) = .char c :: rest
      rw [hrest]
    | surrogate distance =>
      have hpoint := hchars (.surrogate distance) List.mem_cons_self
      cases hpoint

theorem isEmpty_ofString {text : String} : (ofString text).isEmpty = true ↔ text = "" := by
  rw [ofString, ofChars, List.isEmpty_iff, List.map_eq_nil_iff, String.toList_eq_nil_iff]

theorem encode_ofString (text : String) : encode (ofString text) = .ok text := by
  simp [encode, ofString, chars?_ofChars]

theorem ofString_inj {first second : String} :
    ofString first = ofString second ↔ first = second := by
  constructor
  · intro h
    have hencode := encode_ofString first
    rw [h, encode_ofString] at hencode
    exact (Except.ok.inj hencode).symm
  · rintro rfl
    rfl

/-- Exactly the texts of characters can be encoded. -/
theorem encode_eq_ok_iff {text : LooseText} {plain : String} :
    encode text = .ok plain ↔ text = ofString plain := by
  constructor
  · intro h
    unfold encode at h
    split at h
    · next chars hchars =>
      cases h
      rw [eq_ofChars_of_chars? hchars]
      simp [ofString]
    · cases h
  · rintro rfl
    exact encode_ofString plain

theorem firstRun_of_encode {text : LooseText} {fault : Unencodable}
    (h : encode text = .error fault) : text.firstRun = fault := by
  unfold encode at h
  split at h
  · cases h
  · exact Except.error.inj h

theorem encode_eq_error_iff {text : LooseText} {fault : Unencodable} :
    encode text = .error fault ↔ (∀ plain, text ≠ ofString plain) ∧ text.firstRun = fault := by
  constructor
  · intro h
    refine ⟨?_, firstRun_of_encode h⟩
    intro plain hplain
    rw [encode_eq_ok_iff.mpr hplain] at h
    cases h
  · rintro ⟨hnoPlain, rfl⟩
    cases h : encode text with
    | ok plain => exact absurd (encode_eq_ok_iff.mp h) (hnoPlain plain)
    | error fault => rw [firstRun_of_encode h]

end LooseText

end Roster
