import Roster.Json.Token
import Roster.Json.Writer
import Mathlib.Tactic

/-!
# Written texts are scanned back

A text is written between quotes with some of its characters escaped.  Scanning goes through it
character by character: the characters that are kept and the escapes with one letter give one
piece each, and the escapes by number give one or two units of UTF-16, which are joined to the
character again.  Surrogates are left out, since two of them side by side would be joined too.
-/

namespace Roster.Json

/-! ## Escapes by number -/

theorem hexDigit?_hexDigit : ∀ value < 16, hexDigit? (hexDigit value) = some value := by
  decide

theorem hexadecimal_four (code : Nat) :
    hexadecimal 4 code =
      [hexDigit (code / 16 / 16 / 16 % 16), hexDigit (code / 16 / 16 % 16),
        hexDigit (code / 16 % 16), hexDigit (code % 16)] := rfl

theorem hexUnit?_hexadecimal {code : Nat} (hcode : code < 0x10000) :
    hexUnit? (LooseText.ofChars (hexadecimal 4 code)) = some code := by
  have hthird := hexDigit?_hexDigit (code / 16 / 16 / 16 % 16) (by omega)
  have hsecond := hexDigit?_hexDigit (code / 16 / 16 % 16) (by omega)
  have hfirst := hexDigit?_hexDigit (code / 16 % 16) (by omega)
  have hlast := hexDigit?_hexDigit (code % 16) (by omega)
  rw [hexadecimal_four]
  simp only [LooseText.ofChars, hexUnit?, List.map_cons, List.map_nil, List.mapM_cons,
    List.mapM_nil, CodePoint.char?, Option.bind_some, hthird, hsecond, hfirst, hlast]
  simp only [Option.pure_def, Option.bind_eq_bind, Option.bind_some, Option.map_some,
    natOfDigits, List.foldl_cons, List.foldl_nil, Option.some.injEq]
  omega

theorem scanText_unitEscape
    {start width code : Nat} {seen : List Piece} {next : CodePoint} {rest : LooseText}
    (hcode : code < 0x10000) :
    scanText start seen width (LooseText.ofChars (unitEscape code) ++ next :: rest) =
      scanText start (.unit code :: seen) (width + 6) (next :: rest) := by
  have hunit := hexUnit?_hexadecimal hcode
  unfold unitEscape
  rw [hexadecimal_four] at hunit ⊢
  simp only [LooseText.ofChars, List.map_cons, List.map_nil, List.cons_append,
    List.nil_append] at hunit ⊢
  rw [scanText, hunit]

/-! ## Single characters -/

theorem scanText_simple
    {start width : Nat} {seen : List Piece} {letter : CodePoint} {c : Char}
    {rest : LooseText} (hsimple : simpleEscape? letter = some c) :
    scanText start seen width (.char '\\' :: letter :: rest) =
      scanText start (.plain (.char c) :: seen) (width + 2) rest := by
  unfold simpleEscape? at hsimple
  split at hsimple
  all_goals cases hsimple
  all_goals simp [scanText, simpleEscape?]

theorem scanText_plain
    {start width : Nat} {seen : List Piece} {c : Char} {rest : LooseText}
    (hquote : c ≠ '"') (hslash : c ≠ '\\') (hprintable : 0x20 ≤ c.toNat) :
    scanText start seen width (.char c :: rest) =
      scanText start (.plain (.char c) :: seen) (width + 1) rest := by
  have hcode : ¬ (CodePoint.char c).code < 0x20 := by
    simpa [CodePoint.code] using hprintable
  rw [scanText.eq_def]
  split
  all_goals simp_all

/-- The written character is scanned as pieces that join to the character. -/
def Scans (c : Char) (written : List Char) : Prop :=
  ∃ found : List Piece,
    (∀ start width (seen : List Piece) (next : CodePoint) (rest : LooseText),
      scanText start seen width (LooseText.ofChars written ++ next :: rest) =
        scanText start (found.reverse ++ seen) (width + written.length) (next :: rest)) ∧
      ∀ others, joinPieces (found ++ others) = .char c :: joinPieces others

theorem scans_simple {c letter : Char} (hsimple : simpleEscape? (.char letter) = some c) :
    Scans c ['\\', letter] := by
  refine ⟨[.plain (.char c)], ?_, fun others => rfl⟩
  intro start width seen next rest
  exact scanText_simple hsimple

theorem scans_plain {c : Char}
    (hquote : c ≠ '"') (hslash : c ≠ '\\') (hprintable : 0x20 ≤ c.toNat) :
    Scans c [c] := by
  refine ⟨[.plain (.char c)], ?_, fun others => rfl⟩
  intro start width seen next rest
  exact scanText_plain hquote hslash hprintable

theorem not_surrogate (c : Char) : ¬ (0xD800 ≤ c.toNat ∧ c.toNat < 0xE000) := by
  intro hsurrogate
  have hvalid : c.toNat.isValidChar := c.valid
  rcases hvalid with hlow | ⟨hhigh, _⟩
  · omega
  · omega

theorem toNat_lt_sup (c : Char) : c.toNat < 0x110000 := by
  rcases c.valid with hlow | ⟨_, hhigh⟩
  · exact hlow.trans (by decide)
  · exact hhigh

theorem ofNat_toNat (c : Char) : CodePoint.ofNat c.toNat = .char c := by
  unfold CodePoint.ofNat
  rw [dif_neg (not_surrogate c), Char.ofNat_toNat]

theorem joinPieces_unit {c : Char} (others : List Piece) :
    joinPieces (.unit c.toNat :: others) = .char c :: joinPieces others := by
  have hhigh : isHighSurrogate c.toNat = false := by
    have hsurrogate := not_surrogate c
    unfold isHighSurrogate
    simp only [Bool.and_eq_false_iff, decide_eq_false_iff_not]
    omega
  cases others with
  | nil => simp [joinPieces, ofNat_toNat]
  | cons piece rest =>
      cases piece with
      | plain point => simp [joinPieces, ofNat_toNat]
      | unit low => simp [joinPieces, ofNat_toNat, hhigh]

theorem joinPieces_pair {c : Char} (hlarge : 0x10000 ≤ c.toNat) (others : List Piece) :
    joinPieces (.unit (0xD800 + (c.toNat - 0x10000) / 0x400) ::
        .unit (0xDC00 + (c.toNat - 0x10000) % 0x400) :: others) =
      .char c :: joinPieces others := by
  have hbound := toNat_lt_sup c
  have hpair : (isHighSurrogate (0xD800 + (c.toNat - 0x10000) / 0x400) &&
      isLowSurrogate (0xDC00 + (c.toNat - 0x10000) % 0x400)) = true := by
    simp only [isHighSurrogate, isLowSurrogate, Bool.and_eq_true, decide_eq_true_eq]
    omega
  have hcode : 0x10000 + (0xD800 + (c.toNat - 0x10000) / 0x400 - 0xD800) * 0x400 +
      (0xDC00 + (c.toNat - 0x10000) % 0x400 - 0xDC00) = c.toNat := by
    omega
  rw [joinPieces, if_pos hpair]
  simp only [CodePoint.ofPair, hcode, Char.ofNat_toNat]

theorem scans_unicodeEscape (c : Char) : Scans c (unicodeEscape c.toNat) := by
  unfold unicodeEscape
  by_cases hsmall : c.toNat < 0x10000
  · rw [if_pos hsmall]
    refine ⟨[.unit c.toNat], ?_, joinPieces_unit⟩
    intro start width seen next rest
    exact scanText_unitEscape hsmall
  · rw [if_neg hsmall]
    have hbound := toNat_lt_sup c
    refine ⟨[.unit (0xD800 + (c.toNat - 0x10000) / 0x400),
      .unit (0xDC00 + (c.toNat - 0x10000) % 0x400)], ?_, joinPieces_pair (by omega)⟩
    intro start width seen next rest
    have hsecond : LooseText.ofChars (unitEscape (0xDC00 + (c.toNat - 0x10000) % 0x400)) ++
        next :: rest = .char '\\' :: (LooseText.ofChars
          (unitEscape (0xDC00 + (c.toNat - 0x10000) % 0x400)).tail ++ next :: rest) := rfl
    rw [LooseText.ofChars, List.map_append, List.append_assoc]
    change scanText start seen width (LooseText.ofChars (unitEscape _) ++
      (LooseText.ofChars (unitEscape _) ++ next :: rest)) = _
    rw [hsecond, scanText_unitEscape (by omega), ← hsecond, scanText_unitEscape (by omega)]
    rfl

theorem scans_escapeChar (asciiOnly : Bool) (c : Char) : Scans c (escapeChar asciiOnly c) := by
  unfold escapeChar
  split_ifs with hquote hslash hfeed hreturn htab hback hform hcontrol hbeyond
  · subst c
    exact scans_simple rfl
  · subst c
    exact scans_simple rfl
  · subst c
    exact scans_simple rfl
  · subst c
    exact scans_simple rfl
  · subst c
    exact scans_simple rfl
  · subst c
    exact scans_simple rfl
  · subst c
    exact scans_simple rfl
  · exact scans_unicodeEscape c
  · exact scans_unicodeEscape c
  · exact scans_plain hquote hslash (by omega)

/-! ## Whole texts -/

theorem flatMap_escape (asciiOnly : Bool) (chars : List Char) :
    (LooseText.ofChars chars).flatMap (escape asciiOnly) =
      LooseText.ofChars (chars.flatMap (escapeChar asciiOnly)) := by
  induction chars with
  | nil => rfl
  | cons c rest ih =>
      rw [LooseText.ofChars] at ih ⊢
      rw [List.map_cons, List.flatMap_cons, ih, List.flatMap_cons]
      simp [escape, LooseText.ofChars]

theorem scanText_escaped
    (asciiOnly : Bool) (chars : List Char) (start : Nat) (rest : LooseText) :
    ∃ found : List Piece, joinPieces found = LooseText.ofChars chars ∧
      ∀ width (seen : List Piece),
        scanText start seen width
            (LooseText.ofChars (chars.flatMap (escapeChar asciiOnly)) ++ .char '"' :: rest) =
          .done (seen.reverse ++ found)
            (width + (chars.flatMap (escapeChar asciiOnly)).length + 1) := by
  induction chars with
  | nil =>
      refine ⟨[], rfl, ?_⟩
      intro width seen
      simp [LooseText.ofChars, scanText]
  | cons c chars ih =>
      obtain ⟨found, hfound, hscan⟩ := ih
      obtain ⟨first, hfirst, hjoin⟩ := scans_escapeChar asciiOnly c
      refine ⟨first ++ found, ?_, ?_⟩
      · rw [hjoin, hfound]
        rfl
      · intro width seen
        obtain ⟨next, others, hnext⟩ : ∃ next others,
            LooseText.ofChars (chars.flatMap (escapeChar asciiOnly)) ++ .char '"' :: rest =
              next :: others := by
          apply List.exists_cons_of_ne_nil
          simp
        have hsplit : LooseText.ofChars ((c :: chars).flatMap (escapeChar asciiOnly)) ++
              .char '"' :: rest =
            LooseText.ofChars (escapeChar asciiOnly c) ++ next :: others := by
          rw [← hnext]
          simp [LooseText.ofChars]
        rw [hsplit, hfirst, ← hnext, hscan]
        simp [Nat.add_assoc]

theorem textToken_escaped (asciiOnly : Bool) (chars : List Char) (offset : Nat)
    (rest : LooseText) :
    textToken offset
        (LooseText.ofChars (chars.flatMap (escapeChar asciiOnly)) ++ .char '"' :: rest) =
      (.text (LooseText.ofChars chars),
        (chars.flatMap (escapeChar asciiOnly)).length + 2) := by
  obtain ⟨found, hfound, hscan⟩ := scanText_escaped asciiOnly chars offset rest
  unfold textToken
  rw [hscan]
  simp only [List.reverse_nil, List.nil_append, hfound]
  congr 1
  omega

end Roster.Json
