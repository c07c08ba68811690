import Roster.Proofs.Password
import Roster.Proofs.Text.Padding
import Mathlib.Tactic

/-!
# What comparing with a stored text comes to

A stored text is a hash when it has the scheme, three fields that can be read, and a salt and a
checksum of the right sizes.  A password matches it when stretching it gives the checksum.  A text
that is no hash matches nothing, but two kinds of texts are not compared at all: those with a field
whose base64 breaks off, and hashes with more rounds than a password can be stretched.
-/

namespace Roster.Password

open Outcome

variable {text : String} {field : List Char} {fields : List (List Char)} {stored : Stored}
  {broken : Base64.DecodeError} {password : LooseText} {crypto : Crypto}

/-! ## Fields of a stored text -/

/-- The text is the scheme and the fields, with a dollar sign between any two of them. -/
structure Fields (text : String) (fields : List (List Char)) : Prop where
  joined : text.toList = scheme.toList ++ joinPieces '$' fields
  nonempty : fields ≠ []
  plain : ∀ field ∈ fields, '$' ∉ field

theorem fields_iff :
    Fields text fields ↔
      text.startsWith scheme = true ∧ pieces '$' (text.toList.drop scheme.length) = fields := by
  rw [String.startsWith_string_iff, pieces_eq_iff]
  constructor
  · rintro ⟨hjoined, hnonempty, hplain⟩
    rw [hjoined, ← String.length_toList, List.drop_left]
    exact ⟨List.prefix_append _ _, hnonempty, rfl, hplain⟩
  · rintro ⟨⟨rest, hrest⟩, hnonempty, hjoined, hplain⟩
    rw [← hrest, ← String.length_toList, List.drop_left] at hjoined
    exact ⟨by rw [hjoined, hrest], hnonempty, hplain⟩

/-! ## Base64 in a field -/

/-- The field in the standard alphabet, with the padding that its length asks for. -/
def padded (field : List Char) : List Char :=
  (field.map fun c => if c = '.' then '+' else c) ++
    List.replicate ((4 - field.length % 4) % 4) '='

/-- A field in ASCII, not one character longer than whole groups of four, whose reading breaks
off. -/
structure FieldBreaksOff (field : List Char) (broken : Base64.DecodeError) : Prop where
  ascii : ∀ c ∈ field, c.toNat < 0x80
  length : field.length % 4 ≠ 1
  breaks : Base64.BreaksOff Base64.standard (padded field) broken

theorem readField_eq_encoding_iff :
    readField field = .error (.encoding broken) ↔ FieldBreaksOff field broken := by
  have hread : (Base64.decodeTolerant Base64.standard (padded field)).mapError ParseError.encoding =
      .error (.encoding broken) ↔ Base64.BreaksOff Base64.standard (padded field) broken := by
    rw [← Base64.decodeTolerant_eq_error_iff (by decide)]
    cases Base64.decodeTolerant Base64.standard (padded field) with
    | ok bytes => simp [Except.mapError]
    | error error => simp [Except.mapError]
  have hfaulty : (field.any (fun c => 0x80 ≤ c.toNat) || field.length % 4 = 1) = true ↔
      ¬ ((∀ c ∈ field, c.toNat < 0x80) ∧ field.length % 4 ≠ 1) := by
    simp [imp_iff_not_or]
  unfold readField
  constructor
  · intro hbreaks
    split_ifs at hbreaks with hfault
    · cases hbreaks
    · obtain ⟨hascii, hlength⟩ := not_not.mp (hfaulty.not.mp hfault)
      exact ⟨hascii, hlength, hread.mp hbreaks⟩
  · rintro ⟨hascii, hlength, hbreaks⟩
    rw [if_neg (hfaulty.not.mpr (not_not.mpr ⟨hascii, hlength⟩))]
    exact hread.mpr hbreaks

theorem readRounds_ne_encoding : readRounds field ≠ .error (.encoding broken) := by
  unfold readRounds
  split_ifs
  · exact nofun
  · cases readInteger field with
    | ok count => exact nofun
    | error error => exact nofun

/-! ## Reading a stored text -/

/-- The text is that of the hash, as far as its fields can be read. -/
def Denotes (text : String) (stored : Stored) : Prop :=
  ∃ rounds salt checksum, Fields text [rounds, salt, checksum] ∧
    readRounds rounds = .ok stored.rounds ∧ readField salt = .ok stored.salt ∧
    readField checksum = .ok stored.checksum ∧
    (1 ≤ stored.rounds ∧ stored.rounds ≤ maxRounds) ∧ stored.salt.length ≤ maxSaltSize ∧
    stored.checksum.length = checksumSize

/-- The rounds are read, and then the base64 of the salt breaks off, or that of the checksum. -/
inductive FieldsBreakOff : List (List Char) → Base64.DecodeError → Prop where
  | salt {rounds salt : List Char} {others : List (List Char)} {broken : Base64.DecodeError}
      (hothers : others.length ≤ 1) (hrounds : ∃ count, readRounds rounds = .ok count)
      (hsalt : FieldBreaksOff salt broken) : FieldsBreakOff (rounds :: salt :: others) broken
  | checksum {rounds salt checksum : List Char} {broken : Base64.DecodeError}
      (hrounds : ∃ count, readRounds rounds = .ok count)
      (hsalt : ∃ bytes, readField salt = .ok bytes) (hchecksum : FieldBreaksOff checksum broken) :
      FieldsBreakOff [rounds, salt, checksum] broken

def BreaksOff (text : String) (broken : Base64.DecodeError) : Prop :=
  ∃ fields, Fields text fields ∧ FieldsBreakOff fields broken

theorem parse_of_fields (hfields : Fields text fields) :
    Stored.parse text = Stored.ofFields fields := by
  obtain ⟨hscheme, hpieces⟩ := fields_iff.mp hfields
  unfold Stored.parse
  rw [hscheme, hpieces]
  rfl

theorem fields_or_malformed (text : String) :
    (∃ fields, Fields text fields) ∨ Stored.parse text = .error .malformed := by
  by_cases hscheme : text.startsWith scheme = true
  · exact .inl ⟨_, fields_iff.mpr ⟨hscheme, rfl⟩⟩
  · refine .inr ?_
    unfold Stored.parse
    rw [Bool.not_eq_true] at hscheme
    rw [hscheme]
    rfl

theorem exists_three_of_ofFields (hstored : Stored.ofFields fields = .ok stored) :
    ∃ rounds salt checksum, fields = [rounds, salt, checksum] := by
  unfold Stored.ofFields at hstored
  split at hstored
  next rounds salt checksum => exact ⟨rounds, salt, checksum, rfl⟩
  next rounds salt =>
    obtain ⟨_, -, hstored⟩ := bind_eq_ok_iff.mp hstored
    obtain ⟨_, -, hstored⟩ := bind_eq_ok_iff.mp hstored
    cases hstored
  next => cases hstored

theorem ofFields_eq_ok_iff {rounds salt checksum : List Char} :
    Stored.ofFields [rounds, salt, checksum] = .ok stored ↔
      readRounds rounds = .ok stored.rounds ∧ readField salt = .ok stored.salt ∧
        readField checksum = .ok stored.checksum ∧
        (1 ≤ stored.rounds ∧ stored.rounds ≤ maxRounds) ∧ stored.salt.length ≤ maxSaltSize ∧
        stored.checksum.length = checksumSize := by
  unfold Stored.ofFields
  constructor
  · intro hstored
    obtain ⟨count, hrounds, hstored⟩ := bind_eq_ok_iff.mp hstored
    obtain ⟨bytes, hsalt, hstored⟩ := bind_eq_ok_iff.mp hstored
    obtain ⟨digest, hchecksum, hstored⟩ := bind_eq_ok_iff.mp hstored
    split_ifs at hstored with hbounds
    · cases hstored
    · obtain rfl := pure_eq_ok_iff.mp hstored
      simp only [not_or, not_lt, not_not, ne_eq] at hbounds
      obtain ⟨hleast, hgreatest, hsize, hdigest⟩ := hbounds
      have hcount : (count.toNat : Int) = count := Int.toNat_of_nonneg (by omega)
      simp only [hcount]
      exact ⟨hrounds, hsalt, hchecksum, ⟨by omega, hgreatest⟩, hsize, hdigest⟩
  · rintro ⟨hrounds, hsalt, hchecksum, ⟨hleast, hgreatest⟩, hsize, hdigest⟩
    have hbounds : ¬ ((stored.rounds : Int) < 1 ∨ maxRounds < stored.rounds ∨
        maxSaltSize < stored.salt.length ∨ stored.checksum.length ≠ checksumSize) := by
      simp only [not_or, not_lt, not_not, ne_eq]
      exact ⟨by omega, hgreatest, hsize, hdigest⟩
    simp only [hrounds, hsalt, hchecksum, ok_bind, if_neg hbounds, Int.toNat_natCast]
    rfl

theorem parse_eq_ok_iff : Stored.parse text = .ok stored ↔ Denotes text stored := by
  constructor
  · intro hstored
    rcases fields_or_malformed text with ⟨fields, hfields⟩ | hmalformed
    · rw [parse_of_fields hfields] at hstored
      obtain ⟨rounds, salt, checksum, rfl⟩ := exists_three_of_ofFields hstored
      exact ⟨rounds, salt, checksum, hfields, ofFields_eq_ok_iff.mp hstored⟩
    · rw [hmalformed] at hstored
      cases hstored
  · rintro ⟨rounds, salt, checksum, hfields, hstored⟩
    rw [parse_of_fields hfields]
    exact ofFields_eq_ok_iff.mpr hstored

theorem ofFields_eq_encoding_iff :
    Stored.ofFields fields = .error (.encoding broken) ↔ FieldsBreakOff fields broken := by
  constructor
  · intro hbreaks
    unfold Stored.ofFields at hbreaks
    split at hbreaks
    next rounds salt checksum =>
      rcases bind_eq_error_iff.mp hbreaks with hrounds | ⟨count, hrounds, hbreaks⟩
      · exact absurd hrounds readRounds_ne_encoding
      rcases bind_eq_error_iff.mp hbreaks with hsalt | ⟨bytes, hsalt, hbreaks⟩
      · exact .salt (Nat.le_refl 1) ⟨count, hrounds⟩ (readField_eq_encoding_iff.mp hsalt)
      rcases bind_eq_error_iff.mp hbreaks with hchecksum | ⟨digest, -, hbreaks⟩
      · exact .checksum ⟨count, hrounds⟩ ⟨bytes, hsalt⟩ (readField_eq_encoding_iff.mp hchecksum)
      · split_ifs at hbreaks
        · cases hbreaks
        · cases hbreaks
    next rounds salt =>
      rcases bind_eq_error_iff.mp hbreaks with hrounds | ⟨count, hrounds, hbreaks⟩
      · exact absurd hrounds readRounds_ne_encoding
      rcases bind_eq_error_iff.mp hbreaks with hsalt | ⟨bytes, -, hbreaks⟩
      · exact .salt (Nat.zero_le 1) ⟨count, hrounds⟩ (readField_eq_encoding_iff.mp hsalt)
      · cases hbreaks
    next => cases hbreaks
  · intro hbreaks
    cases hbreaks with
    | @salt rounds salt others _ hothers hrounds hsalt =>
        obtain ⟨count, hrounds⟩ := hrounds
        have hsalt := readField_eq_encoding_iff.mpr hsalt
        rcases others with _ | ⟨checksum, _ | ⟨next, rest⟩⟩
        · simp only [Stored.ofFields, hrounds, hsalt, ok_bind]
          rfl
        · simp only [Stored.ofFields, hrounds, hsalt, ok_bind]
          rfl
        · simp at hothers
    | checksum hrounds hsalt hchecksum =>
        obtain ⟨count, hrounds⟩ := hrounds
        obtain ⟨bytes, hsalt⟩ := hsalt
        have hchecksum := readField_eq_encoding_iff.mpr hchecksum
        simp only [Stored.ofFields, hrounds, hsalt, hchecksum, ok_bind]
        rfl

theorem parse_eq_encoding_iff :
    Stored.parse text = .error (.encoding broken) ↔ BreaksOff text broken := by
  constructor
  · intro hbreaks
    rcases fields_or_malformed text with ⟨fields, hfields⟩ | hmalformed
    · rw [parse_of_fields hfields] at hbreaks
      exact ⟨fields, hfields, ofFields_eq_encoding_iff.mp hbreaks⟩
    · rw [hmalformed] at hbreaks
      cases hbreaks
  · rintro ⟨fields, hfields, hbreaks⟩
    rw [parse_of_fields hfields]
    exact ofFields_eq_encoding_iff.mpr hbreaks

/-! ## Comparing -/

/-- The text is a hash that stretching the password gives. -/
def Matches (crypto : Crypto) (password : LooseText) (text : String) : Prop :=
  ∃ stored plain, Denotes text stored ∧ password = LooseText.ofString plain ∧
    stored.rounds ≤ maxStretch ∧
    stored.checksum = crypto.stretch (utf8 plain) stored.salt stored.rounds

/-- Why a text is not compared with the password at all. -/
inductive Incomparable (password : LooseText) (text : String) : VerifyError → Prop where
  | encoding {broken : Base64.DecodeError} (hbreaks : BreaksOff text broken) :
      Incomparable password text (.encoding broken)
  | tooManyRounds {stored : Stored} {plain : String} (hdenotes : Denotes text stored)
      (hplain : password = LooseText.ofString plain) (hmany : maxStretch < stored.rounds) :
      Incomparable password text .tooManyRounds

theorem verify_of_long (hlong : maxLength < password.length) :
    verify crypto password text = .ok false :=
  if_pos hlong

section Short

variable (hshort : password.length ≤ maxLength)

include hshort

theorem verify_of_denotes {plain : String} (hdenotes : Denotes text stored)
    (hplain : password = LooseText.ofString plain) :
    verify crypto password text =
      if maxStretch < stored.rounds then .error .tooManyRounds
      else .ok (crypto.stretch (utf8 plain) stored.salt stored.rounds = stored.checksum) := by
  unfold verify
  rw [if_neg (Nat.not_lt.mpr hshort), parse_eq_ok_iff.mpr hdenotes,
    LooseText.encode_eq_ok_iff.mpr hplain]

theorem verify_of_unencodable {fault : Unencodable} (hdenotes : Denotes text stored)
    (hfault : password.encode = .error fault) : verify crypto password text = .ok false := by
  unfold verify
  rw [if_neg (Nat.not_lt.mpr hshort), parse_eq_ok_iff.mpr hdenotes, hfault]

theorem verify_of_malformed (hmalformed : Stored.parse text = .error .malformed) :
    verify crypto password text = .ok false := by
  unfold verify
  rw [if_neg (Nat.not_lt.mpr hshort), hmalformed]

theorem verify_of_breaksOff (hbreaks : BreaksOff text broken) :
    verify crypto password text = .error (.encoding broken) := by
  unfold verify
  rw [if_neg (Nat.not_lt.mpr hshort), parse_eq_encoding_iff.mpr hbreaks]

end Short

/-- What makes a comparison come out as it does. -/
inductive Compares (crypto : Crypto) (password : LooseText) (text : String) :
    Except VerifyError Bool → Prop where
  | same (hshort : password.length ≤ maxLength) (hmatches : Matches crypto password text) :
      Compares crypto password text (.ok true)
  | incomparable {error : VerifyError} (hshort : password.length ≤ maxLength)
      (herror : Incomparable password text error) : Compares crypto password text (.error error)
  | mismatch : Compares crypto password text (.ok false)

/-- Every comparison has its cause; that of a mismatch is left open. -/
theorem compares_verify (crypto : Crypto) (password : LooseText) (text : String) :
    Compares crypto password text (verify crypto password text) := by
  rcases Nat.lt_or_ge maxLength password.length with hlong | hshort
  · rw [verify_of_long hlong]
    exact .mismatch
  cases hparse : Stored.parse text with
  | error error =>
      cases error with
      | malformed =>
          rw [verify_of_malformed hshort hparse]
          exact .mismatch
      | encoding broken =>
          have hbreaks := parse_eq_encoding_iff.mp hparse
          rw [verify_of_breaksOff hshort hbreaks]
          exact .incomparable hshort (.encoding hbreaks)
  | ok stored =>
      have hdenotes := parse_eq_ok_iff.mp hparse
      cases hencode : password.encode with
      | error fault =>
          rw [verify_of_unencodable hshort hdenotes hencode]
          exact .mismatch
      | ok plain =>
          have hplain := LooseText.encode_eq_ok_iff.mp hencode
          rw [verify_of_denotes hshort hdenotes hplain]
          split_ifs with hmany
          · exact .incomparable hshort (.tooManyRounds hdenotes hplain hmany)
          · by_cases hsame : crypto.stretch (utf8 plain) stored.salt stored.rounds =
              stored.checksum
            · rw [decide_eq_true hsame]
              exact .same hshort
                ⟨stored, plain, hdenotes, hplain, Nat.not_lt.mp hmany, hsame.symm⟩
            · rw [decide_eq_false hsame]
              exact .mismatch

theorem verify_eq_true_iff :
    verify crypto password text = .ok true ↔
      password.length ≤ maxLength ∧ Matches crypto password text := by
  constructor
  · intro hverify
    have hcompares := compares_verify crypto password text
    rw [hverify] at hcompares
    cases hcompares with
    | same hshort hmatches => exact ⟨hshort, hmatches⟩
  · rintro ⟨hshort, stored, plain, hdenotes, hplain, hfew, hsame⟩
    rw [verify_of_denotes hshort hdenotes hplain, if_neg (Nat.not_lt.mpr hfew),
      decide_eq_true hsame.symm]

theorem verify_eq_error_iff {error : VerifyError} :
    verify crypto password text = .error error ↔
      password.length ≤ maxLength ∧ Incomparable password text error := by
  constructor
  · intro hverify
    have hcompares := compares_verify crypto password text
    rw [hverify] at hcompares
    cases hcompares with
    | incomparable hshort herror => exact ⟨hshort, herror⟩
  · rintro ⟨hshort, hbreaks | ⟨hdenotes, hplain, hmany⟩⟩
    · exact verify_of_breaksOff hshort hbreaks
    · rw [verify_of_denotes hshort hdenotes hplain, if_pos hmany]

/-- A password matches nothing but hashes that stretching it gives.  A password that is not too
long fails to be compared with exactly two kinds of texts: those whose base64 breaks off, and
hashes with too many rounds. -/
theorem stored_text_compared_iff (crypto : Crypto) (password : LooseText) (text : String) :
    (verify crypto password text = .ok true ↔
        password.length ≤ maxLength ∧ Matches crypto password text) ∧
      (∀ error, verify crypto password text = .error error ↔
        password.length ≤ maxLength ∧ Incomparable password text error) ∧
      ((∃ matched, verify crypto password text = .ok matched) ↔
        password.length ≤ maxLength → ∀ error, ¬ Incomparable password text error) := by
  refine ⟨verify_eq_true_iff, fun error => verify_eq_error_iff, ?_⟩
  constructor
  · rintro ⟨matched, hverify⟩ hshort error herror
    rw [verify_eq_error_iff.mpr ⟨hshort, herror⟩] at hverify
    cases hverify
  · intro hcomparable
    cases hverify : verify crypto password text with
    | ok matched => exact ⟨matched, rfl⟩
    | error error =>
        obtain ⟨hshort, herror⟩ := verify_eq_error_iff.mp hverify
        exact absurd herror (hcomparable hshort error)

/-- A hash with a blank behind it. -/
def blankBehind : String :=
  "$pbkdf2-sha256$1$AAAAAAAAAAAAAAAAAAAAAA$AnvcPnfeNcWBTo88QwMEamlSue8HCbhCyfVWm/WrmOc "

/-- The same hash, said to be made with one round more than a password can be stretched. -/
def countlessRounds : String :=
  "$pbkdf2-sha256$2147483648$AAAAAAAAAAAAAAAAAAAAAA$AnvcPnfeNcWBTo88QwMEamlSue8HCbhCyfVWm/WrmOc"

theorem corrupted_hashes_escape :
    (¬ ∀ crypto password text, ∃ matched, verify crypto password text = .ok matched) ∧
      verify .standard ("SecurePass123!" : String) blankBehind =
        .error (.encoding .incompletePadding) ∧
      verify .standard ("SecurePass123!" : String) countlessRounds = .error .tooManyRounds := by
  have hbroken : verify .standard ("SecurePass123!" : String) blankBehind =
      .error (.encoding .incompletePadding) := by
    decide +kernel
  refine ⟨?_, hbroken, by decide +kernel⟩
  intro hcompared
  obtain ⟨matched, hmatched⟩ := hcompared .standard ("SecurePass123!" : String) blankBehind
  rw [hbroken] at hmatched
  cases hmatched

end Roster.Password
