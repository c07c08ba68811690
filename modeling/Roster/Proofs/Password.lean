import Roster.Password
import Roster.Proofs.Json.Numbers
import Roster.Proofs.Outcome
import Roster.Proofs.Text.Base64
import Mathlib.Tactic

/-!
# A password matches its own hash

The text of a hash is cut at the dollar signs into the fields it was made of, because no field has
a dollar sign in it.  Reading the fields gives back the rounds, the salt and the checksum, so a
password is stretched the same way once more.
-/

namespace Roster.Password

open Outcome

/-! ## Fields of a hash -/

theorem plain_char_dotted :
    ∀ value < 64, (if Base64.dotted.char value = '.' then '+'
      else Base64.dotted.char value) = Base64.standard.char value := by
  decide

theorem dotted_char_ascii :
    ∀ value < 64, (Base64.dotted.char value).toNat < 0x80 ∧
      Base64.dotted.char value ≠ '$' := by
  decide

theorem dollar_not_mem_encode (bytes : Bytes) :
    '$' ∉ Base64.encode Base64.dotted bytes := by
  intro hdollar
  obtain ⟨value, hvalue, hchar⟩ := List.mem_map.mp hdollar
  exact (dotted_char_ascii value (Base64.lt_of_mem_sextets hvalue)).2 hchar

theorem dollar_not_mem_natText (number : Nat) : '$' ∉ natText number := by
  intro hdollar
  have hdigit := isDigit_of_mem_natText hdollar
  cases hdigit

theorem readField_encode (bytes : Bytes) :
    readField (Base64.encode Base64.dotted bytes) = .ok bytes := by
  have hlength : (Base64.encode Base64.dotted bytes).length =
      (Base64.encode Base64.standard bytes).length := by
    unfold Base64.encode
    rw [List.length_map, List.length_map]
  have hmod : (Base64.encode Base64.standard bytes).length % 4 ≠ 1 := by
    unfold Base64.encode
    rw [List.length_map]
    exact Base64.length_sextets_mod bytes
  have hascii : (Base64.encode Base64.dotted bytes).any (fun c => 0x80 ≤ c.toNat) = false := by
    rw [List.any_eq_false]
    intro c hc
    obtain ⟨value, hvalue, rfl⟩ := List.mem_map.mp hc
    have hbound := (dotted_char_ascii value (Base64.lt_of_mem_sextets hvalue)).1
    simpa using hbound
  have hplain : (Base64.encode Base64.dotted bytes).map (fun c => if c = '.' then '+' else c) =
      Base64.encode Base64.standard bytes := by
    unfold Base64.encode
    rw [List.map_map, List.map_inj_left]
    intro value hvalue
    exact plain_char_dotted value (Base64.lt_of_mem_sextets hvalue)
  have hread := Base64.decodeTolerant_encode Base64.standard_readable bytes
  unfold readField
  simp only [hascii, hplain, hlength, hread, decide_eq_false hmod, Bool.or_false,
    Bool.false_eq_true, if_false]
  rfl

theorem readRounds_default : readRounds (natText defaultRounds) = .ok defaultRounds := by
  decide +kernel

/-! ## Whole hashes -/

theorem toList_write (stored : Stored) :
    stored.write.toList = scheme.toList ++ (natText stored.rounds ++
      '$' :: (Base64.encode Base64.dotted stored.salt ++
        '$' :: Base64.encode Base64.dotted stored.checksum)) := by
  unfold Stored.write
  simp

theorem scheme_prefix_write (stored : Stored) : stored.write.startsWith scheme = true := by
  rw [String.startsWith_string_iff, toList_write]
  exact List.prefix_append _ _

theorem pieces_write (stored : Stored) :
    pieces '$' (stored.write.toList.drop scheme.length) =
      [natText stored.rounds, Base64.encode Base64.dotted stored.salt,
        Base64.encode Base64.dotted stored.checksum] := by
  rw [toList_write, ← String.length_toList, List.drop_left,
    pieces_append_cons (dollar_not_mem_natText _), pieces_append_cons (dollar_not_mem_encode _),
    pieces_of_not_mem (dollar_not_mem_encode _)]

/-- The text of a hash is taken for one again when its salt and its checksum have the right sizes,
and else for no hash at all. -/
theorem parse_write_eq (salt checksum : Bytes) :
    Stored.parse (Stored.write ⟨defaultRounds, salt, checksum⟩) =
      if maxSaltSize < salt.length ∨ checksum.length ≠ checksumSize then .error .malformed
      else .ok ⟨defaultRounds, salt, checksum⟩ := by
  have hleast : ¬ (defaultRounds : Int) < 1 := by decide
  have hgreatest : ¬ maxRounds < (defaultRounds : Int) := by decide
  unfold Stored.parse
  simp only [scheme_prefix_write, pieces_write, Stored.ofFields, readRounds_default,
    readField_encode, ok_bind, hleast, hgreatest, false_or, Bool.not_true, Bool.false_eq_true,
    if_false]
  split_ifs
  · rfl
  · rfl

theorem parse_write
    {salt checksum : Bytes} (hsalt : salt.length ≤ maxSaltSize)
    (hchecksum : checksum.length = checksumSize) :
    Stored.parse (Stored.write ⟨defaultRounds, salt, checksum⟩) =
      .ok ⟨defaultRounds, salt, checksum⟩ := by
  have hfits : ¬ (maxSaltSize < salt.length ∨ checksum.length ≠ checksumSize) := by
    simp only [Nat.not_lt.mpr hsalt, hchecksum, false_or, ne_eq, not_true_eq_false,
      not_false_eq_true]
  rw [parse_write_eq, if_neg hfits]

/-! ## Hashing and comparing -/

/-- Why a password has no hash.  Its length is looked at first. -/
inductive Unhashable (password : LooseText) : HashError → Prop where
  | tooLong (hlong : maxLength < password.length) : Unhashable password .tooLong
  | unencodable (fault : Unencodable) (hshort : password.length ≤ maxLength)
      (hfault : password.encode = .error fault) : Unhashable password (.unencodable fault)

theorem hash_eq_error_iff
    {crypto : Crypto} {salt : Bytes} {password : LooseText} {error : HashError} :
    hash crypto salt password = .error error ↔ Unhashable password error := by
  unfold hash
  by_cases hlong : maxLength < password.length
  · rw [if_pos hlong]
    constructor
    · intro herror
      cases herror
      exact .tooLong hlong
    · rintro (_ | ⟨fault, hshort, -⟩)
      · rfl
      · exact absurd hlong (Nat.not_lt.mpr hshort)
  · rw [if_neg hlong]
    cases hencode : password.encode with
    | ok plain =>
        constructor
        · intro herror
          cases herror
        · rintro (hlong' | ⟨fault, -, hfault⟩)
          · exact absurd hlong' hlong
          · rw [hencode] at hfault
            cases hfault
    | error fault =>
        constructor
        · intro herror
          cases herror
          exact .unencodable fault (Nat.not_lt.mp hlong) hencode
        · rintro (hlong' | ⟨other, -, hfault⟩)
          · exact absurd hlong' hlong
          · rw [hencode] at hfault
            cases hfault
            rfl

theorem stored_of_hash
    {crypto : Crypto} {salt : Bytes} {password : LooseText} {stored : String}
    (hhash : hash crypto salt password = .ok stored) :
    password.length ≤ maxLength ∧ ∃ plain, password.encode = .ok plain ∧
      stored =
        Stored.write ⟨defaultRounds, salt, crypto.stretch (utf8 plain) salt defaultRounds⟩ := by
  unfold hash at hhash
  split at hhash
  next hlong => cases hhash
  next hlong =>
    cases hplain : password.encode with
    | error fault =>
        rw [hplain] at hhash
        cases hhash
    | ok plain =>
        rw [hplain] at hhash
        exact ⟨Nat.not_lt.mp hlong, plain, rfl, (Except.ok.inj hhash).symm⟩

theorem defaultRounds_le_maxStretch : defaultRounds ≤ maxStretch := by
  decide

/-- A hash that was made here can be compared with any password. -/
theorem verify_hash_ne_error
    {crypto : Crypto} {salt : Bytes} {password : LooseText} {stored : String}
    (hhash : hash crypto salt password = .ok stored) (other : LooseText)
    (error : VerifyError) : verify crypto other stored ≠ .error error := by
  obtain ⟨-, plain, -, rfl⟩ := stored_of_hash hhash
  unfold verify
  split_ifs with hlong
  · exact nofun
  · rw [parse_write_eq]
    split_ifs
    · exact nofun
    · cases other.encode with
      | ok plain =>
          simp only [if_neg (Nat.not_lt.mpr defaultRounds_le_maxStretch)]
          exact nofun
      | error fault => exact nofun

theorem verify_hash
    {crypto : Crypto} {salt : Bytes} {password : LooseText} {stored : String}
    (hsalt : salt.length ≤ maxSaltSize)
    (hstretch : ∀ plain salt rounds,
      (crypto.stretch plain salt rounds).length = checksumSize)
    (hhash : hash crypto salt password = .ok stored) :
    verify crypto password stored = .ok true := by
  obtain ⟨hshort, plain, hplain, rfl⟩ := stored_of_hash hhash
  unfold verify
  rw [if_neg (Nat.not_lt.mpr hshort), parse_write hsalt (hstretch (utf8 plain) salt defaultRounds),
    hplain]
  simp only [if_neg (Nat.not_lt.mpr defaultRounds_le_maxStretch), decide_true]

/-- The stretched form of a password is one digest of thirty-two bytes. -/
theorem length_stretch_standard (plain salt : Bytes) (rounds : Nat) :
    (Crypto.standard.stretch plain salt rounds).length = checksumSize := rfl

end Roster.Password
