import Roster.Proofs.Password
import Mathlib.Tactic

/-!
# What the text of a hash determines

The text of a hash holds its rounds, its salt and its checksum so that all three can be read off
again.  So a password matches its own hash, and passwords with one hash between them were salted
and stretched alike.
-/

namespace Roster.Password

variable {crypto : Crypto} {salt : Bytes} {password : String} {stored : String}

theorem natText_injective : Function.Injective natText :=
  Function.LeftInverse.injective decimalValue_natText

theorem encode_dotted_injective : Function.Injective (Base64.encode Base64.dotted) := by
  intro first second hencoded
  have hread := readField_encode first
  rw [hencoded, readField_encode second] at hread
  exact (Except.ok.inj hread).symm

theorem write_injective : Function.Injective Stored.write := by
  rintro ⟨rounds, salt, checksum⟩ ⟨others, other, digest⟩ hwritten
  have hpieces := pieces_write ⟨rounds, salt, checksum⟩
  rw [hwritten, pieces_write] at hpieces
  simp only [List.cons.injEq, and_true] at hpieces
  obtain ⟨hrounds, hsalt, hchecksum⟩ := hpieces
  rw [natText_injective hrounds, encode_dotted_injective hsalt,
    encode_dotted_injective hchecksum]

theorem length_ofString (text : String) : (LooseText.ofString text).length = text.length := by
  unfold LooseText.ofString LooseText.ofChars
  rw [List.length_map, String.length_toList]

/-- A text of characters that is not too long has a hash, which holds the salt. -/
theorem hash_ofString (hshort : password.length ≤ maxLength) :
    hash crypto salt password = .ok (Stored.write
      ⟨defaultRounds, salt, crypto.stretch (utf8 password) salt defaultRounds⟩) := by
  rw [← length_ofString] at hshort
  unfold hash
  rw [if_neg (Nat.not_lt.mpr hshort), LooseText.encode_ofString]

theorem stored_of_hash_ofString (hhash : hash crypto salt password = .ok stored) :
    stored = Stored.write
      ⟨defaultRounds, salt, crypto.stretch (utf8 password) salt defaultRounds⟩ := by
  obtain ⟨-, plain, hplain, hstored⟩ := stored_of_hash hhash
  rw [LooseText.encode_ofString] at hplain
  cases hplain
  exact hstored

/-- A password matches its own hash, whatever the salt.  One text is a hash of two passwords only
if their salts are equal and so are the results of stretching them. -/
theorem password_matches_own_hash
    (crypto : Crypto)
    (hstretch : ∀ plain salt rounds,
      (crypto.stretch plain salt rounds).length = checksumSize) :
    (∀ (password : String) (salt : Bytes),
        password.length ≤ maxLength → salt.length ≤ maxSaltSize →
          ∃ stored, hash crypto salt password = .ok stored ∧
            verify crypto password stored = .ok true) ∧
      ∀ (first second : String) (salt other : Bytes) (stored : String),
        hash crypto salt first = .ok stored → hash crypto other second = .ok stored →
          salt = other ∧
            crypto.stretch (utf8 first) salt defaultRounds =
              crypto.stretch (utf8 second) other defaultRounds := by
  constructor
  · intro password salt hshort hsalt
    have hhash : hash crypto salt password = .ok _ := hash_ofString hshort
    exact ⟨_, hhash, verify_hash hsalt hstretch hhash⟩
  · intro first second salt other stored hfirst hsecond
    have hwritten := (stored_of_hash_ofString hfirst).symm.trans (stored_of_hash_ofString hsecond)
    have hsame := write_injective hwritten
    rw [Stored.mk.injEq] at hsame
    exact hsame.2

/-- Sixteen bytes that look different in the two alphabets. -/
def highSalt : Bytes :=
  List.replicate 16 0xfb

theorem password_matches_own_hash_zoe :
    highSalt.length = 16 ∧ ∃ stored, hash .standard highSalt ("zoë 🚢" : String) = .ok stored ∧
      verify .standard ("zoë 🚢" : String) stored = .ok true ∧
      ∀ (salt : Bytes) (other : String), hash .standard salt other = .ok stored →
        highSalt = salt := by
  obtain ⟨hmatches, hdetermines⟩ :=
    password_matches_own_hash .standard length_stretch_standard
  obtain ⟨stored, hhash, hverify⟩ := hmatches "zoë 🚢" highSalt (by decide) (by decide)
  refine ⟨rfl, stored, hhash, hverify, ?_⟩
  intro salt other hother
  exact (hdetermines _ _ _ _ _ hhash hother).1

end Roster.Password
