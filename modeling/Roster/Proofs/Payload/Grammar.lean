import Roster.Proofs.Payload.Accepted
import Roster.Proofs.Text.Base64
import Mathlib

/-!
# Payloads that are accepted as credentials

A payload becomes credentials when the password, the email, and the two names together pass a check
each.  What passes is told here by its parts and not by the checks: which characters a password has,
and how an address is put together around its one `@` and a point behind it.  The check of the email
also passes an address with a line feed behind it, which is no address.
-/

namespace Roster

open Outcome Payload

/-- The code point is a character between two others. -/
def CodePoint.Within (low high : Char) (point : CodePoint) : Prop :=
  ∃ c, point = .char c ∧ low ≤ c ∧ c ≤ high

namespace LooseText

structure IsStrong (password : LooseText) : Prop where
  long : 8 ≤ password.length
  capital : ∃ point ∈ password, point.Within 'A' 'Z'
  digit : ∃ point ∈ password, point.Within '0' '9'
  symbol : ∃ point ∈ password,
    ¬ point.Within 'A' 'Z' ∧ ¬ point.Within 'a' 'z' ∧ ¬ point.Within '0' '9'

/-- No blanks and one `@`, with something before it, and behind it a point with something on both
sides. -/
structure IsAddress (text : LooseText) : Prop where
  unbroken : ∀ c, .char c ∈ text → isBlank c = false
  single : text.count (.char '@') = 1
  parts : ∃ name host zone, name ≠ [] ∧ host ≠ [] ∧ zone ≠ [] ∧
    text = name ++ .char '@' :: (host ++ .char '.' :: zone)

/-- An address, or one with a line feed behind it. -/
def PassesAsAddress (text : LooseText) : Prop :=
  ∃ address, IsAddress address ∧ (text = address ∨ text = address ++ [.char '\n'])

end LooseText

namespace Credentials

/-! ## The password -/

theorem any_char_iff {text : LooseText} {test : Char → Bool} {low high : Char}
    (htest : ∀ c, test c = true ↔ low ≤ c ∧ c ≤ high) :
    text.any (·.char?.any test) = true ↔ ∃ point ∈ text, point.Within low high := by
  have hpoint : ∀ point : CodePoint, point.char?.any test = true ↔ point.Within low high := by
    intro point
    cases point with
    | char c => simp [CodePoint.char?, CodePoint.Within, htest]
    | surrogate distance => simp [CodePoint.char?, CodePoint.Within]
  simp only [List.any_eq_true, hpoint]

theorem isSymbol_iff {point : CodePoint} :
    isSymbol point = true ↔
      ¬ point.Within 'A' 'Z' ∧ ¬ point.Within 'a' 'z' ∧ ¬ point.Within '0' '9' := by
  cases point with
  | char c =>
      simp [isSymbol, CodePoint.char?, CodePoint.Within, Char.isAlphanum, Char.isAlpha,
        Char.isUpper, Char.isLower, Char.isDigit, Char.le_def, and_assoc, imp_iff_not_or]
  | surrogate distance => simp [isSymbol, CodePoint.char?, CodePoint.Within]

theorem isStrong_iff {password : LooseText} :
    password.IsStrong ↔ ¬ password.isEmpty = true ∧ ¬ password.length < minPasswordLength ∧
      (password.any (·.char?.any Char.isUpper) && password.any (·.char?.any Char.isDigit) &&
        password.any isSymbol) = true := by
  have hupper : ∀ c, Char.isUpper c = true ↔ 'A' ≤ c ∧ c ≤ 'Z' := by
    simp [Char.isUpper, Char.le_def]
  have hdigit : ∀ c, Char.isDigit c = true ↔ '0' ≤ c ∧ c ≤ '9' := by
    simp [Char.isDigit, Char.le_def]
  rw [Bool.and_eq_true, Bool.and_eq_true, any_char_iff hupper, any_char_iff hdigit,
    List.any_eq_true]
  simp only [isSymbol_iff, not_lt, minPasswordLength]
  constructor
  · intro hstrong
    refine ⟨?_, hstrong.long, ⟨hstrong.capital, hstrong.digit⟩, hstrong.symbol⟩
    obtain ⟨point, hpoint, -⟩ := hstrong.capital
    simpa using List.ne_nil_of_mem hpoint
  · rintro ⟨-, hlong, ⟨hcapital, hdigit⟩, hsymbol⟩
    exact ⟨hlong, hcapital, hdigit, hsymbol⟩

theorem checkPassword_eq_ok_iff {password : LooseText} :
    checkPassword password = .ok password ↔ password.IsStrong := by
  rw [isStrong_iff]
  unfold checkPassword
  split_ifs with hempty hshort hkinds
  · exact iff_of_false nofun fun hall => hall.1 hempty
  · exact iff_of_false nofun fun hall => hall.2.1 hshort
  · exact iff_of_true rfl ⟨hempty, hshort, hkinds⟩
  · exact iff_of_false nofun fun hall => hkinds hall.2.2

/-! ## The email -/

theorem hasInnerPoint_iff {domain : LooseText} :
    hasInnerPoint domain = true ↔
      ∃ host zone, host ≠ [] ∧ zone ≠ [] ∧ domain = host ++ .char '.' :: zone := by
  cases domain with
  | nil => simp [hasInnerPoint]
  | cons first rest =>
      rw [hasInnerPoint, List.contains_iff_mem, List.mem_iff_append]
      constructor
      · rintro ⟨front, back, hinner⟩
        have hrest : rest ≠ [] := by
          rintro rfl
          simp at hinner
        refine ⟨first :: front, back ++ [rest.getLast hrest], by simp, by simp, ?_⟩
        have hwhole := List.dropLast_append_getLast hrest
        rw [hinner] at hwhole
        simpa using hwhole.symm
      · rintro ⟨host, zone, hhost, hzone, hdomain⟩
        obtain ⟨start, host, rfl⟩ := List.exists_cons_of_ne_nil hhost
        obtain ⟨-, hrest⟩ := List.cons.inj hdomain
        refine ⟨host, zone.dropLast, ?_⟩
        rw [hrest, List.append_eq, List.dropLast_append_of_ne_nil (List.cons_ne_nil _ _),
          List.dropLast_cons_of_ne_nil hzone]

theorem any_isBlank_iff {text : LooseText} :
    (!text.any (·.char?.any isBlank)) = true ↔ ∀ c, .char c ∈ text → isBlank c = false := by
  rw [Bool.not_eq_true', List.any_eq_false]
  constructor
  · intro hall c hc
    simpa [CodePoint.char?] using hall (.char c) hc
  · intro hall point hpoint
    cases point with
    | char c => simpa [CodePoint.char?] using hall c hpoint
    | surrogate distance => simp [CodePoint.char?]

theorem looksLikeAddress_iff {text : LooseText} :
    looksLikeAddress text = true ↔ text.IsAddress := by
  unfold looksLikeAddress
  rw [Bool.and_eq_true, any_isBlank_iff]
  constructor
  · rintro ⟨hunbroken, hcut⟩
    cases hparts : cutFirst? (.char '@') text with
    | none => simp [hparts] at hcut
    | some parts =>
        obtain ⟨name, domain⟩ := parts
        obtain ⟨rfl, hname⟩ := cutFirst?_eq_some_iff.mp hparts
        simp only [hparts, Bool.and_eq_true, Bool.not_eq_true', List.isEmpty_eq_false_iff,
          hasInnerPoint_iff] at hcut
        obtain ⟨⟨hfilled, hdomain⟩, host, zone, hhost, hzone, rfl⟩ := hcut
        refine ⟨hunbroken, ?_, name, host, zone, hfilled, hhost, hzone, rfl⟩
        rw [List.count_append, List.count_cons_self, List.count_eq_zero.mpr hname,
          List.count_eq_zero.mpr (by simpa using hdomain)]
  · rintro ⟨hunbroken, hsingle, name, host, zone, hfilled, hhost, hzone, rfl⟩
    -- the one `@` is the one between the parts
    rw [List.count_append, List.count_cons_self] at hsingle
    have hname : .char '@' ∉ name := List.count_eq_zero.mp (by omega)
    have hdomain : .char '@' ∉ host ++ .char '.' :: zone := List.count_eq_zero.mp (by omega)
    have hpoint : hasInnerPoint (host ++ .char '.' :: zone) = true :=
      hasInnerPoint_iff.mpr ⟨host, zone, hhost, hzone, rfl⟩
    refine ⟨hunbroken, ?_⟩
    simp only [cutFirst?_eq_some_iff.mpr ⟨rfl, hname⟩, hpoint]
    simpa [hfilled] using hdomain

theorem dropLineFeed_of_isAddress {text : LooseText} (haddress : text.IsAddress) :
    dropLineFeed text = text := by
  refine if_neg fun hlast => ?_
  have hblank := haddress.unbroken '\n' (List.mem_of_getLast? hlast)
  exact absurd hblank (by decide)

theorem isAddress_dropLineFeed_iff {text : LooseText} :
    (dropLineFeed text).IsAddress ↔ text.PassesAsAddress := by
  constructor
  · intro haddress
    refine ⟨dropLineFeed text, haddress, ?_⟩
    unfold dropLineFeed
    split_ifs with hlast
    · obtain ⟨front, rfl⟩ := List.getLast?_eq_some_iff.mp hlast
      exact .inr (by simp)
    · exact .inl rfl
  · rintro ⟨address, haddress, rfl | rfl⟩
    · rwa [dropLineFeed_of_isAddress haddress]
    · simpa [dropLineFeed] using haddress

theorem checkEmail_eq_ok_iff {email : LooseText} :
    checkEmail email = .ok email ↔ email = [] ∨ email.PassesAsAddress := by
  have hpasses : (email.isEmpty || looksLikeAddress (dropLineFeed email)) = true ↔
      email = [] ∨ email.PassesAsAddress := by
    rw [Bool.or_eq_true, List.isEmpty_iff, looksLikeAddress_iff, isAddress_dropLineFeed_iff]
  unfold checkEmail
  rw [← hpasses]
  split_ifs with hgood
  · exact iff_of_true rfl hgood
  · exact iff_of_false nofun hgood

/-! ## The payload -/

variable {payload : Json} {credentials : Credentials}

/-- A payload is accepted exactly when it is an object with three texts, absent ones being empty, of
which the password is strong, the email is empty or passes as an address, and one of the names is
not empty.  The texts are kept as they are. -/
theorem payload_accepted_iff :
    ofJson payload = .ok credentials ↔
      ∃ form, payload = .object form ∧ credentials.GivenBy form ∧
        credentials.password.IsStrong ∧
        (credentials.email = [] ∨ credentials.email.PassesAsAddress) ∧
        (credentials.username ≠ [] ∨ credentials.email ≠ []) := by
  cases payload with
  | object form =>
      simp only [ofJson, ofFields_eq_ok_iff, checkEmail_eq_ok_iff, checkPassword_eq_ok_iff]
      constructor
      · rintro ⟨hgiven, hemail, hpassword, hnamed⟩
        exact ⟨form, rfl, hgiven, hpassword, hemail, hnamed⟩
      · rintro ⟨_, hform, hgiven, hpassword, hemail, hnamed⟩
        cases hform
        exact ⟨hgiven, hemail, hpassword, hnamed⟩
  | _ => simp [ofJson, Checked.fail]

/-- A line feed behind an address is taken for a part of the email. -/
theorem line_feed_behind_address_accepted :
    ¬ ∀ (fields : Json.Fields) (credentials : Credentials),
      ofJson (.object fields) = .ok credentials →
        credentials.email = [] ∨ credentials.email.IsAddress := by
  intro haccepted
  have hgiven : ofJson (.object [("email", .text "ada@example.org\n"),
      ("password", .text "SecurePass123!")]) =
        .ok ⟨"", "ada@example.org\n", "SecurePass123!"⟩ := by
    decide +kernel
  rcases haccepted _ _ hgiven with hempty | haddress
  · cases hempty
  · have hblank := haddress.unbroken '\n' (by decide +kernel)
    exact absurd hblank (by decide)

end Credentials
end Roster
