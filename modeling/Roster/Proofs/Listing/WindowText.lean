import Roster.Listing.Window
import Roster.Proofs.Outcome
import Mathlib.Tactic

/-!
# The grammar of page windows

The two texts of a window are numerals: an optional sign and decimal digits of ASCII, of any
length.  A numeral is read as the number that it denotes, and a number that needs more than 64 bits
is refused like a text that is no numeral.  Reading gives up on numerals of more than 4300 digits
before their numbers are known, so zeros in front count, and this failure is none that a bad query
is reported with.
-/

namespace Roster.Listing

/-! ### Numerals -/

/-- What an optional sign and digits stand for. -/
inductive Signed (digits : List Char) : List Char → Int → Prop where
  | unsigned : Signed digits digits (Nat.ofDigitChars 10 digits 0)
  | plus : Signed digits ('+' :: digits) (Nat.ofDigitChars 10 digits 0)
  | minus : Signed digits ('-' :: digits) (-(Nat.ofDigitChars 10 digits 0))

/-- The text has these digits and denotes the number. -/
structure Numeral (raw : String) (digits : List Char) (number : Int) : Prop where
  nonempty : digits ≠ []
  decimal : ∀ c ∈ digits, c.isDigit = true
  signed : Signed digits raw.toList number

def Denotes (raw : String) (number : Int) : Prop :=
  ∃ digits, Numeral raw digits number

/-- The text denotes a number of 64 bits in not too many digits. -/
def Reads (raw : String) (number : Int) : Prop :=
  ∃ digits, Numeral raw digits number ∧ digits.length ≤ maxIntegerDigits ∧
    fitsInt64 number = true

def TooLong (raw : String) : Prop :=
  ∃ digits number, Numeral raw digits number ∧ maxIntegerDigits < digits.length

/-- Why the text of a parameter is not read. -/
inductive Unread (parameter raw : String) : Error → Prop where
  | noNumeral (hnone : ∀ number, ¬ Denotes raw number) :
      Unread parameter raw (.notInteger parameter raw)
  | outOfRange {digits : List Char} {number : Int} (hnumeral : Numeral raw digits number)
      (hshort : digits.length ≤ maxIntegerDigits) (hfits : fitsInt64 number = false) :
      Unread parameter raw (.notInteger parameter raw)
  | tooLong {digits : List Char} {number : Int} (hnumeral : Numeral raw digits number)
      (hlong : maxIntegerDigits < digits.length) :
      Unread parameter raw (.tooManyDigits digits.length)

theorem natOfDigits_eq_ofDigitChars (digits : List Char) :
    natOfDigits 10 (digits.map fun c => c.toNat - 0x30) = Nat.ofDigitChars 10 digits 0 := by
  rw [Nat.ofDigitChars_eq_foldl]
  unfold natOfDigits
  rw [List.foldl_map]
  simp [Nat.mul_comm]

/-- A digit is no sign, so nothing is split from a text of digits. -/
theorem splitSign_of_digits {digits : List Char} (hdecimal : ∀ c ∈ digits, c.isDigit = true) :
    splitSign digits = (false, digits) := by
  unfold splitSign
  split
  · exact absurd (hdecimal '-' List.mem_cons_self) (by decide)
  · exact absurd (hdecimal '+' List.mem_cons_self) (by decide)
  · rfl

theorem Numeral.splitSign {raw : String} {digits : List Char} {number : Int}
    (hnumeral : Numeral raw digits number) :
    ∃ negative, splitSign raw.toList = (negative, digits) ∧
      number = applySign negative (Nat.ofDigitChars 10 digits 0) := by
  obtain ⟨-, hdecimal, hsigned⟩ := hnumeral
  generalize raw.toList = text at hsigned
  cases hsigned with
  | unsigned => exact ⟨false, splitSign_of_digits hdecimal, rfl⟩
  | plus => exact ⟨false, rfl, rfl⟩
  | minus => exact ⟨true, rfl, rfl⟩

theorem signed_splitSign (text : List Char) :
    Signed (splitSign text).2 text
      (applySign (splitSign text).1 (Nat.ofDigitChars 10 (splitSign text).2 0)) := by
  unfold splitSign
  split
  · exact .minus
  · exact .plus
  · exact .unsigned

theorem exists_numeral {raw : String} (hnonempty : (splitSign raw.toList).2 ≠ [])
    (hdecimal : ∀ c ∈ (splitSign raw.toList).2, c.isDigit = true) :
    ∃ number, Numeral raw (splitSign raw.toList).2 number :=
  ⟨_, hnonempty, hdecimal, signed_splitSign raw.toList⟩

/-! ### Reading a number -/

theorem readNumber_of_numeral {raw : String} {digits : List Char} {number : Int}
    (parameter : String) (hnumeral : Numeral raw digits number) :
    readNumber parameter raw =
      if maxIntegerDigits < digits.length then .error (.tooManyDigits digits.length)
      else if fitsInt64 number then .ok number
      else .error (.notInteger parameter raw) := by
  obtain ⟨negative, hsplit, rfl⟩ := hnumeral.splitSign
  have hdigits : (digits.isEmpty || !digits.all Char.isDigit) = false := by
    rw [Bool.or_eq_false_iff, Bool.not_eq_false', List.all_eq_true, List.isEmpty_eq_false_iff]
    exact ⟨hnumeral.nonempty, hnumeral.decimal⟩
  unfold readNumber
  simp only [hsplit, hdigits, Bool.false_eq_true, if_false, natOfDigits_eq_ofDigitChars]

theorem readNumber_of_no_numeral {raw : String} (parameter : String)
    (hnone : ∀ number, ¬ Denotes raw number) :
    readNumber parameter raw = .error (.notInteger parameter raw) := by
  have hdigits : ((splitSign raw.toList).2.isEmpty ||
      !(splitSign raw.toList).2.all Char.isDigit) = true := by
    by_contra hgood
    rw [Bool.not_eq_true, Bool.or_eq_false_iff, Bool.not_eq_false', List.all_eq_true,
      List.isEmpty_eq_false_iff] at hgood
    obtain ⟨number, hnumeral⟩ := exists_numeral hgood.1 hgood.2
    exact hnone number ⟨_, hnumeral⟩
  unfold readNumber
  simp only [hdigits, if_true]

theorem readNumber_of_reads {raw : String} {number : Int} (parameter : String)
    (hreads : Reads raw number) : readNumber parameter raw = .ok number := by
  obtain ⟨digits, hnumeral, hshort, hfits⟩ := hreads
  rw [readNumber_of_numeral parameter hnumeral, if_neg (Nat.not_lt.mpr hshort), if_pos hfits]

theorem readNumber_of_unread {parameter raw : String} {error : Error}
    (hunread : Unread parameter raw error) : readNumber parameter raw = .error error := by
  cases hunread with
  | noNumeral hnone => exact readNumber_of_no_numeral parameter hnone
  | outOfRange hnumeral hshort hfits =>
      rw [readNumber_of_numeral parameter hnumeral, if_neg (Nat.not_lt.mpr hshort), hfits,
        if_neg Bool.false_ne_true]
  | tooLong hnumeral hlong =>
      rw [readNumber_of_numeral parameter hnumeral, if_pos hlong]

theorem reads_or_unread (parameter raw : String) :
    (∃ number, Reads raw number) ∨ ∃ error, Unread parameter raw error := by
  by_cases hdenotes : ∃ number, Denotes raw number
  · obtain ⟨number, digits, hnumeral⟩ := hdenotes
    by_cases hlong : maxIntegerDigits < digits.length
    · exact .inr ⟨_, .tooLong hnumeral hlong⟩
    · cases hfits : fitsInt64 number with
      | true => exact .inl ⟨number, digits, hnumeral, Nat.not_lt.mp hlong, hfits⟩
      | false => exact .inr ⟨_, .outOfRange hnumeral (Nat.not_lt.mp hlong) hfits⟩
  · exact .inr ⟨_, .noNumeral (not_exists.mp hdenotes)⟩

theorem unread_escapes_iff (parameter raw : String) :
    (∃ error, Unread parameter raw error ∧ error.isQueryFault = false) ↔ TooLong raw := by
  constructor
  · rintro ⟨error, hunread, hescapes⟩
    cases hunread with
    | noNumeral hnone => cases hescapes
    | outOfRange hnumeral hshort hfits => cases hescapes
    | tooLong hnumeral hlong => exact ⟨_, _, hnumeral, hlong⟩
  · rintro ⟨digits, number, hnumeral, hlong⟩
    exact ⟨_, .tooLong hnumeral hlong, rfl⟩

/-! ### Windows -/

namespace Window

structure IsAllowed (window : Window) : Prop where
  page : 1 ≤ window.page
  pageSize : unlimited ≤ window.pageSize
  offset : 0 < window.pageSize → window.offset ≤ maxInt64

/-- Why two texts give no window, in the order of the checks. -/
inductive Refused (page pageSize : String) : Error → Prop where
  | unreadPage {error : Error} (hpage : Unread "page" page error) : Refused page pageSize error
  | unreadSize {number : Int} {error : Error} (hpage : Reads page number)
      (hsize : Unread "pageSize" pageSize error) : Refused page pageSize error
  | page {window : Window} (hpage : Reads page window.page)
      (hsize : Reads pageSize window.pageSize) (hlow : window.page < 1) :
      Refused page pageSize (.invalid "page")
  | pageSize {window : Window} (hpage : Reads page window.page)
      (hsize : Reads pageSize window.pageSize) (hfirst : 1 ≤ window.page)
      (hlow : window.pageSize < unlimited) : Refused page pageSize (.invalid "pageSize")
  | offset {window : Window} (hpage : Reads page window.page)
      (hsize : Reads pageSize window.pageSize) (hfirst : 1 ≤ window.page)
      (hpositive : 0 < window.pageSize) (hhigh : maxInt64 < window.offset) :
      Refused page pageSize (.invalid "page")

variable {rawPage rawPageSize : Option String}

/-- The checks that follow the reading of both numbers. -/
theorem parse_of_reads {window : Window} (hpage : Reads (rawPage.getD "1") window.page)
    (hsize : Reads (rawPageSize.getD "-1") window.pageSize) :
    parse rawPage rawPageSize =
      if window.page < 1 then .error (.invalid "page")
      else if window.pageSize < unlimited then .error (.invalid "pageSize")
      else if 0 < window.pageSize ∧ maxInt64 < window.offset then .error (.invalid "page")
      else .ok window := by
  unfold parse
  rw [readNumber_of_reads "page" hpage, readNumber_of_reads "pageSize" hsize]
  simp only [Outcome.ok_bind]
  by_cases hlow : window.page < 1
  · rw [if_pos hlow, if_pos hlow]
    rfl
  · rw [if_neg hlow, if_neg hlow]
    by_cases hsmall : window.pageSize < unlimited
    · rw [if_pos hsmall, if_pos hsmall]
      rfl
    · rw [if_neg hsmall, if_neg hsmall]
      by_cases hhigh : 0 < window.pageSize ∧ maxInt64 < window.offset
      · rw [if_pos hhigh]
        exact if_pos hhigh
      · rw [if_neg hhigh]
        exact if_neg hhigh

theorem parse_of_refused {error : Error}
    (hrefused : Refused (rawPage.getD "1") (rawPageSize.getD "-1") error) :
    parse rawPage rawPageSize = .error error := by
  cases hrefused with
  | unreadPage hpage =>
      unfold parse
      rw [readNumber_of_unread hpage]
      rfl
  | unreadSize hpage hsize =>
      unfold parse
      rw [readNumber_of_reads "page" hpage, readNumber_of_unread hsize]
      rfl
  | page hpage hsize hlow =>
      rw [parse_of_reads hpage hsize, if_pos hlow]
  | pageSize hpage hsize hfirst hlow =>
      rw [parse_of_reads hpage hsize, if_neg (not_lt.mpr hfirst), if_pos hlow]
  | offset hpage hsize hfirst hpositive hhigh =>
      have hlimited : ¬ _ < unlimited := not_lt.mpr
        (le_trans (by decide : unlimited ≤ 0) (le_of_lt hpositive))
      rw [parse_of_reads hpage hsize, if_neg (not_lt.mpr hfirst), if_neg hlimited,
        if_pos ⟨hpositive, hhigh⟩]

theorem parse_of_allowed {window : Window} (hpage : Reads (rawPage.getD "1") window.page)
    (hsize : Reads (rawPageSize.getD "-1") window.pageSize) (hallowed : window.IsAllowed) :
    parse rawPage rawPageSize = .ok window := by
  have hoffset : ¬ (0 < window.pageSize ∧ maxInt64 < window.offset) := by
    rintro ⟨hpositive, hhigh⟩
    exact not_lt.mpr (hallowed.offset hpositive) hhigh
  rw [parse_of_reads hpage hsize, if_neg (not_lt.mpr hallowed.page),
    if_neg (not_lt.mpr hallowed.pageSize), if_neg hoffset]

theorem allowed_or_refused (page pageSize : String) :
    (∃ window : Window, Reads page window.page ∧ Reads pageSize window.pageSize ∧
        window.IsAllowed) ∨ ∃ error, Refused page pageSize error := by
  rcases reads_or_unread "page" page with ⟨first, hpage⟩ | ⟨error, hpage⟩
  · rcases reads_or_unread "pageSize" pageSize with ⟨size, hsize⟩ | ⟨error, hsize⟩
    · obtain ⟨window, rfl, rfl⟩ : ∃ window : Window, window.page = first ∧ window.pageSize = size :=
        ⟨⟨first, size⟩, rfl, rfl⟩
      by_cases hfirst : 1 ≤ window.page
      · by_cases hlimited : unlimited ≤ window.pageSize
        · by_cases hoffset : 0 < window.pageSize → window.offset ≤ maxInt64
          · exact .inl ⟨window, hpage, hsize, hfirst, hlimited, hoffset⟩
          · obtain ⟨hpositive, hhigh⟩ := Classical.not_imp.mp hoffset
            exact .inr ⟨_, .offset hpage hsize hfirst hpositive (not_le.mp hhigh)⟩
        · exact .inr ⟨_, .pageSize hpage hsize hfirst (not_le.mp hlimited)⟩
      · exact .inr ⟨_, .page hpage hsize (not_le.mp hfirst)⟩
    · exact .inr ⟨error, .unreadSize hpage hsize⟩
  · exact .inr ⟨error, .unreadPage hpage⟩

theorem parse_eq_ok_iff {window : Window} :
    parse rawPage rawPageSize = .ok window ↔
      Reads (rawPage.getD "1") window.page ∧ Reads (rawPageSize.getD "-1") window.pageSize ∧
        window.IsAllowed :=
  Outcome.eq_ok_iff_of_causes
    (fun _ ⟨hpage, hsize, hallowed⟩ => parse_of_allowed hpage hsize hallowed)
    (fun _ => parse_of_refused) (allowed_or_refused _ _)

theorem parse_eq_error_iff {error : Error} :
    parse rawPage rawPageSize = .error error ↔
      Refused (rawPage.getD "1") (rawPageSize.getD "-1") error :=
  Outcome.eq_error_iff_of_causes
    (fun _ ⟨hpage, hsize, hallowed⟩ => parse_of_allowed hpage hsize hallowed)
    (fun _ => parse_of_refused) (allowed_or_refused _ _)

/-- The row offset of an allowed window fits 64 bits, also without a limit. -/
theorem fitsInt64_offset {window : Window} (hpage : fitsInt64 window.page = true)
    (hallowed : window.IsAllowed) : fitsInt64 window.offset = true := by
  obtain ⟨hfirst, hlimited, hoffset⟩ := hallowed
  simp only [fitsInt64, Bool.and_eq_true, decide_eq_true_eq] at hpage ⊢
  -- Only a positive page size is held to the bound on the offset.  Without a limit the offset is
  -- `1 - page`, which the bound on the page keeps in range.
  rcases Int.lt_or_le 0 window.pageSize with hpositive | hnegative
  · have hleast : 0 ≤ window.offset := Int.mul_nonneg (by omega) hpositive.le
    exact ⟨le_trans (by decide) hleast, hoffset hpositive⟩
  · unfold unlimited at hlimited
    unfold minInt64 maxInt64 at hpage ⊢
    rcases (by omega : window.pageSize = 0 ∨ window.pageSize = -1) with hnone | hunlimited
    · simp [offset, hnone]
    · simp only [offset, hunlimited]
      omega

theorem refused_escapes_iff {page pageSize : String} :
    (∃ error, Refused page pageSize error ∧ error.isQueryFault = false) ↔
      TooLong page ∨ (∃ number, Reads page number) ∧ TooLong pageSize := by
  constructor
  · rintro ⟨error, hrefused, hescapes⟩
    cases hrefused with
    | unreadPage hpage => exact .inl ((unread_escapes_iff "page" page).mp ⟨error, hpage, hescapes⟩)
    | unreadSize hpage hsize =>
        have hlong := (unread_escapes_iff "pageSize" pageSize).mp ⟨error, hsize, hescapes⟩
        exact .inr ⟨⟨_, hpage⟩, hlong⟩
    | page hpage hsize hlow => cases hescapes
    | pageSize hpage hsize hfirst hlow => cases hescapes
    | offset hpage hsize hfirst hpositive hhigh => cases hescapes
  · rintro (hlong | ⟨⟨number, hpage⟩, hlong⟩)
    · obtain ⟨error, hunread, hescapes⟩ := (unread_escapes_iff "page" page).mpr hlong
      exact ⟨error, .unreadPage hunread, hescapes⟩
    · obtain ⟨error, hunread, hescapes⟩ := (unread_escapes_iff "pageSize" pageSize).mpr hlong
      exact ⟨error, .unreadSize hpage hunread, hescapes⟩

/-- Two texts give a window exactly when both are read and the window is allowed, and every refusal
has its cause in the order of the checks.  The only refusal that is not reported as a bad query is
that of a numeral with too many digits. -/
theorem parse_accepts_exactly (rawPage rawPageSize : Option String) :
    let page := rawPage.getD "1"
    let pageSize := rawPageSize.getD "-1"
    (∀ window, parse rawPage rawPageSize = .ok window ↔
        Reads page window.page ∧ Reads pageSize window.pageSize ∧ window.IsAllowed) ∧
      (∀ error, parse rawPage rawPageSize = .error error ↔ Refused page pageSize error) ∧
      ((∃ error, parse rawPage rawPageSize = .error error ∧ error.isQueryFault = false) ↔
        TooLong page ∨ (∃ number, Reads page number) ∧ TooLong pageSize) := by
  refine ⟨fun window => parse_eq_ok_iff, fun error => parse_eq_error_iff, ?_⟩
  simp only [parse_eq_error_iff]
  exact refused_escapes_iff

/-! ### Numerals that are too long -/

def paddedDigits : List Char :=
  List.replicate maxIntegerDigits '0' ++ ['1']

def paddedOne : String :=
  String.ofList paddedDigits

theorem numeral_paddedOne : Numeral paddedOne paddedDigits 1 := by
  have hvalue : Nat.ofDigitChars 10 paddedDigits 0 = 1 := by
    unfold paddedDigits
    rw [Nat.ofDigitChars_append, Nat.ofDigitChars_replicate_zero, Nat.mul_zero]
    rfl
  have hsigned : Signed paddedDigits paddedDigits (Nat.ofDigitChars 10 paddedDigits 0) := .unsigned
  rw [hvalue] at hsigned
  refine ⟨by simp [paddedDigits], ?_, ?_⟩
  · intro c hc
    rcases List.mem_append.mp hc with hzero | hone
    · rw [List.eq_of_mem_replicate hzero]
      rfl
    · rw [List.mem_singleton.mp hone]
      rfl
  · unfold paddedOne
    rw [String.toList_ofList]
    exact hsigned

/-- A one with many zeros in front denotes the first page, yet it is refused, and not as a bad
query. -/
theorem padded_page_escapes :
    ¬ (∀ (rawPage rawPageSize : Option String) (window : Window),
        Denotes (rawPage.getD "1") window.page → Denotes (rawPageSize.getD "-1") window.pageSize →
          fitsInt64 window.page = true → fitsInt64 window.pageSize = true → window.IsAllowed →
            parse rawPage rawPageSize = .ok window) ∧
      ¬ ∀ (rawPage rawPageSize : Option String) (error : Error),
        parse rawPage rawPageSize = .error error → error.isQueryFault = true := by
  have hlong : maxIntegerDigits < paddedDigits.length := by
    simp [paddedDigits]
  have hparse : parse (some paddedOne) none = .error (.tooManyDigits _) :=
    parse_of_refused (.unreadPage (.tooLong numeral_paddedOne hlong))
  constructor
  · intro haccepts
    have hunlimited : Denotes "-1" (-1) := by
      refine ⟨['1'], List.cons_ne_nil _ _, ?_, .minus⟩
      intro c hc
      rw [List.mem_singleton.mp hc]
      rfl
    have hwindow := haccepts (some paddedOne) none {} ⟨_, numeral_paddedOne⟩ hunlimited rfl rfl
      ⟨by decide, by decide, by decide⟩
    rw [hparse] at hwindow
    cases hwindow
  · intro hqueries
    have hfault := hqueries (some paddedOne) none _ hparse
    cases hfault

end Window
end Roster.Listing
