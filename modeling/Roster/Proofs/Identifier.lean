import Roster.Identifier
import Roster.Proofs.Json.Numbers
import Mathlib.Data.List.TakeWhile
import Mathlib.Data.Nat.Digits.Lemmas
import Mathlib.Tactic

/-!
# Canonical identifiers

A UUID has many spellings, and one of them is canonical: five groups of lower-case hexadecimal
digits with hyphens between them.  Reading a canonical spelling takes only the hyphens from it, so
its digits are those of the number that it denotes.  Hence two canonical spellings of one UUID are
the same text.  The identifiers that the service gives out are canonical.
-/

namespace Roster.Identifier

def canonicalDigits : List Char :=
  "0123456789abcdef".toList

structure IsCanonical (text : String) : Prop where
  groups : (pieces '-' text.toList).map List.length = [8, 4, 4, 4, 12]
  digits : ∀ group ∈ pieces '-' text.toList, ∀ c ∈ group, c ∈ canonicalDigits

theorem isCanonical_iff {text : String} :
    IsCanonical text ↔
      (pieces '-' text.toList).map List.length = [8, 4, 4, 4, 12] ∧
        ((pieces '-' text.toList).all fun group => group.all canonicalDigits.contains) = true := by
  have hdigits : ((pieces '-' text.toList).all fun group => group.all canonicalDigits.contains) =
      true ↔ ∀ group ∈ pieces '-' text.toList, ∀ c ∈ group, c ∈ canonicalDigits := by
    simp only [List.all_eq_true, List.contains_iff_mem]
  rw [hdigits]
  exact ⟨fun hcanonical => ⟨hcanonical.groups, hcanonical.digits⟩,
    fun hcanonical => ⟨hcanonical.1, hcanonical.2⟩⟩

instance (text : String) : Decidable (IsCanonical text) :=
  decidable_of_iff' _ isCanonical_iff

/-! ## Reading hexadecimal digits -/

theorem forall_canonicalDigits {p : Char → Prop} [DecidablePred p]
    (hall : (canonicalDigits.all fun c => decide (p c)) = true) : ∀ c ∈ canonicalDigits, p c := by
  simpa only [List.all_eq_true, decide_eq_true_eq] using hall

theorem plainDigit_eq_self : ∀ c ∈ canonicalDigits, plainDigit c = c :=
  forall_canonicalDigits (by decide +kernel)

theorem hexDigit?_eq_idxOf :
    ∀ c ∈ canonicalDigits, hexDigit? c = some (canonicalDigits.idxOf c) :=
  forall_canonicalDigits (by decide +kernel)

theorem hexDigit_idxOf : ∀ c ∈ canonicalDigits, hexDigit (canonicalDigits.idxOf c) = c :=
  forall_canonicalDigits (by decide +kernel)

theorem isWhiteSpace_eq_false : ∀ c ∈ canonicalDigits, isWhiteSpace c = false :=
  forall_canonicalDigits (by decide +kernel)

theorem dropWhile_eq_self {drop : Char → Bool} {text : List Char}
    (hkept : ∀ c ∈ text, drop c = false) : text.dropWhile drop = text := by
  rw [List.dropWhile_eq_self_iff]
  intro hlength
  rw [hkept _ (List.getElem_mem hlength)]
  exact Bool.false_ne_true

theorem digitRun?_eq_some {value? : Char → Option Nat} {value : Char → Nat} {digits : List Char}
    (hnonempty : digits ≠ []) (hjoined : '_' ∉ digits)
    (hvalue : ∀ c ∈ digits, value? c = some (value c)) :
    digitRun? value? digits = some (digits.map value) := by
  induction digits with
  | nil => exact absurd rfl hnonempty
  | cons c digits ih =>
      have hc := hvalue c List.mem_cons_self
      cases digits with
      | nil => simp [digitRun?, hc]
      | cons next digits =>
          have hnext : next ≠ '_' := fun heq => hjoined (by simp [heq])
          have hrest := ih (by simp) (fun hmem => hjoined (List.mem_cons_of_mem c hmem))
            fun d hd => hvalue d (List.mem_cons_of_mem c hd)
          rw [digitRun?.eq_4 _ _ _ _ fun heq => absurd heq hnext]
          simp [hc, hrest]

theorem leadingDigits_eq {value? : Char → Option Nat} {value : Char → Nat} {digits : List Char}
    (hnonempty : digits ≠ []) (hjoined : '_' ∉ digits)
    (hvalue : ∀ c ∈ digits, value? c = some (value c)) :
    leadingDigits value? digits = (some (digits.map value), []) := by
  have hbelongs : ∀ c ∈ digits, (decide (c = '_') || (value? c).isSome) = true := by
    intro c hc
    simp [hvalue c hc]
  unfold leadingDigits
  simp only
  rw [List.takeWhile_eq_self_iff.mpr hbelongs, List.dropWhile_eq_nil_iff.mpr hbelongs,
    digitRun?_eq_some hnonempty hjoined hvalue]

variable {digits : List Char}

/-- The digits have neither white space nor a sign in front. -/
theorem splitSign_canonicalDigits (hdigits : ∀ c ∈ digits, c ∈ canonicalDigits) :
    splitSign (digits.dropWhile isWhiteSpace) = (false, digits) := by
  rw [dropWhile_eq_self fun c hc => isWhiteSpace_eq_false c (hdigits c hc)]
  unfold splitSign
  split
  · exact absurd (hdigits '-' List.mem_cons_self) (by decide)
  · exact absurd (hdigits '+' List.mem_cons_self) (by decide)
  · rfl

theorem dropBaseMark_canonicalDigits (hdigits : ∀ c ∈ digits, c ∈ canonicalDigits) :
    dropBaseMark digits = digits := by
  unfold dropBaseMark
  split
  case h_1 mark rest =>
    have hmark : ¬ (mark = 'x' ∨ mark = 'X') := by
      rintro (rfl | rfl)
      · exact absurd (hdigits 'x' (by simp)) (by decide)
      · exact absurd (hdigits 'X' (by simp)) (by decide)
    rw [if_neg (by simpa using hmark)]
  case h_2 => rfl

theorem readHexadecimal?_canonicalDigits (hnonempty : digits ≠ [])
    (hdigits : ∀ c ∈ digits, c ∈ canonicalDigits) :
    readHexadecimal? digits =
      some (natOfDigits 16 (digits.map canonicalDigits.idxOf) : Nat) := by
  have hplain : digits.map plainDigit = digits := by
    conv_rhs => rw [← List.map_id digits]
    exact List.map_congr_left fun c hc => plainDigit_eq_self c (hdigits c hc)
  have hjoined : '_' ∉ digits := fun hmem => absurd (hdigits '_' hmem) (by decide)
  unfold readHexadecimal?
  rw [hplain, splitSign_canonicalDigits hdigits]
  simp only
  rw [dropBaseMark_canonicalDigits hdigits, leadingDigits_eq hnonempty hjoined fun c hc =>
    hexDigit?_eq_idxOf c (hdigits c hc)]
  rfl

/-- Digits are read from the left, and Mathlib's lists of digits begin at the right. -/
theorem natOfDigits_eq_ofDigits (base : Nat) (values : List Nat) :
    natOfDigits base values = Nat.ofDigits base values.reverse := by
  rw [Nat.ofDigits_eq_foldr, List.foldr_reverse]
  unfold natOfDigits
  simp only [Nat.cast_id, Nat.mul_comm, Nat.add_comm]

theorem map_hexDigit_idxOf (hdigits : ∀ c ∈ digits, c ∈ canonicalDigits) :
    (digits.map canonicalDigits.idxOf).map hexDigit = digits := by
  rw [List.map_map]
  conv_rhs => rw [← List.map_id digits]
  exact List.map_congr_left fun c hc => hexDigit_idxOf c (hdigits c hc)

theorem natOfDigits_canonicalDigits_inj {first second : List Char}
    (hlength : first.length = second.length)
    (hfirst : ∀ c ∈ first, c ∈ canonicalDigits) (hsecond : ∀ c ∈ second, c ∈ canonicalDigits)
    (hsame : natOfDigits 16 (first.map canonicalDigits.idxOf) =
      natOfDigits 16 (second.map canonicalDigits.idxOf)) :
    first = second := by
  have hbound : ∀ {digits : List Char}, (∀ c ∈ digits, c ∈ canonicalDigits) →
      ∀ value ∈ (digits.map canonicalDigits.idxOf).reverse, value < 16 := by
    intro digits hdigits value hvalue
    obtain ⟨c, hc, rfl⟩ := List.mem_map.mp (List.mem_reverse.mp hvalue)
    exact List.idxOf_lt_length_of_mem (hdigits c hc)
  rw [natOfDigits_eq_ofDigits, natOfDigits_eq_ofDigits] at hsame
  have hreversed := Nat.ofDigits_inj_of_len_eq (by decide) (by simpa using hlength)
    (hbound hfirst) (hbound hsecond) hsame
  have hvalues := List.reverse_inj.mp hreversed
  rw [← map_hexDigit_idxOf hfirst, hvalues, map_hexDigit_idxOf hsecond]

/-! ## Reading a canonical spelling -/

/-- Removing the separators leaves the pieces. -/
theorem filter_eq_flatten_pieces (separator : Char) (text : List Char) :
    text.filter (· ≠ separator) = (pieces separator text).flatten := by
  induction text with
  | nil => rfl
  | cons c rest ih =>
      unfold pieces
      cases hp : pieces separator rest with
      | nil => exact absurd hp (pieces_ne_nil separator rest)
      | cons first others =>
          rw [hp] at ih
          by_cases hc : c = separator
          · simpa [hc] using ih
          · simpa [hc] using ih

/-- A text without the first character of a pattern has no occurrence of it. -/
theorem eraseFrom_of_head_not_mem {head : Char} (pattern : List Char) {text : List Char}
    (habsent : head ∉ text) : eraseFrom (head :: pattern) 0 text = text := by
  induction text with
  | nil => rfl
  | cons c rest ih =>
      have hc : head ≠ c := fun heq => habsent (by simp [heq])
      have hrest := ih fun hmem => habsent (List.mem_cons_of_mem c hmem)
      simp [eraseFrom, hc, hrest]

theorem trimBy_eq_self {drop : Char → Bool} {text : List Char}
    (hkept : ∀ c ∈ text, drop c = false) : trimBy drop text = text := by
  unfold trimBy
  rw [dropWhile_eq_self hkept, dropWhile_eq_self fun c hc => hkept c (List.mem_reverse.mp hc),
    List.reverse_reverse]

namespace IsCanonical

variable {text other : String}

def number (text : String) : Nat :=
  natOfDigits 16 ((pieces '-' text.toList).flatten.map canonicalDigits.idxOf)

theorem mem_canonicalDigits (hcanonical : IsCanonical text) :
    ∀ c ∈ (pieces '-' text.toList).flatten, c ∈ canonicalDigits := by
  intro c hc
  obtain ⟨group, hgroup, hc⟩ := List.mem_flatten.mp hc
  exact hcanonical.digits group hgroup c hc

theorem not_mem (hcanonical : IsCanonical text) {c : Char} (hhyphen : c ≠ '-')
    (hdigit : c ∉ canonicalDigits) : c ∉ text.toList := by
  intro hc
  apply hdigit
  apply hcanonical.mem_canonicalDigits
  rw [← filter_eq_flatten_pieces]
  exact List.mem_filter.mpr ⟨hc, by simpa using hhyphen⟩

theorem bare_eq (hcanonical : IsCanonical text) :
    bare text = (pieces '-' text.toList).flatten := by
  have hurn : erase "urn:" text.toList = text.toList :=
    eraseFrom_of_head_not_mem _ (hcanonical.not_mem (by decide) (by decide))
  have huuid : erase "uuid:" text.toList = text.toList :=
    eraseFrom_of_head_not_mem _ (hcanonical.not_mem (by decide) (by decide))
  have hbraces : ∀ c ∈ text.toList, (decide (c = '\x7b') || decide (c = '\x7d')) = false := by
    intro c hc
    rw [Bool.or_eq_false_iff, decide_eq_false_iff_not, decide_eq_false_iff_not]
    constructor
    · rintro rfl
      exact hcanonical.not_mem (by decide) (by decide) hc
    · rintro rfl
      exact hcanonical.not_mem (by decide) (by decide) hc
  unfold bare
  simp only [hurn, huuid]
  rw [trimBy_eq_self hbraces, filter_eq_flatten_pieces]

theorem length_flatten (hcanonical : IsCanonical text) :
    (pieces '-' text.toList).flatten.length = 32 := by
  rw [List.length_flatten, hcanonical.groups]
  rfl

theorem denotes?_eq (hcanonical : IsCanonical text) :
    denotes? text = some (number text) := by
  have hnonempty : (pieces '-' text.toList).flatten ≠ [] := by
    intro hempty
    have hlength := hcanonical.length_flatten
    rw [hempty] at hlength
    cases hlength
  unfold denotes?
  rw [hcanonical.bare_eq, if_pos hcanonical.length_flatten,
    readHexadecimal?_canonicalDigits hnonempty hcanonical.mem_canonicalDigits]
  simp [number]

/-- A UUID has only one canonical spelling. -/
theorem unique (hcanonical : IsCanonical text) (hother : IsCanonical other)
    (hsame : denotes? text = denotes? other) : text = other := by
  rw [hcanonical.denotes?_eq, hother.denotes?_eq, Option.some.injEq] at hsame
  have hflatten := natOfDigits_canonicalDigits_inj
    (hcanonical.length_flatten.trans hother.length_flatten.symm)
    hcanonical.mem_canonicalDigits hother.mem_canonicalDigits hsame
  have hpieces : pieces '-' text.toList = pieces '-' other.toList :=
    List.eq_iff_flatten_eq.mpr ⟨hflatten, hcanonical.groups.trans hother.groups.symm⟩
  apply String.toList_inj.mp
  rw [← joinPieces_pieces '-' text.toList, hpieces, joinPieces_pieces]

end IsCanonical

/-! ## Identifiers that are given out -/

theorem length_padded {width number : Nat} (hwidth : 0 < width) (hnumber : number < 10 ^ width) :
    (padded width number).toList.length = width := by
  have hdigits : (natText number).length ≤ width := Nat.toDigits_length _ _ _ hwidth hnumber
  unfold padded
  simp only [String.toList_ofList, List.length_append, List.length_replicate]
  omega

theorem isDigit_of_mem_padded {width number : Nat} {c : Char}
    (hc : c ∈ (padded width number).toList) : c.isDigit = true := by
  unfold padded at hc
  simp only [String.toList_ofList, List.mem_append, List.mem_replicate] at hc
  rcases hc with ⟨-, rfl⟩ | hc
  · decide
  · exact isDigit_of_mem_natText hc

theorem mem_canonicalDigits_of_isDigit {c : Char} (hdigit : c.isDigit = true) :
    c ∈ canonicalDigits := by
  have hrange : 48 ≤ c.toNat ∧ c.toNat ≤ 57 := by
    simp only [Char.isDigit, Bool.and_eq_true, decide_eq_true_eq] at hdigit
    exact ⟨UInt32.le_iff_toNat_le.mp hdigit.1, UInt32.le_iff_toNat_le.mp hdigit.2⟩
  obtain ⟨hlow, hhigh⟩ := hrange
  rw [← Char.ofNat_toNat c]
  interval_cases c.toNat <;> decide

/-- The first `10 ^ 12` identifiers do not outgrow the padding of their last group. -/
theorem isCanonical_generated {number : Nat} (hnumber : number < 10 ^ 12) :
    IsCanonical (generated number) := by
  have hhyphen : '-' ∉ (padded 12 number).toList := fun hmem =>
    absurd (isDigit_of_mem_padded hmem) (by decide)
  have hlength : (padded 12 number).toList.length = 12 :=
    length_padded (by decide) hnumber
  have hfront : ((pieces '-' "00000000-0000-4000-8000".toList).all fun group =>
      group.all canonicalDigits.contains) = true := by
    decide +kernel
  have hpieces : pieces '-' (generated number).toList =
      pieces '-' "00000000-0000-4000-8000".toList ++ [(padded 12 number).toList] := by
    have hend : "00000000-0000-4000-8000-".toList =
        "00000000-0000-4000-8000".toList ++ ['-'] := by
      decide +kernel
    unfold generated
    rw [String.toList_append, hend, List.append_assoc, List.singleton_append, pieces_append,
      pieces_of_not_mem hhyphen]
  have hlast : (padded 12 number).toList.all canonicalDigits.contains = true := by
    rw [List.all_eq_true]
    intro c hc
    exact List.contains_iff_mem.mpr (mem_canonicalDigits_of_isDigit (isDigit_of_mem_padded hc))
  rw [isCanonical_iff, hpieces, List.map_append, List.map_singleton, hlength, List.all_append,
    hfront, List.all_cons, hlast]
  decide +kernel

end Roster.Identifier
