import Roster.Json.Token
import Mathlib.Data.List.TakeWhile
import Mathlib.Tactic

/-!
# Written integers are cut off again

An integer is written as an optional minus sign and its decimal digits, of which the first is a
zero only if it is the only one.  Followed by a mark, it is the longest number at the beginning of
a text, and it has neither a fraction nor an exponent.
-/

namespace Roster

/-! ## Digits -/

theorem isDigit_of_mem_natText {number : Nat} {c : Char} (hmem : c ∈ natText number) :
    c.isDigit = true :=
  Nat.isDigit_of_mem_toDigits (by decide) (by decide) hmem

theorem natText_ne_nil (number : Nat) : natText number ≠ [] :=
  Nat.toDigits_ne_nil

theorem decimalValue_natText (number : Nat) : Json.decimalValue (natText number) = number := by
  have hdigits := Nat.ofDigitChars_ten_toDigits (n := number)
  rw [Nat.ofDigitChars_eq_foldl] at hdigits
  unfold Json.decimalValue natOfDigits natText
  rw [List.foldl_map]
  simpa [Nat.mul_comm] using hdigits

theorem natText_eq_of_head? {number : Nat} (hzero : (natText number).head? = some '0') :
    natText number = ['0'] := by
  unfold natText at hzero ⊢
  induction number using Nat.strongRecOn with
  | ind number ih =>
      by_cases hsmall : number < 10
      · rw [Nat.toDigits_of_lt_base hsmall] at hzero ⊢
        simpa using hzero
      · rw [Nat.toDigits_of_base_le (by decide) (by omega)] at hzero
        have hhead : (Nat.toDigits 10 (number / 10)).head? = some '0' := by
          rw [List.head?_append] at hzero
          cases hfirst : (Nat.toDigits 10 (number / 10)).head? with
          | none => exact absurd (List.head?_eq_none_iff.mp hfirst) Nat.toDigits_ne_nil
          | some c =>
              rw [hfirst] at hzero
              exact hzero
        have hsingle := ih (number / 10) (by omega) hhead
        have hvalue := Nat.ofDigitChars_ten_toDigits (n := number / 10)
        rw [hsingle] at hvalue
        have hquotient : number / 10 = 0 := hvalue.symm
        omega

theorem toList_intText (number : Int) :
    (intText number).toList =
      if number < 0 then '-' :: natText number.natAbs else natText number.natAbs := by
  unfold intText
  split_ifs
  · rw [String.toList_ofList]
  · rw [String.toList_ofList]

theorem applySign_natAbs (number : Int) :
    applySign (decide (number < 0)) number.natAbs = number := by
  unfold applySign
  by_cases hnegative : number < 0
  · rw [decide_eq_true hnegative, if_pos rfl]
    omega
  · rw [decide_eq_false hnegative, if_neg Bool.false_ne_true]
    omega

namespace Json

/-! ## Numbers -/

theorem takeWhile_isDigit_natText (number : Nat) :
    (natText number).takeWhile Char.isDigit = natText number := by
  rw [List.takeWhile_eq_self_iff]
  intro c hc
  exact isDigit_of_mem_natText hc

theorem whole_natText (number : Nat) :
    (if (natText number).head? = some '0' then ['0'] else natText number) =
      natText number := by
  by_cases hzero : (natText number).head? = some '0'
  · rw [if_pos hzero, natText_eq_of_head? hzero]
  · rw [if_neg hzero]

theorem numberParts?_natText (number : Nat) :
    numberParts? (natText number) = some {
      negative := false
      whole := natText number
      fraction := none
      exponent := none
      width := (natText number).length } := by
  have hsign : ∀ rest, natText number ≠ '-' :: rest := by
    intro rest hminus
    have hdigit : ('-').isDigit = true := by
      apply isDigit_of_mem_natText
      rw [hminus]
      exact List.mem_cons_self
    cases hdigit
  have hempty : (natText number).isEmpty = false :=
    List.isEmpty_eq_false_iff.mpr (natText_ne_nil number)
  unfold numberParts?
  split
  next negative body hpair =>
    have hbody : negative = false ∧ body = natText number := by
      split at hpair
      next rest hminus => exact absurd hminus (hsign rest)
      next _ =>
        obtain ⟨hnegative, hbody⟩ := Prod.mk.inj hpair
        exact ⟨hnegative.symm, hbody.symm⟩
    obtain ⟨rfl, rfl⟩ := hbody
    simp only [takeWhile_isDigit_natText, whole_natText, hempty, List.drop_length]
    simp [fractionPart?, exponentPart?]

theorem numberParts?_negative (number : Nat) :
    numberParts? ('-' :: natText number) = some {
      negative := true
      whole := natText number
      fraction := none
      exponent := none
      width := (natText number).length + 1 } := by
  have hempty : (natText number).isEmpty = false :=
    List.isEmpty_eq_false_iff.mpr (natText_ne_nil number)
  unfold numberParts?
  simp only [takeWhile_isDigit_natText, whole_natText, hempty, List.drop_length]
  simp [fractionPart?, exponentPart?, Nat.add_comm]

theorem numberParts?_intText (number : Int) :
    numberParts? (intText number).toList = some {
      negative := decide (number < 0)
      whole := natText number.natAbs
      fraction := none
      exponent := none
      width := (intText number).toList.length } := by
  rw [toList_intText]
  by_cases hnegative : number < 0
  · rw [if_pos hnegative, numberParts?_negative]
    simp [hnegative]
  · rw [if_neg hnegative, numberParts?_natText]
    simp [hnegative]

/-- Characters that can be part of a number. -/
def isNumberLike (c : Char) : Bool :=
  c.isDigit || "+-.eE".toList.contains c

theorem numberLike_append {digits : List Char} {mark : Char} {rest : LooseText}
    (hdigits : ∀ c ∈ digits, isNumberLike c = true) (hmark : isNumberLike mark = false) :
    numberLike (LooseText.ofChars digits ++ .char mark :: rest) = digits := by
  induction digits with
  | nil =>
      unfold isNumberLike at hmark
      rw [LooseText.ofChars, List.map_nil, List.nil_append, numberLike, hmark]
      rfl
  | cons c digits ih =>
      have hc := hdigits c List.mem_cons_self
      have hrest := ih fun d hd => hdigits d (List.mem_cons_of_mem c hd)
      unfold isNumberLike at hc
      rw [LooseText.ofChars] at hrest ⊢
      rw [List.map_cons, List.cons_append, numberLike, if_pos hc, hrest]

theorem isNumberLike_of_mem_intText (number : Int) {c : Char}
    (hmem : c ∈ (intText number).toList) : isNumberLike c = true := by
  rw [toList_intText] at hmem
  unfold isNumberLike
  split_ifs at hmem
  · rcases List.mem_cons.mp hmem with rfl | hdigit
    · rfl
    · rw [isDigit_of_mem_natText hdigit, Bool.true_or]
  · rw [isDigit_of_mem_natText hmem, Bool.true_or]

theorem numberLike_intText (number : Int) {mark : Char} (hmark : isNumberLike mark = false)
    (rest : LooseText) :
    numberLike (LooseText.ofChars (intText number).toList ++ .char mark :: rest) =
      (intText number).toList :=
  numberLike_append (fun _ hmem => isNumberLike_of_mem_intText number hmem) hmark

theorem token_intText {number : Int} (hlength : number.natAbs < 10 ^ maxIntegerDigits) :
    NumberParts.token {
      negative := decide (number < 0)
      whole := natText number.natAbs
      fraction := none
      exponent := none
      width := (intText number).toList.length } = .constant (.int number) := by
  have hshort : ¬ maxIntegerDigits < (natText number.natAbs).length := by
    rw [Nat.not_lt]
    exact (Nat.length_toDigits_le_iff (by decide) (by decide)).mpr hlength
  unfold NumberParts.token
  simp only [if_neg hshort, decimalValue_natText, applySign_natAbs]

end Json
end Roster
