import Roster.Text.Lower
import Mathlib.Tactic

/-!
# The two lower-casings side by side

Names are stored as they were written and folded in ASCII when they are looked for, while the name
that is looked for is folded in full.  Folding in ASCII first changes nothing about the full
folding, because a letter and its small form have the same case classes.  So two names that agree
in ASCII agree in full.  The converse fails, and a name *folds in ASCII* when the two foldings of
it are the same.
-/

namespace Roster

/-- The name is found by the lookup that folds it in ASCII only. -/
def FoldsInAscii (name : String) : Prop :=
  asciiLower name = lower name

instance (name : String) : Decidable (FoldsInAscii name) :=
  inferInstanceAs (Decidable (asciiLower name = lower name))

/-! ## Single characters -/

def capital (place : Fin 26) : Char :=
  Char.ofNat (0x41 + place)

def small (place : Fin 26) : Char :=
  Char.ofNat (0x61 + place)

theorem eq_capital_or_asciiLowerChar_eq (c : Char) :
    (∃ place, c = capital place ∧ asciiLowerChar c = small place) ∨
      asciiLowerChar c = c := by
  unfold asciiLowerChar
  by_cases hupper : 'A' ≤ c ∧ c ≤ 'Z'
  · left
    have hfirst : 0x41 ≤ c.toNat := hupper.1
    have hlast : c.toNat ≤ 0x5A := hupper.2
    refine ⟨⟨c.toNat - 0x41, by omega⟩, ?_, ?_⟩
    · have hcode : 0x41 + (c.toNat - 0x41) = c.toNat := by
        omega
      simp only [capital, hcode, Char.ofNat_toNat]
    · have hcode : c.toNat + 0x20 = 0x61 + (c.toNat - 0x41) := by
        omega
      rw [if_pos hupper, hcode]
      rfl
  · right
    rw [if_neg hupper]

/-- A capital letter and the small one have the same case classes and the same
lower-case form, and neither is the sigma. -/
theorem small_like_capital :
    ∀ place : Fin 26,
      isCased (small place) = isCased (capital place) ∧
        isCaseIgnorable (small place) = isCaseIgnorable (capital place) ∧
        lowerChar (small place) = lowerChar (capital place) ∧
        ((small place).toNat == 0x3A3) = ((capital place).toNat == 0x3A3) := by
  decide +kernel

/-- What lower-casing reads of a character does not change when it is folded. -/
theorem asciiLowerChar_like (c : Char) :
    isCased (asciiLowerChar c) = isCased c ∧
      isCaseIgnorable (asciiLowerChar c) = isCaseIgnorable c ∧
      lowerChar (asciiLowerChar c) = lowerChar c ∧
      ((asciiLowerChar c).toNat == 0x3A3) = (c.toNat == 0x3A3) := by
  rcases eq_capital_or_asciiLowerChar_eq c with ⟨place, hcapital, hsmall⟩ | hsame
  · rw [hsmall, hcapital]
    exact small_like_capital place
  · rw [hsame]
    exact ⟨rfl, rfl, rfl, rfl⟩

/-! ## Texts -/

theorem startsCased_map_asciiLowerChar (text : List Char) :
    startsCased (text.map asciiLowerChar) = startsCased text := by
  unfold startsCased
  induction text with
  | nil => rfl
  | cons c rest ih =>
      obtain ⟨hcased, hignorable, _, _⟩ := asciiLowerChar_like c
      rw [List.map_cons, List.dropWhile_cons, List.dropWhile_cons, hignorable]
      cases isCaseIgnorable c with
      | true => exact ih
      | false => exact hcased

theorem lowerFrom_map_asciiLowerChar (before text : List Char) :
    lowerFrom (before.map asciiLowerChar) (text.map asciiLowerChar) =
      lowerFrom before text := by
  induction text generalizing before with
  | nil => rfl
  | cons c rest ih =>
      obtain ⟨_, _, hlower, hsigma⟩ := asciiLowerChar_like c
      have hrest := ih (c :: before)
      rw [List.map_cons] at hrest
      rw [List.map_cons]
      simp only [lowerFrom, hlower, hsigma, startsCased_map_asciiLowerChar, hrest]

@[simp] theorem lower_asciiLower (text : String) :
    lower (asciiLower text) = lower text := by
  have hfolded := lowerFrom_map_asciiLowerChar [] text.toList
  rw [List.map_nil] at hfolded
  unfold lower asciiLower
  rw [String.toList_ofList, hfolded]

theorem lower_eq_of_asciiLower_eq {a b : String}
    (hascii : asciiLower a = asciiLower b) : lower a = lower b := by
  rw [← lower_asciiLower a, hascii, lower_asciiLower]

theorem asciiLower_eq_empty_iff {text : String} : asciiLower text = "" ↔ text = "" := by
  unfold asciiLower
  rw [← String.toList_eq_nil_iff, String.toList_ofList, List.map_eq_nil_iff,
    String.toList_eq_nil_iff]

theorem lowerChar_ne_nil (c : Char) : lowerChar c ≠ [] := by
  unfold lowerChar
  split_ifs
  · exact List.cons_ne_nil _ _
  · exact List.cons_ne_nil _ _
  · split
    · exact List.cons_ne_nil _ _
    · exact List.cons_ne_nil _ _

theorem lowerFrom_cons_ne_nil (before : List Char) (c : Char) (rest : List Char) :
    lowerFrom before (c :: rest) ≠ [] := by
  rw [lowerFrom]
  apply List.append_ne_nil_of_left_ne_nil
  split_ifs
  · exact List.cons_ne_nil _ _
  · exact List.cons_ne_nil _ _
  · exact lowerChar_ne_nil c

theorem lower_ne_empty {text : String} (htext : text ≠ "") : lower text ≠ "" := by
  unfold lower
  rw [← String.toList_eq_nil_iff.ne, String.toList_ofList]
  cases hchars : text.toList with
  | nil => exact absurd (String.toList_eq_nil_iff.mp hchars) htext
  | cons c rest => exact lowerFrom_cons_ne_nil [] c rest

theorem LooseText.lowerRuns_eq_nil {run : List Char} {text : LooseText}
    (hempty : lowerRuns run text = []) : run = [] ∧ text = [] := by
  induction text generalizing run with
  | nil =>
      refine ⟨?_, rfl⟩
      rw [lowerRuns, ofChars, List.map_eq_nil_iff] at hempty
      cases hrun : run.reverse with
      | nil => exact List.reverse_eq_nil_iff.mp hrun
      | cons c rest =>
          rw [hrun] at hempty
          exact absurd hempty (lowerFrom_cons_ne_nil [] c rest)
  | cons point rest ih =>
      cases point with
      | char c => exact absurd (ih hempty).1 (List.cons_ne_nil c run)
      | surrogate distance => simp [lowerRuns] at hempty

/-- A surrogate is never lost in lower-casing. -/
theorem LooseText.isChar_of_lowerRuns {run : List Char} {text : LooseText}
    (hchars : ∀ point ∈ lowerRuns run text, point.isChar = true) :
    ∀ point ∈ text, point.isChar = true := by
  induction text generalizing run with
  | nil => simp
  | cons point rest ih =>
      cases point with
      | char c =>
          intro point hpoint
          rcases List.mem_cons.mp hpoint with rfl | hrest
          · rfl
          · exact ih hchars point hrest
      | surrogate distance =>
          have hkept := hchars (.surrogate distance) (by simp [lowerRuns])
          cases hkept

theorem LooseText.exists_ofString_of_lower {text : LooseText} {folded : String}
    (hfolded : text.lower = ofString folded) : ∃ name, text = ofString name := by
  have hruns : ∀ point ∈ lowerRuns [] text, point.isChar = true := by
    rw [← lower, hfolded]
    exact isChar_of_mem_ofChars
  have hchars := isChar_of_lowerRuns hruns
  refine ⟨String.ofList text.replaced, ?_⟩
  rw [ofString, String.toList_ofList, ofChars_replaced hchars]

theorem foldsInAscii_of_ascii {name : String}
    (hascii : ∀ c ∈ name.toList, c.toNat < 0x80) : FoldsInAscii name := by
  have hfrom : ∀ before text : List Char, (∀ c ∈ text, c.toNat < 0x80) →
      lowerFrom before text = text.map asciiLowerChar := by
    intro before text
    induction text generalizing before with
    | nil =>
        intro _
        rfl
    | cons c rest ih =>
        intro htext
        have hc : c.toNat < 0x80 := htext c List.mem_cons_self
        have hsigma : (c.toNat == 0x3A3) = false := by
          simp only [beq_eq_false_iff_ne]
          omega
        have hrest := ih (c :: before) fun d hd => htext d (List.mem_cons_of_mem c hd)
        simp [lowerFrom, hsigma, lowerChar, hc, hrest]
  unfold FoldsInAscii asciiLower lower
  rw [hfrom [] name.toList hascii]

/-- A name that is found under the full folding of another one has the same
full folding, if that one folds in ASCII. -/
theorem FoldsInAscii.of_asciiLower_eq {a b : String}
    (hfound : asciiLower a = lower b) (hb : FoldsInAscii b) :
    FoldsInAscii a ∧ lower a = lower b := by
  have hlower : lower a = lower b :=
    lower_eq_of_asciiLower_eq (hfound.trans hb.symm)
  exact ⟨hfound.trans hlower.symm, hlower⟩

end Roster
