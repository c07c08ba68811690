import Roster.Json.Writer
import Mathlib.Tactic

/-!
# Documents that can be encoded

A document of the plain style is written with the surrogates of its texts as they are, and with
characters only besides.  So it can be encoded exactly when all its texts can, the names of its
fields among them.
-/

namespace Roster

namespace LooseText

/-- All code points are characters. -/
def IsPlain (text : LooseText) : Prop :=
  ∀ point ∈ text, point.isChar = true

variable {first second : LooseText}

@[simp] theorem isPlain_nil : IsPlain [] := nofun

@[simp] theorem isPlain_cons {point : CodePoint} {text : LooseText} :
    IsPlain (point :: text) ↔ point.isChar = true ∧ text.IsPlain :=
  List.forall_mem_cons

@[simp] theorem isPlain_append : IsPlain (first ++ second) ↔ first.IsPlain ∧ second.IsPlain :=
  List.forall_mem_append

@[simp] theorem isPlain_ofString (text : String) : IsPlain (ofString text) :=
  isChar_of_mem_ofChars

theorem isPlain_iff_encode {text : LooseText} :
    text.IsPlain ↔ ∃ plain, text.encode = .ok plain := by
  simp only [encode_eq_ok_iff]
  constructor
  · intro hplain
    refine ⟨String.ofList text.replaced, ?_⟩
    rw [ofString, String.toList_ofList, ofChars_replaced hplain]
  · rintro ⟨plain, rfl⟩
    exact isPlain_ofString plain

end LooseText

namespace Json

/-- The document can be encoded as an answer is. -/
def IsPlain (value : Json) : Prop :=
  (write plainStyle value).IsPlain

theorem isPlain_escape {point : CodePoint} :
    (escape plainStyle.asciiOnly point).IsPlain ↔ point.isChar = true := by
  cases point with
  | char c => exact iff_of_true LooseText.isChar_of_mem_ofChars rfl
  | surrogate distance => simp [escape, plainStyle]

theorem isPlain_writeText {text : LooseText} :
    (writeText plainStyle.asciiOnly text).IsPlain ↔ text.IsPlain := by
  have hescapes : LooseText.IsPlain (text.flatMap (escape plainStyle.asciiOnly)) ↔
      text.IsPlain := by
    induction text with
    | nil => exact Iff.rfl
    | cons point text ih =>
        rw [List.flatMap_cons, LooseText.isPlain_append, ih, isPlain_escape,
          LooseText.isPlain_cons]
  unfold writeText
  simp [hescapes, CodePoint.isChar]

theorem isPlain_comma : plainStyle.comma.IsPlain :=
  LooseText.isPlain_ofString ","

theorem isPlain_colon : plainStyle.colon.IsPlain :=
  LooseText.isPlain_ofString ":"

theorem isPlain_writeItems {items : List Json} :
    (writeItems plainStyle items).IsPlain ↔ ∀ item ∈ items, item.IsPlain := by
  induction items with
  | nil => simp [writeItems]
  | cons item items ih =>
      cases items with
      | nil => simp [writeItems, IsPlain]
      | cons next items =>
          rw [writeItems, LooseText.isPlain_append, ih, List.forall_mem_cons]
          simp [IsPlain, isPlain_comma]

theorem isPlain_writeFields {fields : Fields} :
    (writeFields plainStyle fields).IsPlain ↔
      ∀ field ∈ fields, field.1.IsPlain ∧ field.2.IsPlain := by
  induction fields with
  | nil => simp [writeFields]
  | cons field fields ih =>
      obtain ⟨name, value⟩ := field
      cases fields with
      | nil => simp [writeFields, isPlain_writeText, IsPlain, isPlain_colon]
      | cons next fields =>
          rw [writeFields, LooseText.isPlain_append, ih, List.forall_mem_cons]
          simp [isPlain_writeText, IsPlain, isPlain_colon, isPlain_comma]

@[simp] theorem isPlain_null : IsPlain .null :=
  LooseText.isPlain_ofString "null"

@[simp] theorem isPlain_int (value : Int) : IsPlain (.int value) :=
  LooseText.isPlain_ofString (intText value)

@[simp] theorem isPlain_text {text : LooseText} : IsPlain (.text text) ↔ text.IsPlain :=
  isPlain_writeText

@[simp] theorem isPlain_list {items : List Json} :
    IsPlain (.list items) ↔ ∀ item ∈ items, item.IsPlain := by
  rw [← isPlain_writeItems]
  simp [IsPlain, write, CodePoint.isChar]

@[simp] theorem isPlain_object {fields : Fields} :
    IsPlain (.object fields) ↔ ∀ field ∈ fields, field.1.IsPlain ∧ field.2.IsPlain := by
  rw [← isPlain_writeFields]
  simp [IsPlain, write, CodePoint.isChar]

end Json
end Roster
