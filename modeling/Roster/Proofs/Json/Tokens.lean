import Roster.Proofs.Json.Numbers
import Roster.Proofs.Json.Texts
import Mathlib.Tactic

/-!
# Written documents are cut into their tokens

A text *spells* tokens in front of another text when cutting the two together gives these tokens
and then those of the other text.  What spells tokens can be put together, so the tokens of a
written document are found part by part.  The documents considered are objects whose values are
texts and integers, written without blanks.
-/

namespace Roster.Json

/-! ## Tokens of a text -/

theorem tokensFrom_cons_of_not_space
    (offset : Nat) (done : List Placed) {point : CodePoint} (rest : LooseText)
    (hspace : point.char?.any isSpace = false) :
    tokensFrom offset done (point :: rest) =
      tokensFrom (offset + (firstToken offset point rest).2)
        (⟨offset, (firstToken offset point rest).1⟩ :: done)
        (rest.drop ((firstToken offset point rest).2 - 1)) := by
  rw [tokensFrom.eq_2, hspace]
  rfl

theorem tokensFrom_cons_of_space
    (offset : Nat) (done : List Placed) {point : CodePoint} (rest : LooseText)
    (hspace : point.char?.any isSpace = true) :
    tokensFrom offset done (point :: rest) = tokensFrom (offset + 1) done rest := by
  rw [tokensFrom.eq_2, if_pos hspace]

theorem tokensFrom_eq_append (offset : Nat) (done : List Placed) (text : LooseText) :
    tokensFrom offset done text = done.reverse ++ tokensFrom offset [] text := by
  induction hlength : text.length using Nat.strongRecOn generalizing offset done text with
  | ind length ih =>
      cases text with
      | nil => simp [tokensFrom]
      | cons point rest =>
          have hrest : rest.length < length := by
            rw [← hlength]
            exact Nat.lt_succ_self _
          cases hspace : point.char?.any isSpace with
          | true =>
              rw [tokensFrom_cons_of_space offset done rest hspace,
                tokensFrom_cons_of_space offset [] rest hspace]
              exact ih rest.length hrest (offset + 1) done rest rfl
          | false =>
              have hdrop : (rest.drop ((firstToken offset point rest).2 - 1)).length <
                  length := by
                rw [List.length_drop]
                omega
              rw [tokensFrom_cons_of_not_space offset done rest hspace,
                tokensFrom_cons_of_not_space offset [] rest hspace,
                ih _ hdrop _ (_ :: done) _ rfl, ih _ hdrop _ [_] _ rfl]
              simp

/-- The tokens of a text that begins at an offset. -/
def spelled (offset : Nat) (text : LooseText) : List Token :=
  (tokensFrom offset [] text).map Placed.token

theorem spelled_cons
    (offset : Nat) {point : CodePoint} (rest : LooseText)
    (hspace : point.char?.any isSpace = false) :
    spelled offset (point :: rest) =
      (firstToken offset point rest).1 ::
        spelled (offset + (firstToken offset point rest).2)
          (rest.drop ((firstToken offset point rest).2 - 1)) := by
  unfold spelled
  rw [tokensFrom_cons_of_not_space offset [] rest hspace, tokensFrom_eq_append]
  simp

/-- In front of the rest, the text is cut into the tokens. -/
def Spells (text : LooseText) (tokens : List Token) (rest : LooseText) : Prop :=
  ∀ offset, spelled offset (text ++ rest) = tokens ++ spelled (offset + text.length) rest

theorem Spells.append {first second rest : LooseText} {tokens others : List Token}
    (hfirst : Spells first tokens (second ++ rest)) (hsecond : Spells second others rest) :
    Spells (first ++ second) (tokens ++ others) rest := by
  intro offset
  rw [List.append_assoc, hfirst, hsecond, List.append_assoc, List.length_append,
    Nat.add_assoc]

theorem Spells.tokens_eq {text : LooseText} {found : List Token}
    (hspells : Spells text found []) : (tokens text).map Placed.token = found := by
  have hall := hspells 0
  rw [List.append_nil] at hall
  have hend : spelled (0 + text.length) [] = [] := by
    simp [spelled, tokensFrom]
  rw [hend, List.append_nil] at hall
  exact hall

/-! ## Single tokens -/

theorem spells_of_firstToken
    {point : CodePoint} {others rest : LooseText} {token : Token}
    (hspace : point.char?.any isSpace = false)
    (hfirst : ∀ offset, firstToken offset point (others ++ rest) =
      (token, others.length + 1)) :
    Spells (point :: others) [token] rest := by
  intro offset
  rw [List.cons_append, spelled_cons offset _ hspace, hfirst]
  simp

def marks : List Char :=
  ['[', ']', '\x7b', '\x7d', ',', ':']

theorem toList_marks : "[]\x7b\x7d,:".toList = marks := rfl

theorem spells_mark {c : Char} (hmark : c ∈ marks) (rest : LooseText) :
    Spells [.char c] [.mark c] rest := by
  have hspaces : marks.all (fun mark => !isSpace mark) = true := rfl
  have hspace : isSpace c = false := by
    simpa using List.all_eq_true.mp hspaces c hmark
  have hlisted : "[]\x7b\x7d,:".toList.contains c = true := by
    rw [toList_marks, List.contains_iff_mem]
    exact hmark
  apply spells_of_firstToken
  · simpa [CodePoint.char?] using hspace
  · intro offset
    unfold firstToken
    simp only [hlisted, if_true]
    rfl

theorem spells_text (asciiOnly : Bool) (chars : List Char) (rest : LooseText) :
    Spells (writeText asciiOnly (LooseText.ofChars chars))
      [.text (LooseText.ofChars chars)] rest := by
  unfold writeText
  rw [flatMap_escape]
  apply spells_of_firstToken
  · rfl
  · intro offset
    rw [List.append_assoc]
    have htoken := textToken_escaped asciiOnly chars offset rest
    simp only [List.cons_append, List.nil_append]
    have hfirst : firstToken offset (.char '"') (LooseText.ofChars
          (chars.flatMap (escapeChar asciiOnly)) ++ .char '"' :: rest) =
        textToken offset (LooseText.ofChars
          (chars.flatMap (escapeChar asciiOnly)) ++ .char '"' :: rest) := rfl
    rw [hfirst, htoken]
    simp [LooseText.ofChars]

theorem word_shape : ∀ word ∈ words, ∃ first second others,
    word.1 = .char first :: .char second :: others ∧
      first.isDigit = false ∧ (first = '-' → second.isDigit = false) := by
  intro word hword
  simp only [words, List.mem_cons, List.not_mem_nil, or_false] at hword
  rcases hword with rfl | rfl | rfl | rfl | rfl | rfl
  · exact ⟨'n', 'u', _, rfl, rfl, by decide⟩
  · exact ⟨'t', 'r', _, rfl, rfl, by decide⟩
  · exact ⟨'f', 'a', _, rfl, rfl, by decide⟩
  · exact ⟨'N', 'a', _, rfl, rfl, by decide⟩
  · exact ⟨'I', 'n', _, rfl, rfl, by decide⟩
  · exact ⟨'-', 'I', _, rfl, rfl, by decide⟩

theorem find?_words_intText (number : Int) (rest : LooseText) :
    words.find? (fun word => word.1.isPrefixOf
      (LooseText.ofChars (intText number).toList ++ rest)) = none := by
  rw [List.find?_eq_none]
  intro word hword hprefix
  obtain ⟨first, second, others, hshape, hfirst, hsecond⟩ := word_shape word hword
  rw [hshape, toList_intText] at hprefix
  obtain ⟨digit, digits, hdigits⟩ :=
    List.exists_cons_of_ne_nil (natText_ne_nil number.natAbs)
  have hdigit : digit.isDigit = true := by
    apply isDigit_of_mem_natText
    rw [hdigits]
    exact List.mem_cons_self
  rw [hdigits] at hprefix
  by_cases hnegative : number < 0
  · rw [if_pos hnegative] at hprefix
    simp only [LooseText.ofChars, List.map_cons, List.cons_append, List.isPrefixOf,
      Bool.and_eq_true, beq_iff_eq, CodePoint.char.injEq] at hprefix
    rw [← hprefix.2.1, hsecond hprefix.1] at hdigit
    cases hdigit
  · rw [if_neg hnegative] at hprefix
    simp only [LooseText.ofChars, List.map_cons, List.cons_append, List.isPrefixOf,
      Bool.and_eq_true, beq_iff_eq, CodePoint.char.injEq] at hprefix
    rw [← hprefix.1, hfirst] at hdigit
    cases hdigit

theorem not_mark_of_isNumberLike {c : Char} (hnumber : isNumberLike c = true) :
    "[]\x7b\x7d,:".toList.contains c = false ∧ c ≠ '"' ∧ isSpace c = false := by
  have hmarks : ('"' :: ' ' :: '\t' :: '\n' :: '\r' :: marks).all
      (fun mark => !isNumberLike mark) = true := rfl
  have hne : ∀ mark ∈ '"' :: ' ' :: '\t' :: '\n' :: '\r' :: marks, c ≠ mark := by
    intro mark hmark heq
    subst c
    have hother := List.all_eq_true.mp hmarks mark hmark
    rw [hnumber] at hother
    cases hother
  refine ⟨?_, hne '"' (by simp), ?_⟩
  · rw [toList_marks, ← Bool.not_eq_true, List.contains_iff_mem]
    intro hmem
    exact hne c (by simp [hmem]) rfl
  · unfold isSpace
    simp [hne ' ' (by simp), hne '\t' (by simp), hne '\n' (by simp), hne '\r' (by simp)]

theorem spells_int
    {number : Int} (hlength : number.natAbs < 10 ^ maxIntegerDigits) {mark : Char}
    (hmark : isNumberLike mark = false) (rest : LooseText) :
    Spells (LooseText.ofString (intText number)) [.constant (.int number)]
      (.char mark :: rest) := by
  obtain ⟨c, digits, hchars⟩ : ∃ c digits, (intText number).toList = c :: digits := by
    apply List.exists_cons_of_ne_nil
    rw [toList_intText]
    split_ifs
    · exact List.cons_ne_nil _ _
    · exact natText_ne_nil _
  have hnumber : isNumberLike c = true := by
    apply isNumberLike_of_mem_intText number
    rw [hchars]
    exact List.mem_cons_self
  obtain ⟨hlisted, hquote, hspace⟩ := not_mark_of_isNumberLike hnumber
  have htext : LooseText.ofString (intText number) =
      .char c :: LooseText.ofChars digits := by
    unfold LooseText.ofString
    rw [hchars]
    rfl
  have hfollowed : LooseText.ofChars (intText number).toList ++ .char mark :: rest =
      .char c :: (LooseText.ofChars digits ++ .char mark :: rest) := by
    rw [hchars]
    rfl
  have hlike := numberLike_intText number hmark rest
  have hwords := find?_words_intText number (.char mark :: rest)
  rw [hfollowed] at hlike hwords
  rw [htext]
  apply spells_of_firstToken
  · simpa [CodePoint.char?] using hspace
  · intro offset
    unfold firstToken
    simp only [hlisted, Bool.false_eq_true, if_false, if_neg hquote, hwords, hlike,
      numberParts?_intText, token_intText hlength]
    rw [hchars]
    simp [LooseText.ofChars]

/-! ## Flat objects -/

/-- Texts without surrogates, and integers that are not too long to be read. -/
def IsSimple : Json → Prop
  | .text value => ∃ chars, value = LooseText.ofChars chars
  | .int number => number.natAbs < 10 ^ maxIntegerDigits
  | _ => False

theorem IsSimple.shape {value : Json} (hsimple : IsSimple value) :
    (∃ chars, value = .text (LooseText.ofChars chars)) ∨
      ∃ number, value = .int number ∧ number.natAbs < 10 ^ maxIntegerDigits := by
  cases value with
  | text value =>
      obtain ⟨chars, rfl⟩ := hsimple
      exact .inl ⟨chars, rfl⟩
  | int number => exact .inr ⟨number, rfl, hsimple⟩
  | null => cases hsimple
  | bool value => cases hsimple
  | real value => cases hsimple
  | list items => cases hsimple
  | object fields => cases hsimple

def valueToken : Json → Token
  | .text value => .text value
  | value => .constant value

/-- Names without surrogates, and simple values. -/
def AreSimple (fields : Fields) : Prop :=
  ∀ field ∈ fields, (∃ chars, field.1 = LooseText.ofChars chars) ∧ IsSimple field.2

def fieldTokens : Fields → List Token
  | [] => []
  | [(name, value)] => [.text name, .mark ':', valueToken value]
  | (name, value) :: next :: rest =>
      .text name :: .mark ':' :: valueToken value :: .mark ',' :: fieldTokens (next :: rest)

/-- The style without blanks. -/
def compact (asciiOnly : Bool) : Style where
  comma := ","
  colon := ":"
  asciiOnly := asciiOnly

theorem compact_colon (asciiOnly : Bool) : (compact asciiOnly).colon = [.char ':'] := rfl

theorem compact_comma (asciiOnly : Bool) : (compact asciiOnly).comma = [.char ','] := rfl

theorem spells_value
    (asciiOnly : Bool) {value : Json} (hsimple : IsSimple value) {mark : Char}
    (hmark : isNumberLike mark = false) (rest : LooseText) :
    Spells (write (compact asciiOnly) value) [valueToken value] (.char mark :: rest) := by
  rcases hsimple.shape with ⟨chars, rfl⟩ | ⟨number, rfl, hlength⟩
  · rw [write]
    exact spells_text asciiOnly chars _
  · rw [write]
    exact spells_int hlength hmark rest

theorem spells_field
    (asciiOnly : Bool) {chars : List Char} {value : Json} (hsimple : IsSimple value)
    {mark : Char} (hmark : isNumberLike mark = false) (rest : LooseText) :
    Spells (writeText asciiOnly (LooseText.ofChars chars) ++ (compact asciiOnly).colon ++
        write (compact asciiOnly) value)
      [.text (LooseText.ofChars chars), .mark ':', valueToken value]
      (.char mark :: rest) := by
  have hname := spells_text asciiOnly chars
    (([.char ':'] ++ write (compact asciiOnly) value) ++ .char mark :: rest)
  have hmiddle : Spells [.char ':'] [.mark ':']
      (write (compact asciiOnly) value ++ .char mark :: rest) :=
    spells_mark (by decide) _
  have hvalue := hmiddle.append (spells_value asciiOnly hsimple hmark rest)
  rw [compact_colon, List.append_assoc]
  exact hname.append hvalue

theorem spells_fields
    (asciiOnly : Bool) {fields : Fields} (hsimple : AreSimple fields) (rest : LooseText) :
    Spells (writeFields (compact asciiOnly) fields) (fieldTokens fields)
      (.char '\x7d' :: rest) := by
  have hclose : isNumberLike '\x7d' = false := by decide
  have hseparate : isNumberLike ',' = false := by decide
  fun_induction fieldTokens fields with
  | case1 =>
      rw [writeFields]
      intro offset
      rfl
  | case2 name value =>
      obtain ⟨⟨chars, rfl⟩, hvalue⟩ := hsimple (name, value) List.mem_cons_self
      rw [writeFields]
      exact spells_field asciiOnly hvalue hclose rest
  | case3 name value next others ih =>
      obtain ⟨⟨chars, rfl⟩, hvalue⟩ := hsimple (name, value) List.mem_cons_self
      have hothers := ih fun field hfield => hsimple field (List.mem_cons_of_mem _ hfield)
      have hmark := spells_mark (c := ',') (by decide)
        (writeFields (compact asciiOnly) (next :: others) ++ .char '\x7d' :: rest)
      rw [writeFields, compact_comma, List.append_assoc]
      exact (spells_field asciiOnly hvalue hseparate _).append (hmark.append hothers)

theorem spells_object
    (asciiOnly : Bool) {fields : Fields} (hsimple : AreSimple fields) (rest : LooseText) :
    Spells (write (compact asciiOnly) (.object fields))
      (.mark '\x7b' :: (fieldTokens fields ++ [.mark '\x7d'])) rest := by
  have hopen := spells_mark (c := '\x7b') (by decide)
    ((writeFields (compact asciiOnly) fields ++ [.char '\x7d']) ++ rest)
  have hclose := spells_mark (c := '\x7d') (by decide) rest
  have hinner := (spells_fields asciiOnly hsimple rest).append hclose
  rw [write]
  exact hopen.append hinner

end Roster.Json
