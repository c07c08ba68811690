import Roster.Proofs.Json.Tokens
import Roster.Json.Reader
import Mathlib.Tactic

/-!
# Written objects are read back

The machine of the reader goes through the tokens of an object field by field.  Between two fields
it holds the fields read so far, newest first, which is the invariant of the induction.
-/

namespace Roster.Json

variable {limits : Limits} {document : Json}

/-- Wherever the tokens are placed, the machine takes them and ends with the document. -/
def Machine.Reads
    (limits : Limits) (machine : Machine) (found : List Token) (document : Json) : Prop :=
  ∀ length placed, placed.map Placed.token = found →
    machine.run limits length placed = .ok document

theorem Machine.Reads.nil {stack : List Frame} :
    Machine.Reads limits ⟨stack, .nothing document⟩ [] document := by
  intro length placed hplaced
  rw [List.map_eq_nil_iff] at hplaced
  rw [hplaced]
  rfl

theorem Machine.Reads.cons
    {machine next : Machine} {token : Token} {rest : List Token}
    (hstep : ∀ offset, machine.step limits ⟨offset, token⟩ = .ok next)
    (hrest : next.Reads limits rest document) :
    machine.Reads limits (token :: rest) document := by
  intro length placed hplaced
  obtain ⟨first, others, rfl, hfirst, hothers⟩ := List.map_eq_cons_iff.mp hplaced
  obtain ⟨offset, token⟩ := first
  cases hfirst
  rw [Machine.run, hstep]
  exact hrest length others hothers

def inObject (fields : Fields) (name : LooseText) (expecting : Expecting) : Machine where
  stack := [.object fields name]
  expecting := expecting

/-- A single object may be open and filled. -/
def Depth.HoldsObject : Depth → Prop
  | .opened count | .filled count => 0 < count

theorem excess?_open (hholds : limits.depth.HoldsObject) :
    limits.depth.excess? [] (.mark '\x7b') = none := by
  unfold Depth.excess?
  cases hdepth : limits.depth with
  | opened count =>
      rw [hdepth] at hholds
      have hopen : ¬ count ≤ ([] : List Frame).length := by
        simpa [Depth.HoldsObject, Nat.pos_iff_ne_zero] using hholds
      simp only [if_neg hopen]
  | filled count => simp

theorem excess?_value
    (hholds : limits.depth.HoldsObject) (frame : Frame) {value : Json}
    (hsimple : IsSimple value) :
    limits.depth.excess? [frame] (valueToken value) = none := by
  unfold Depth.excess?
  cases hdepth : limits.depth with
  | opened count =>
      rcases hsimple.shape with ⟨chars, rfl⟩ | ⟨number, rfl, _⟩
      · simp [valueToken, Token.container?]
      · simp [valueToken, Token.container?]
  | filled count =>
      rw [hdepth] at hholds
      have hone : ¬ count < [frame].length := by
        simpa [Depth.HoldsObject, Nat.pos_iff_ne_zero] using hholds
      simp only [if_neg hone]

theorem step_open (hholds : limits.depth.HoldsObject) (offset : Nat) :
    Machine.step limits {} ⟨offset, .mark '\x7b'⟩ = .ok (inObject [] [] .firstName) := by
  simp only [Machine.step, startValue, excess?_open hholds]
  rfl

theorem step_name
    {done : Fields} {last : LooseText} {expecting : Expecting}
    (hexpecting : expecting = .name ∨ expecting = .firstName) (name : LooseText)
    (offset : Nat) :
    (inObject done last expecting).step limits ⟨offset, .text name⟩ =
      .ok (inObject done name .colon) := by
  rcases hexpecting with rfl | rfl
  · rfl
  · rfl

theorem step_colon (done : Fields) (name : LooseText) (offset : Nat) :
    (inObject done name .colon).step limits ⟨offset, .mark ':'⟩ =
      .ok (inObject done name .value) := rfl

theorem step_value
    (hholds : limits.depth.HoldsObject) (done : Fields) (name : LooseText) {value : Json}
    (hsimple : IsSimple value) (offset : Nat) :
    (inObject done name .value).step limits ⟨offset, valueToken value⟩ =
      .ok (inObject ((name, value) :: done) name .separator) := by
  simp only [Machine.step, inObject, startValue, excess?_value hholds _ hsimple]
  rcases hsimple.shape with ⟨chars, rfl⟩ | ⟨number, rfl, _⟩
  · rfl
  · rfl

theorem reads_field
    (hholds : limits.depth.HoldsObject) (done : Fields) (last name : LooseText)
    {value : Json} (hsimple : IsSimple value) {expecting : Expecting} (hexpecting : expecting = .name ∨ expecting = .firstName)
    {rest : List Token}
    (hrest : (inObject ((name, value) :: done) name .separator).Reads limits rest document) :
    (inObject done last expecting).Reads limits
      (.text name :: .mark ':' :: valueToken value :: rest) document := by
  apply Machine.Reads.cons (step_name hexpecting name)
  apply Machine.Reads.cons (step_colon done name)
  exact Machine.Reads.cons (step_value hholds done name hsimple) hrest

theorem reads_fields
    (hholds : limits.depth.HoldsObject) {fields : Fields} (hsimple : AreSimple fields)
    (hfields : fields ≠ []) (done : Fields) (last : LooseText) {expecting : Expecting}
    (hexpecting : expecting = .name ∨ expecting = .firstName) :
    (inObject done last expecting).Reads limits (fieldTokens fields ++ [.mark '\x7d'])
      (.object (done.reverse ++ fields)) := by
  fun_induction fieldTokens fields generalizing done last expecting with
  | case1 => exact absurd rfl hfields
  | case2 name value =>
      obtain ⟨-, hvalue⟩ := hsimple (name, value) List.mem_cons_self
      apply reads_field hholds done last name hvalue hexpecting
      rw [← List.reverse_cons]
      exact Machine.Reads.cons (fun _ => rfl) Machine.Reads.nil
  | case3 name value next others ih =>
      obtain ⟨-, hvalue⟩ := hsimple (name, value) List.mem_cons_self
      have hothers := ih (fun field hfield => hsimple field (List.mem_cons_of_mem _ hfield))
        (List.cons_ne_nil _ _) ((name, value) :: done) name (.inl rfl)
      rw [List.reverse_cons, List.append_assoc] at hothers
      apply reads_field hholds done last name hvalue hexpecting
      exact Machine.Reads.cons (fun _ => rfl) hothers

theorem reads_object
    (hholds : limits.depth.HoldsObject) {fields : Fields} (hsimple : AreSimple fields)
    (hfields : fields ≠ []) :
    Machine.Reads limits {} (.mark '\x7b' :: (fieldTokens fields ++ [.mark '\x7d']))
      (.object fields) := by
  apply Machine.Reads.cons (step_open hholds)
  exact reads_fields hholds hsimple hfields [] [] (.inr rfl)

theorem tokens_write_object
    (asciiOnly : Bool) {fields : Fields} (hsimple : AreSimple fields) :
    (tokens (write (compact asciiOnly) (.object fields))).map Placed.token =
      .mark '\x7b' :: (fieldTokens fields ++ [.mark '\x7d']) := by
  apply Spells.tokens_eq
  exact spells_object asciiOnly hsimple []

theorem read_write_object
    (asciiOnly : Bool) {fields : Fields} (hsimple : AreSimple fields)
    (hfields : fields ≠ []) :
    read (write (compact asciiOnly) (.object fields)) = .ok (.object fields) := by
  have hholds : tolerant.depth.HoldsObject := by
    simp [tolerant, Depth.HoldsObject]
  exact reads_object hholds hsimple hfields _ _ (tokens_write_object asciiOnly hsimple)

/-! ## The strict reading -/

theorem isStrict_valueToken {value : Json} (hsimple : IsSimple value) :
    (valueToken value).isStrict = true := by
  rcases hsimple.shape with ⟨chars, rfl⟩ | ⟨number, rfl, _⟩
  · exact List.all_eq_true.mpr LooseText.isChar_of_mem_ofChars
  · rfl

theorem isStrict_mark (c : Char) : (Token.mark c).isStrict = true := rfl

theorem isStrict_of_mem_fieldTokens {fields : Fields} (hsimple : AreSimple fields) :
    ∀ token ∈ fieldTokens fields, token.isStrict = true := by
  have hname : ∀ chars, (Token.text (LooseText.ofChars chars)).isStrict = true :=
    fun chars => List.all_eq_true.mpr LooseText.isChar_of_mem_ofChars
  fun_induction fieldTokens fields with
  | case1 => simp
  | case2 name value =>
      obtain ⟨⟨chars, rfl⟩, hvalue⟩ := hsimple (name, value) List.mem_cons_self
      simp [hname, isStrict_valueToken hvalue, isStrict_mark]
  | case3 name value next others ih =>
      obtain ⟨⟨chars, rfl⟩, hvalue⟩ := hsimple (name, value) List.mem_cons_self
      have hothers := ih fun field hfield => hsimple field (List.mem_cons_of_mem _ hfield)
      simpa [hname, isStrict_valueToken hvalue, isStrict_mark] using hothers

theorem readStrict?_write_object
    (asciiOnly : Bool) {fields : Fields} (hsimple : AreSimple fields)
    (hfields : fields ≠ []) :
    readStrict? (write (compact asciiOnly) (.object fields)) = some (.object fields) := by
  have hholds : strict.depth.HoldsObject := by
    simp [strict, Depth.HoldsObject]
  have htokens := tokens_write_object asciiOnly hsimple
  have hstrict : (tokens (write (compact asciiOnly) (.object fields))).all
      (fun placed => placed.token.isStrict) = true := by
    rw [List.all_eq_true]
    intro placed hplaced
    have htoken := List.mem_map_of_mem (f := Placed.token) hplaced
    rw [htokens] at htoken
    simp only [List.mem_cons, List.mem_append, List.not_mem_nil, or_false] at htoken
    rcases htoken with hopen | hfield | hclose
    · rw [hopen, isStrict_mark]
    · exact isStrict_of_mem_fieldTokens hsimple _ hfield
    · rw [hclose, isStrict_mark]
  unfold readStrict?
  rw [if_pos hstrict, reads_object hholds hsimple hfields _ _ htokens]
  rfl

/-! ## Documents as texts -/

theorem isChar_of_mem_writeText (asciiOnly : Bool) {chars : List Char} :
    ∀ point ∈ writeText asciiOnly (LooseText.ofChars chars), point.isChar = true := by
  unfold writeText
  rw [flatMap_escape]
  intro point hpoint
  rw [List.mem_cons, List.mem_append, List.mem_singleton] at hpoint
  rcases hpoint with rfl | hpoint | rfl
  · rfl
  · exact LooseText.isChar_of_mem_ofChars point hpoint
  · rfl

theorem isChar_of_mem_value (asciiOnly : Bool) {value : Json} (hsimple : IsSimple value) :
    ∀ point ∈ write (compact asciiOnly) value, point.isChar = true := by
  rcases hsimple.shape with ⟨chars, rfl⟩ | ⟨number, rfl, _⟩
  · rw [write]
    exact isChar_of_mem_writeText asciiOnly
  · rw [write]
    exact LooseText.isChar_of_mem_ofChars

theorem isChar_of_mem_fields (asciiOnly : Bool) {fields : Fields} (hsimple : AreSimple fields) :
    ∀ point ∈ writeFields (compact asciiOnly) fields, point.isChar = true := by
  induction fields with
  | nil =>
      intro point hpoint
      cases hpoint
  | cons field rest ih =>
      obtain ⟨name, value⟩ := field
      obtain ⟨⟨chars, rfl⟩, hvalue⟩ := hsimple (name, value) List.mem_cons_self
      have hrest := ih fun field hfield => hsimple field (List.mem_cons_of_mem _ hfield)
      intro point hpoint
      cases rest with
      | nil =>
          rw [writeFields, compact_colon] at hpoint
          simp only [List.mem_append, List.mem_singleton] at hpoint
          rcases hpoint with (hpoint | rfl) | hpoint
          · exact isChar_of_mem_writeText asciiOnly point hpoint
          · rfl
          · exact isChar_of_mem_value asciiOnly hvalue point hpoint
      | cons next others =>
          rw [writeFields, compact_colon, compact_comma] at hpoint
          simp only [List.mem_append, List.mem_singleton] at hpoint
          rcases hpoint with (((hpoint | rfl) | hpoint) | rfl) | hpoint
          · exact isChar_of_mem_writeText asciiOnly point hpoint
          · rfl
          · exact isChar_of_mem_value asciiOnly hvalue point hpoint
          · rfl
          · exact hrest point hpoint

/-- A written object holds characters only, so nothing of it is replaced. -/
theorem ofString_write_object
    (asciiOnly : Bool) {fields : Fields} (hsimple : AreSimple fields) :
    LooseText.ofString (String.ofList (write (compact asciiOnly) (.object fields)).replaced) =
      write (compact asciiOnly) (.object fields) := by
  rw [LooseText.ofString, String.toList_ofList]
  apply LooseText.ofChars_replaced
  intro point hpoint
  rw [write, List.mem_cons, List.mem_append, List.mem_singleton] at hpoint
  rcases hpoint with rfl | hpoint | rfl
  · rfl
  · exact isChar_of_mem_fields asciiOnly hsimple point hpoint
  · rfl

end Roster.Json
