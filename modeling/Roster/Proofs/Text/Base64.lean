import Roster.Text.Base64
import Roster.Text.Pieces
import Mathlib.Data.List.TakeWhile
import Mathlib.Tactic

/-!
# Base64 can be read back

What is written in an alphabet is read back in the same one, as long as the alphabet tells all
values of six bits apart and has no equals sign.  The alphabet of tokens also has no dot, so the
dots of a token stand between its parts only.
-/

namespace Roster

variable {α : Type} [DecidableEq α]

/-! ## Cutting at a separator -/

theorem cutFirst?_append_cons {separator : α} {before : List α} (after : List α)
    (habsent : separator ∉ before) :
    cutFirst? separator (before ++ separator :: after) = some (before, after) := by
  induction before with
  | nil => simp [cutFirst?]
  | cons c before ih =>
      obtain ⟨hc, hbefore⟩ := List.ne_and_not_mem_of_not_mem_cons habsent
      simp [cutFirst?, hc.symm, ih hbefore]

theorem cutLast?_eq_none {separator : α} {text : List α} (habsent : separator ∉ text) :
    cutLast? separator text = none := by
  induction text with
  | nil => rfl
  | cons c text ih =>
      obtain ⟨hc, htext⟩ := List.ne_and_not_mem_of_not_mem_cons habsent
      simp [cutLast?, hc.symm, ih htext]

theorem cutLast?_append_cons {separator : α} (before : List α) {after : List α}
    (habsent : separator ∉ after) :
    cutLast? separator (before ++ separator :: after) = some (before, after) := by
  induction before with
  | nil => simp [cutLast?, cutLast?_eq_none habsent]
  | cons c before ih => simp [cutLast?, ih]

theorem cutFirst?_eq_some_iff {separator : α} {text before after : List α} :
    cutFirst? separator text = some (before, after) ↔
      text = before ++ separator :: after ∧ separator ∉ before := by
  constructor
  · intro hcut
    induction text generalizing before with
    | nil => cases hcut
    | cons c rest ih =>
        unfold cutFirst? at hcut
        by_cases hc : c = separator
        · rw [if_pos hc] at hcut
          cases hcut
          exact ⟨congrArg (· :: after) hc, List.not_mem_nil⟩
        · rw [if_neg hc] at hcut
          obtain ⟨⟨front, back⟩, hrest, heq⟩ := Option.map_eq_some_iff.mp hcut
          cases heq
          obtain ⟨hsplit, habsent⟩ := ih hrest
          exact ⟨congrArg (c :: ·) hsplit,
            List.not_mem_cons_of_ne_of_not_mem (Ne.symm hc) habsent⟩
  · rintro ⟨rfl, habsent⟩
    exact cutFirst?_append_cons after habsent

theorem cutLast?_eq_none_iff {separator : α} {text : List α} :
    cutLast? separator text = none ↔ separator ∉ text := by
  constructor
  · intro hcut hmem
    obtain ⟨front, back, hsplit, habsent⟩ :=
      List.eq_append_cons_of_mem (List.mem_reverse.mpr hmem)
    have htext : text = back.reverse ++ separator :: front.reverse := by
      rw [← List.reverse_reverse text, hsplit]
      simp
    rw [htext, cutLast?_append_cons _ (by simpa using habsent)] at hcut
    cases hcut
  · exact cutLast?_eq_none

theorem cutLast?_eq_some_iff {separator : α} {text before after : List α} :
    cutLast? separator text = some (before, after) ↔
      text = before ++ separator :: after ∧ separator ∉ after := by
  constructor
  · intro hcut
    induction text generalizing before with
    | nil => cases hcut
    | cons c rest ih =>
        unfold cutLast? at hcut
        cases hrest : cutLast? separator rest with
        | some found =>
            rw [hrest] at hcut
            cases hcut
            obtain ⟨hsplit, habsent⟩ := ih hrest
            exact ⟨congrArg (c :: ·) hsplit, habsent⟩
        | none =>
            rw [hrest] at hcut
            by_cases hc : c = separator
            · simp only [if_pos hc] at hcut
              cases hcut
              exact ⟨congrArg (· :: after) hc, cutLast?_eq_none_iff.mp hrest⟩
            · simp only [if_neg hc] at hcut
              cases hcut
  · rintro ⟨rfl, habsent⟩
    exact cutLast?_append_cons before habsent

namespace Base64

/-! ## Single characters -/

/-- The alphabet tells all values apart and has no character for padding. -/
def Alphabet.Readable (alphabet : Alphabet) : Prop :=
  ∀ value < 64, alphabet.value? (alphabet.char value) = some value ∧
    alphabet.char value ≠ '='

theorem urlSafe_readable : urlSafe.Readable := by
  unfold Alphabet.Readable
  decide

theorem urlSafe_char_ne_dot : ∀ value < 64, urlSafe.char value ≠ '.' := by
  decide

theorem lt_of_mem_sextets {bytes : Bytes} {value : Nat} (hmem : value ∈ sextets bytes) :
    value < 64 := by
  fun_induction sextets bytes with
  | case1 a b c rest ih =>
      have ha := a.toNat_lt
      have hb := b.toNat_lt
      have hc := c.toNat_lt
      simp only [List.mem_cons] at hmem
      rcases hmem with rfl | rfl | rfl | rfl | hrest
      · omega
      · omega
      · omega
      · omega
      · exact ih hrest
  | case2 a b =>
      have ha := a.toNat_lt
      have hb := b.toNat_lt
      simp only [List.mem_cons, List.not_mem_nil, or_false] at hmem
      omega
  | case3 a =>
      have ha := a.toNat_lt
      simp only [List.mem_cons, List.not_mem_nil, or_false] at hmem
      omega
  | case4 => cases hmem

/-! ## Reading back -/

theorem mapM_value?_map_char {alphabet : Alphabet} (hreadable : alphabet.Readable)
    {values : List Nat} (hvalues : ∀ value ∈ values, value < 64) :
    (values.map alphabet.char).mapM alphabet.value? = some values := by
  induction values with
  | nil => rfl
  | cons value values ih =>
      have hvalue := (hreadable value (hvalues value List.mem_cons_self)).1
      have hrest := ih fun other hother => hvalues other (List.mem_cons_of_mem value hother)
      simp [hvalue, hrest]

theorem decode?_encode {alphabet : Alphabet} (hreadable : alphabet.Readable)
    (bytes : Bytes) : decode? alphabet (encode alphabet bytes) = some bytes := by
  have hbody : ∀ c ∈ encode alphabet bytes, c ≠ '=' := by
    intro c hc
    obtain ⟨value, hvalue, rfl⟩ := List.mem_map.mp hc
    exact (hreadable value (lt_of_mem_sextets hvalue)).2
  have htake : (encode alphabet bytes).takeWhile (· ≠ '=') = encode alphabet bytes := by
    rw [List.takeWhile_eq_self_iff]
    simpa using hbody
  have hdrop : (encode alphabet bytes).dropWhile (· ≠ '=') = [] := by
    rw [List.dropWhile_eq_nil_iff]
    simpa using hbody
  have hvalues : (encode alphabet bytes).mapM alphabet.value? = some (sextets bytes) :=
    mapM_value?_map_char hreadable fun value => lt_of_mem_sextets
  unfold decode?
  simp only [htake, hdrop, hvalues]
  simp [paddingFits, bytesOfSextets_sextets]

theorem dot_not_mem_encode (bytes : Bytes) : '.' ∉ encode urlSafe bytes := by
  intro hdot
  obtain ⟨value, hvalue, hchar⟩ := List.mem_map.mp hdot
  exact urlSafe_char_ne_dot value (lt_of_mem_sextets hvalue) hchar

/-! ## The tolerant reading -/

theorem standard_readable : standard.Readable := by
  unfold Alphabet.Readable
  decide

theorem length_sextets_mod (bytes : Bytes) : (sextets bytes).length % 4 ≠ 1 := by
  fun_induction sextets bytes with
  | case1 a b c rest ih =>
      simp only [List.length_cons]
      omega
  | case2 a b => simp
  | case3 a => simp
  | case4 => simp

theorem collect_chars
    {alphabet : Alphabet} (hreadable : alphabet.Readable) {values : List Nat}
    (hvalues : ∀ value ∈ values, value < 64) (seen : List Nat) (rest : List Char) :
    collect alphabet seen 0 (values.map alphabet.char ++ rest) =
      collect alphabet (values.reverse ++ seen) 0 rest := by
  induction values generalizing seen with
  | nil => rfl
  | cons value values ih =>
      obtain ⟨hread, hpadding⟩ := hreadable value (hvalues value List.mem_cons_self)
      have hrest := ih (fun other hother => hvalues other (List.mem_cons_of_mem value hother))
        (value :: seen)
      rw [List.map_cons, List.cons_append, collect, if_neg hpadding, hread]
      simp only [hrest, List.reverse_cons, List.append_assoc, List.singleton_append]

/-- The padding that completes the last group of four ends the reading. -/
theorem collect_padding
    (alphabet : Alphabet) {values : List Nat} (hlength : values.length % 4 ≠ 1) :
    collect alphabet values 0 (List.replicate ((4 - values.length % 4) % 4) '=') =
      .ok values.reverse := by
  have hcases : values.length % 4 = 0 ∨ values.length % 4 = 2 ∨ values.length % 4 = 3 := by
    omega
  rcases hcases with hwhole | htwo | hone
  · rw [hwhole]
    simp [collect, hwhole]
  · rw [htwo]
    simp [collect, htwo, List.replicate]
  · rw [hone]
    simp [collect, hone]

theorem decodeTolerant_encode
    {alphabet : Alphabet} (hreadable : alphabet.Readable) (bytes : Bytes) :
    decodeTolerant alphabet (encode alphabet bytes ++
      List.replicate ((4 - (encode alphabet bytes).length % 4) % 4) '=') = .ok bytes := by
  have hlength : (sextets bytes).reverse.length = (encode alphabet bytes).length := by
    rw [List.length_reverse]
    exact (List.length_map _).symm
  have hmod : (sextets bytes).reverse.length % 4 ≠ 1 := by
    rw [List.length_reverse]
    exact length_sextets_mod bytes
  have hpadding := collect_padding alphabet hmod
  rw [List.reverse_reverse] at hpadding
  unfold decodeTolerant
  rw [← hlength]
  unfold encode
  rw [collect_chars hreadable (fun value => lt_of_mem_sextets), List.append_nil, hpadding,
    Except.map, bytesOfSextets_sextets]

end Base64
end Roster
