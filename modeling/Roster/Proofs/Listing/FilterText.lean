import Roster.Listing.Filter
import Roster.Proofs.Outcome

/-!
# The grammar of filter texts

A filter text is cut at every bar, and the tokens that count are read one after another.  Whether
a token counts is found by a scan for two colons, while its three parts come from a cut at every
colon, and the two need not agree: a middle part may hold colons, or be empty.  Here both are
compared with a grammar that knows neither the scan nor the cut.
-/

namespace Roster.Listing

namespace Relation

theorem ofOperator_of_mem {name : String} {relation : Relation}
    (hmem : (name, relation) ∈ operators) : ofOperator name = .ok relation := by
  -- The nine names differ, so the first entry under a name is its only one.
  have hentries : ∀ entry ∈ operators, ofOperator entry.1 = .ok entry.2 := by decide
  exact hentries (name, relation) hmem

theorem ofOperator_of_unknown {name : String}
    (hunknown : ∀ relation, (name, relation) ∉ operators) :
    ofOperator name = .error (.invalid name) := by
  have hnone : operators.find? (fun entry => entry.1 == name) = none := by
    rw [List.find?_eq_none]
    rintro ⟨known, relation⟩ hmem hname
    obtain rfl : known = name := by simpa using hname
    exact hunknown relation hmem
  unfold ofOperator
  rw [hnone]

end Relation

namespace Filter

/-! ### Tokens that count -/

/-- Two colons stand apart, with a word character right before the first of them and another one
right after the second. -/
def Counting (token : List Char) : Prop :=
  ∃ front before middle after back,
    token = front ++ before :: ':' :: middle ++ ':' :: after :: back ∧
      middle ≠ [] ∧ isWord before ∧ isWord after

/-- Somewhere in the token there is an occurrence of the pattern `word : anything but bars : word`,
where none of the three is empty. -/
def Matches (token : List Char) : Prop :=
  ∃ front column value operator back,
    token = front ++ (column ++ ':' :: value ++ ':' :: operator) ++ back ∧
      (column ≠ [] ∧ ∀ c ∈ column, isWord c) ∧
      (value ≠ [] ∧ ∀ c ∈ value, c ≠ '|') ∧
      operator ≠ [] ∧ ∀ c ∈ operator, isWord c

theorem endsInWord_iff {text : List Char} :
    endsInWord text = true ↔
      ∃ front after back, text = front ++ ':' :: after :: back ∧ isWord after := by
  fun_induction endsInWord text with
  | case1 after rest hrest =>
      rw [Bool.or_eq_true, hrest]
      constructor
      · rintro (hafter | ⟨front, next, back, htext, hnext⟩)
        · exact ⟨[], after, rest, rfl, hafter⟩
        · exact ⟨':' :: front, next, back, by rw [htext]; rfl, hnext⟩
      · rintro ⟨front, next, back, htext, hnext⟩
        cases front with
        | nil =>
            obtain ⟨rfl, rfl⟩ : after = next ∧ rest = back := by simpa using htext
            exact .inl hnext
        | cons first front =>
            exact .inr ⟨front, next, back, (List.cons.inj htext).2, hnext⟩
  | case2 first rest hfirst hrest =>
      rw [hrest]
      constructor
      · rintro ⟨front, after, back, rfl, hafter⟩
        exact ⟨first :: front, after, back, rfl, hafter⟩
      · rintro ⟨front, after, back, htext, hafter⟩
        cases front with
        | nil =>
            obtain ⟨rfl, rfl⟩ := List.cons.inj htext
            exact absurd rfl (hfirst after back rfl)
        | cons _ front =>
            exact ⟨front, after, back, (List.cons.inj htext).2, hafter⟩
  | case3 => simp

theorem counting_cons_iff {before : Char} {rest : List Char} :
    Counting (before :: rest) ↔
      (isWord before ∧ ∃ middle after back,
        rest = ':' :: middle ++ ':' :: after :: back ∧ middle ≠ [] ∧ isWord after) ∨
      Counting rest := by
  constructor
  · rintro ⟨front, first, middle, after, back, htoken, hmiddle, hfirst, hafter⟩
    cases front with
    | nil =>
        obtain ⟨rfl, rfl⟩ := List.cons.inj htoken
        exact .inl ⟨hfirst, middle, after, back, rfl, hmiddle, hafter⟩
    | cons _ front =>
        exact .inr ⟨front, first, middle, after, back, (List.cons.inj htoken).2, hmiddle, hfirst,
          hafter⟩
  · rintro (⟨hbefore, middle, after, back, rfl, hmiddle, hafter⟩ |
      ⟨front, first, middle, after, back, rfl, hmiddle, hfirst, hafter⟩)
    · exact ⟨[], before, middle, after, back, rfl, hmiddle, hbefore, hafter⟩
    · exact ⟨before :: front, first, middle, after, back, rfl, hmiddle, hfirst, hafter⟩

/-- The scan drops one character after the first colon, so that the colons cannot touch. -/
theorem endsInWord_drop_iff {rest : List Char} :
    endsInWord (rest.drop 1) = true ↔
      ∃ middle after back, rest = middle ++ ':' :: after :: back ∧ middle ≠ [] ∧ isWord after := by
  rw [endsInWord_iff]
  constructor
  · rintro ⟨front, after, back, hrest, hafter⟩
    cases rest with
    | nil => simp at hrest
    | cons first rest =>
        exact ⟨first :: front, after, back, congrArg (first :: ·) hrest, by simp, hafter⟩
  · rintro ⟨middle, after, back, rfl, hmiddle, hafter⟩
    obtain ⟨first, front, rfl⟩ := List.exists_cons_of_ne_nil hmiddle
    exact ⟨front, after, back, rfl, hafter⟩

theorem counts_iff {token : List Char} : counts token = true ↔ Counting token := by
  fun_induction counts token with
  | case1 before rest hrest =>
      rw [Bool.or_eq_true, Bool.and_eq_true, hrest, endsInWord_drop_iff, @counting_cons_iff before]
      simp
  | case2 before rest hbefore hrest =>
      rw [hrest, counting_cons_iff]
      constructor
      · exact .inr
      · rintro (⟨-, middle, after, back, rfl, -, -⟩ | hcounting)
        · exact absurd rfl (hbefore _)
        · exact hcounting
  | case3 =>
      simp [Counting]

instance : DecidablePred Counting := fun _ => decidable_of_iff _ counts_iff

/-- Between bars, a token counts exactly when the pattern occurs in it. -/
theorem matches_iff_counting {token : List Char} (hbars : '|' ∉ token) :
    Matches token ↔ Counting token := by
  constructor
  · rintro ⟨front, column, value, operator, back, rfl, ⟨hcolumn, hword⟩, ⟨hvalue, -⟩, hoperator,
      hwords⟩
    obtain ⟨start, before, rfl⟩ := List.eq_nil_or_concat' column |>.resolve_left hcolumn
    obtain ⟨after, rest, rfl⟩ := List.exists_cons_of_ne_nil hoperator
    refine ⟨front ++ start, before, value, after, rest ++ back, by simp, hvalue, ?_, ?_⟩
    · exact hword before (by simp)
    · exact hwords after List.mem_cons_self
  · rintro ⟨front, before, middle, after, back, rfl, hmiddle, hbefore, hafter⟩
    refine ⟨front, [before], middle, [after], back, by simp, ⟨by simp, ?_⟩, ⟨hmiddle, ?_⟩, by simp,
      ?_⟩
    · simpa using hbefore
    · rintro c hc rfl
      exact hbars (by simp [hc])
    · simpa using hafter

/-! ### Tokens that are well formed -/

/-- The token spells the filter: column, value and the name of its relation, and no other colon. -/
def Spells (token : List Char) (filter : Filter) : Prop :=
  ∃ operator, (operator, filter.relation) ∈ Relation.operators ∧
    token = filter.column.toList ++ ':' :: filter.value.toList ++ ':' :: operator.toList ∧
    token.count ':' = 2

/-- What is wrong with a token that spells no filter. -/
inductive Faulty (token : List Char) : Error → Prop where
  | colons (hcount : token.count ':' ≠ 2) : Faulty token (.invalid (String.ofList token))
  | unknownOperator (column value operator : List Char) (hcount : token.count ':' = 2)
      (htoken : token = column ++ ':' :: value ++ ':' :: operator)
      (hunknown : ∀ relation, (String.ofList operator, relation) ∉ Relation.operators) :
      Faulty token (.invalid (String.ofList operator))

/-- Two colons cut a token in three. -/
theorem pieces_eq_three_iff {token column value operator : List Char} :
    pieces ':' token = [column, value, operator] ↔
      token = column ++ ':' :: value ++ ':' :: operator ∧ token.count ':' = 2 := by
  rw [pieces_eq_iff_count (by simp)]
  simp [joinPieces, eq_comm]

theorem ofToken_of_pieces {token column value operator : List Char}
    (hpieces : pieces ':' token = [column, value, operator]) :
    ofToken token = (Relation.ofOperator (String.ofList operator)).map
      fun relation => ⟨String.ofList column, String.ofList value, relation⟩ := by
  rw [ofToken, hpieces]
  dsimp only
  cases Relation.ofOperator (String.ofList operator) with
  | ok relation => rfl
  | error failure => rfl

/-- A token without two colons is refused as a whole. -/
theorem ofToken_of_count {token : List Char} (hcount : token.count ':' ≠ 2) :
    ofToken token = .error (.invalid (String.ofList token)) := by
  unfold ofToken
  split
  · next column value operator hpieces =>
      exact absurd (pieces_eq_three_iff.1 hpieces).2 hcount
  · rfl

theorem ofToken_of_spells {token : List Char} {filter : Filter} (hspells : Spells token filter) :
    ofToken token = .ok filter := by
  obtain ⟨operator, hoperator, htoken, hcount⟩ := hspells
  rw [ofToken_of_pieces (pieces_eq_three_iff.2 ⟨htoken, hcount⟩)]
  simp only [String.ofList_toList, Relation.ofOperator_of_mem hoperator]
  rfl

theorem ofToken_of_faulty {token : List Char} {error : Error} (hfaulty : Faulty token error) :
    ofToken token = .error error := by
  cases hfaulty with
  | colons hcount => exact ofToken_of_count hcount
  | unknownOperator column value operator hcount htoken hunknown =>
      rw [ofToken_of_pieces (pieces_eq_three_iff.2 ⟨htoken, hcount⟩),
        Relation.ofOperator_of_unknown hunknown]
      rfl

theorem spells_or_faulty (token : List Char) :
    (∃ filter, Spells token filter) ∨ ∃ error, Faulty token error := by
  by_cases hcount : token.count ':' = 2
  · have hlength := length_pieces ':' token
    rw [hcount] at hlength
    obtain ⟨column, value, operator, hpieces⟩ := List.length_eq_three.1 hlength
    have htoken := (pieces_eq_three_iff.1 hpieces).1
    by_cases hknown : ∃ relation, (String.ofList operator, relation) ∈ Relation.operators
    · obtain ⟨relation, hrelation⟩ := hknown
      exact .inl ⟨⟨String.ofList column, String.ofList value, relation⟩, String.ofList operator,
        hrelation, by simpa using htoken, hcount⟩
    · exact .inr ⟨_, .unknownOperator column value operator hcount htoken
        (not_exists.1 hknown)⟩
  · exact .inr ⟨_, .colons hcount⟩

theorem ofToken_eq_ok_iff {token : List Char} {filter : Filter} :
    ofToken token = .ok filter ↔ Spells token filter :=
  Outcome.eq_ok_iff_of_causes (fun _ => ofToken_of_spells) (fun _ => ofToken_of_faulty)
    (spells_or_faulty token)

theorem ofToken_eq_error_iff {token : List Char} {error : Error} :
    ofToken token = .error error ↔ Faulty token error :=
  Outcome.eq_error_iff_of_causes (fun _ => ofToken_of_spells) (fun _ => ofToken_of_faulty)
    (spells_or_faulty token)

/-! ### Whole texts -/

theorem parse_eq (raw : Option String) :
    parse raw = ((pieces '|' (raw.getD "").toList).filter Counting).mapM ofToken := by
  unfold parse
  congr 1
  apply List.filter_congr
  intro token _
  rw [Bool.eq_iff_iff, counts_iff, decide_eq_true_eq]

/-- A filter text is read as one filter for each counting token, in their order, when all of them
spell filters.  Otherwise it is refused for the first of them that does not: as a whole when it
has more than two colons, and for its unknown operator when it has two.  Which tokens count is
what a search for the pattern says. -/
theorem parse_accepts_grammar (raw : Option String) :
    let tokens := pieces '|' (raw.getD "").toList
    (∀ token ∈ tokens, Matches token ↔ Counting token) ∧
      (∀ filters, parse raw = .ok filters ↔
        List.Forall₂ Spells (tokens.filter Counting) filters) ∧
      ∀ error, parse raw = .error error ↔
        ∃ front token back, tokens.filter Counting = front ++ token :: back ∧
          (∀ earlier ∈ front, ∃ filter, Spells earlier filter) ∧ Faulty token error := by
  refine ⟨?_, ?_, ?_⟩
  · intro token htoken
    exact matches_iff_counting (not_mem_of_mem_pieces htoken)
  · intro filters
    simp only [parse_eq, Outcome.mapM_eq_ok_iff, ofToken_eq_ok_iff]
  · intro error
    simp only [parse_eq, Outcome.mapM_eq_error_iff, ofToken_eq_ok_iff, ofToken_eq_error_iff]

/-- The middle part may hold anything but bars: `a::b:c` counts, and is refused as a whole. -/
example : parse (some "a:1:eq|x|b:c|a::b:c|b:2:no") = .error (.invalid "a::b:c") := by
  decide +kernel

end Filter
end Roster.Listing
