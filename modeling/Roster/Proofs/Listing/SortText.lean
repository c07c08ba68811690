import Roster.Listing.Sort
import Roster.Proofs.Outcome

/-!
# The grammar of sort texts

A sort text is cut at every comma, and of the tokens that count the last one decides.  A token
counts as soon as a colon stands between two word characters, wherever that is, while its column
and its direction come from a cut at every colon: the column need not be a word, and the direction
may carry further characters along and be refused for them.  One fault anywhere refuses the whole
text, so a text that follows another one after a comma overrules it only if both can be read.
-/

namespace Roster.Listing

namespace Direction

theorem ofName_name (direction : Direction) : ofName direction.name = .ok direction := by
  cases direction with
  | ascending => rfl
  | descending => rfl

theorem ofName_of_unknown {name : String}
    (hunknown : ∀ direction : Direction, name ≠ direction.name) :
    ofName name = .error (.invalid name) := by
  have hascending : name ≠ "asc" := hunknown .ascending
  have hdescending : name ≠ "desc" := hunknown .descending
  simp [ofName, hascending, hdescending]

end Direction

namespace SortKey

/-! ### Tokens that count -/

/-- A colon stands between two word characters. -/
def Counting (token : List Char) : Prop :=
  ∃ front before after back,
    token = front ++ before :: ':' :: after :: back ∧ isWord before ∧ isWord after

/-- Somewhere in the token there is an occurrence of the pattern `word : word`. -/
def Matches (token : List Char) : Prop :=
  ∃ front column direction back,
    token = front ++ (column ++ ':' :: direction) ++ back ∧
      (column ≠ [] ∧ ∀ c ∈ column, isWord c) ∧
      direction ≠ [] ∧ ∀ c ∈ direction, isWord c

theorem counting_cons_iff {before : Char} {rest : List Char} :
    Counting (before :: rest) ↔
      (isWord before ∧ ∃ after back, rest = ':' :: after :: back ∧ isWord after) ∨
        Counting rest := by
  constructor
  · rintro ⟨front, first, after, back, htoken, hfirst, hafter⟩
    cases front with
    | nil =>
        obtain ⟨rfl, rfl⟩ := List.cons.inj htoken
        exact .inl ⟨hfirst, after, back, rfl, hafter⟩
    | cons _ front =>
        exact .inr ⟨front, first, after, back, (List.cons.inj htoken).2, hfirst, hafter⟩
  · rintro (⟨hbefore, after, back, rfl, hafter⟩ |
      ⟨front, first, after, back, rfl, hfirst, hafter⟩)
    · exact ⟨[], before, after, back, rfl, hbefore, hafter⟩
    · exact ⟨before :: front, first, after, back, rfl, hfirst, hafter⟩

theorem counts_iff {token : List Char} : counts token = true ↔ Counting token := by
  fun_induction counts token with
  | case1 before after rest hrest =>
      rw [Bool.or_eq_true, Bool.and_eq_true, hrest, @counting_cons_iff before]
      simp
  | case2 before rest hbefore hrest =>
      rw [hrest, counting_cons_iff]
      constructor
      · exact .inr
      · rintro (⟨-, after, back, rfl, -⟩ | hcounting)
        · exact absurd rfl (hbefore after back)
        · exact hcounting
  | case3 => simp [Counting]

instance : DecidablePred Counting := fun _ => decidable_of_iff _ counts_iff

/-- A token counts exactly when the pattern occurs in it. -/
theorem matches_iff_counting {token : List Char} : Matches token ↔ Counting token := by
  constructor
  · rintro ⟨front, column, direction, back, rfl, ⟨hcolumn, hword⟩, hdirection, hwords⟩
    obtain ⟨start, before, rfl⟩ := List.eq_nil_or_concat' column |>.resolve_left hcolumn
    obtain ⟨after, rest, rfl⟩ := List.exists_cons_of_ne_nil hdirection
    refine ⟨front ++ start, before, after, rest ++ back, by simp, ?_, ?_⟩
    · exact hword before (by simp)
    · exact hwords after List.mem_cons_self
  · rintro ⟨front, before, after, back, rfl, hbefore, hafter⟩
    exact ⟨front, [before], [after], back, by simp, by simpa using hbefore, by simpa using hafter⟩

/-! ### Tokens that are well formed -/

/-- The token spells the key: a column and the name of a direction, and no other colon. -/
def Spells (token : List Char) (key : SortKey) : Prop :=
  token = key.column.toList ++ ':' :: key.direction.name.toList ∧ token.count ':' = 1

/-- What is wrong with a token that spells no key. -/
inductive Faulty (token : List Char) : Error → Prop where
  | colons (hcount : token.count ':' ≠ 1) : Faulty token (.invalid "sort")
  | unknownDirection (column name : List Char) (hcount : token.count ':' = 1)
      (htoken : token = column ++ ':' :: name)
      (hunknown : ∀ direction : Direction, String.ofList name ≠ direction.name) :
      Faulty token (.invalid (String.ofList name))

/-- One colon cuts a token in two. -/
theorem pieces_eq_two_iff {token column name : List Char} :
    pieces ':' token = [column, name] ↔
      token = column ++ ':' :: name ∧ token.count ':' = 1 := by
  rw [pieces_eq_iff_count (by simp)]
  simp [joinPieces, eq_comm]

theorem ofToken_of_pieces {token column name : List Char}
    (hpieces : pieces ':' token = [column, name]) :
    ofToken token = (Direction.ofName (String.ofList name)).map
      fun direction => ⟨String.ofList column, direction⟩ := by
  rw [ofToken, hpieces]
  dsimp only
  cases Direction.ofName (String.ofList name) with
  | ok direction => rfl
  | error failure => rfl

/-- A token without exactly one colon is refused, whatever it says. -/
theorem ofToken_of_count {token : List Char} (hcount : token.count ':' ≠ 1) :
    ofToken token = .error (.invalid "sort") := by
  unfold ofToken
  split
  · next column name hpieces =>
      exact absurd (pieces_eq_two_iff.mp hpieces).2 hcount
  · rfl

theorem ofToken_of_spells {token : List Char} {key : SortKey} (hspells : Spells token key) :
    ofToken token = .ok key := by
  rw [ofToken_of_pieces (pieces_eq_two_iff.mpr hspells)]
  simp only [String.ofList_toList, Direction.ofName_name]
  rfl

theorem ofToken_of_faulty {token : List Char} {error : Error} (hfaulty : Faulty token error) :
    ofToken token = .error error := by
  cases hfaulty with
  | colons hcount => exact ofToken_of_count hcount
  | unknownDirection column name hcount htoken hunknown =>
      rw [ofToken_of_pieces (pieces_eq_two_iff.mpr ⟨htoken, hcount⟩),
        Direction.ofName_of_unknown hunknown]
      rfl

theorem spells_or_faulty (token : List Char) :
    (∃ key, Spells token key) ∨ ∃ error, Faulty token error := by
  by_cases hcount : token.count ':' = 1
  · have hlength := length_pieces ':' token
    rw [hcount] at hlength
    obtain ⟨column, name, hpieces⟩ := List.length_eq_two.mp hlength
    have htoken := (pieces_eq_two_iff.mp hpieces).1
    by_cases hknown : ∃ direction : Direction, String.ofList name = direction.name
    · obtain ⟨direction, hname⟩ := hknown
      have hspelled : token = column ++ ':' :: direction.name.toList := by
        rw [htoken, ← hname, String.toList_ofList]
      exact .inl ⟨⟨String.ofList column, direction⟩, by simpa using hspelled, hcount⟩
    · exact .inr ⟨_, .unknownDirection column name hcount htoken (not_exists.mp hknown)⟩
  · exact .inr ⟨_, .colons hcount⟩

theorem ofToken_eq_ok_iff {token : List Char} {key : SortKey} :
    ofToken token = .ok key ↔ Spells token key :=
  Outcome.eq_ok_iff_of_causes (fun _ => ofToken_of_spells) (fun _ => ofToken_of_faulty)
    (spells_or_faulty token)

theorem ofToken_eq_error_iff {token : List Char} {error : Error} :
    ofToken token = .error error ↔ Faulty token error :=
  Outcome.eq_error_iff_of_causes (fun _ => ofToken_of_spells) (fun _ => ofToken_of_faulty)
    (spells_or_faulty token)

/-! ### Whole texts -/

def HasCounting (text : String) : Prop :=
  ∃ token ∈ pieces ',' text.toList, Counting token

instance (text : String) : Decidable (HasCounting text) :=
  inferInstanceAs (Decidable (∃ token ∈ pieces ',' text.toList, Counting token))

/-- The tokens that count are read one after another, and the last of them is kept. -/
theorem parseTokens_eq (current : Option SortKey) (tokens : List (List Char)) :
    parseTokens current tokens =
      ((tokens.filter Counting).mapM ofToken).map fun keys => keys.getLast?.or current := by
  induction tokens generalizing current with
  | nil => rfl
  | cons token rest ih =>
      by_cases hcounting : Counting token
      · rw [parseTokens, if_pos (counts_iff.mpr hcounting),
          List.filter_cons_of_pos (by simpa using hcounting), List.mapM_cons]
        cases ofToken token with
        | error failure => rfl
        | ok key =>
            simp only [Outcome.ok_bind, ih]
            cases (rest.filter Counting).mapM ofToken with
            | error failure => rfl
            | ok keys => simp [Except.map, List.getLast?_cons, Option.or_some]
      · rw [parseTokens, if_neg (mt counts_iff.mp hcounting),
          List.filter_cons_of_neg (by simpa using hcounting), ih]

theorem parse_eq (raw : Option String) :
    parse raw =
      (((pieces ',' (raw.getD "").toList).filter Counting).mapM ofToken).map List.getLast? := by
  rw [parse, parseTokens_eq]
  cases ((pieces ',' (raw.getD "").toList).filter Counting).mapM ofToken with
  | error failure => rfl
  | ok keys => simp [Except.map]

theorem eq_nil_iff_of_mapM {text : String} {keys : List SortKey}
    (hkeys : ((pieces ',' text.toList).filter Counting).mapM ofToken = .ok keys) :
    keys = [] ↔ ¬ HasCounting text := by
  have hlength := (Outcome.mapM_eq_ok_iff.mp hkeys).length_eq
  rw [← List.length_eq_zero_iff, ← hlength, List.length_eq_zero_iff, List.filter_eq_nil_iff]
  simp [HasCounting]

/-- A text is read up to a comma and from there on, and the later part decides if any token of it
counts. -/
theorem parse_joined (front back : String) :
    parse (some (front ++ "," ++ back)) = do
      let earlier ← parse (some front)
      let later ← parse (some back)
      return if HasCounting back then later else earlier := by
  have htokens : pieces ',' (front ++ "," ++ back).toList =
      pieces ',' front.toList ++ pieces ',' back.toList := by
    rw [← pieces_append]
    simp
  simp only [parse_eq, Option.getD_some, htokens, List.filter_append, List.mapM_append]
  cases ((pieces ',' front.toList).filter Counting).mapM ofToken with
  | error failure => rfl
  | ok earlier =>
      cases hlater : ((pieces ',' back.toList).filter Counting).mapM ofToken with
      | error failure => rfl
      | ok later =>
          have hnil := eq_nil_iff_of_mapM hlater
          by_cases hcounting : HasCounting back
          · obtain ⟨first, rest, rfl⟩ :=
              List.exists_cons_of_ne_nil (mt hnil.mp (not_not.mpr hcounting))
            simp [Except.map, Outcome.ok_bind, hcounting, pure, Except.pure, List.getLast?_cons]
          · obtain rfl := hnil.mpr hcounting
            simp [Except.map, Outcome.ok_bind, hcounting, pure, Except.pure]

/-- A sort text is read when every counting token spells a key, and the last of these keys is the
one that comes out.  Otherwise it is refused for the first counting token that spells none: as
`sort` when it has more than one colon, and for its unknown direction when it has one.  Which
tokens count is what a search for the pattern says.  Of two texts with a comma between them, each
of which has to be read, the second decides if any token of it counts. -/
theorem parse_keeps_last :
    (∀ raw : Option String,
      let tokens := pieces ',' (raw.getD "").toList
      (∀ token ∈ tokens, Matches token ↔ Counting token) ∧
        (∀ key?, parse raw = .ok key? ↔
          ∃ keys, List.Forall₂ Spells (tokens.filter Counting) keys ∧ keys.getLast? = key?) ∧
        ∀ error, parse raw = .error error ↔
          ∃ front token back, tokens.filter Counting = front ++ token :: back ∧
            (∀ earlier ∈ front, ∃ key, Spells earlier key) ∧ Faulty token error) ∧
      ∀ front back : String,
        parse (some (front ++ "," ++ back)) = do
          let earlier ← parse (some front)
          let later ← parse (some back)
          return if HasCounting back then later else earlier := by
  refine ⟨?_, parse_joined⟩
  intro raw
  refine ⟨fun token _ => matches_iff_counting, ?_, ?_⟩
  · intro key?
    simp only [parse_eq, Outcome.map_eq_ok_iff, Outcome.mapM_eq_ok_iff, ofToken_eq_ok_iff]
  · intro error
    simp only [parse_eq, Outcome.map_eq_error_iff, Outcome.mapM_eq_error_iff, ofToken_eq_ok_iff,
      ofToken_eq_error_iff]

/-- The part before the colon may hold anything, while the direction must be there in full. -/
example : parse (some "year:desc,a b:asc,:,x") = .ok (some ⟨"a b", .ascending⟩) := by
  decide +kernel

example : parse (some "year:desc,name:ascending,a:b:c") = .error (.invalid "ascending") := by
  decide +kernel

end SortKey
end Roster.Listing
