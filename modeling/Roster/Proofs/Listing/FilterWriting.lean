import Roster.Proofs.Listing.FilterText
import Mathlib.Tactic

/-!
# Filters that are written and read back

A filter is written as its column, its value and the name of its relation, with colons between
them, and a list of filters as such tokens with bars between them.  A list comes back from its
text when no part can be taken for a separator and every token counts.  The filters that come out
of any text are of this kind: what makes a token count is the last character of the column and the
presence of a value, and what cuts it in three leaves no colon in either.
-/

namespace Roster.Listing

namespace Relation

/-- The names of the relations can stand at the end of a token: they begin with a word character
and hold no separator. -/
theorem operator_plain {name : String} {relation : Relation}
    (hmem : (name, relation) ∈ operators) :
    ':' ∉ name.toList ∧ '|' ∉ name.toList ∧
      ∃ first rest, name.toList = first :: rest ∧ isWord first = true := by
  have hentries : ∀ entry ∈ operators, ':' ∉ entry.1.toList ∧ '|' ∉ entry.1.toList ∧
      entry.1.toList.head?.any isWord = true := by
    decide
  obtain ⟨hcolon, hbar, hword⟩ := hentries (name, relation) hmem
  refine ⟨hcolon, hbar, ?_⟩
  cases hname : name.toList with
  | nil => simp [hname] at hword
  | cons first rest => exact ⟨first, rest, rfl, by simpa [hname] using hword⟩

theorem operator?_eq_some_iff {relation : Relation} {name : String} :
    relation.operator? = some name ↔ (name, relation) ∈ operators := by
  constructor
  · intro hname
    obtain ⟨entry, hentry, rfl⟩ := Option.map_eq_some_iff.mp hname
    have hrelation : entry.2 = relation := by
      simpa using List.find?_some hentry
    rw [← hrelation]
    exact List.mem_of_find?_eq_some hentry
  · intro hmem
    have hentries : ∀ entry ∈ operators, entry.2.operator? = some entry.1 := by decide
    exact hentries (name, relation) hmem

end Relation

namespace Filter

/-! ### Filters that can be written -/

/-- The column ends in a word character, the value is not empty, neither of them holds a
separator, and the relation has a name. -/
structure Writable (filter : Filter) : Prop where
  column : ∃ front last, filter.column.toList = front ++ [last] ∧ isWord last = true
  value : filter.value.toList ≠ []
  colons : ':' ∉ filter.column.toList ∧ ':' ∉ filter.value.toList
  bars : '|' ∉ filter.column.toList ∧ '|' ∉ filter.value.toList
  relation : ∃ name, (name, filter.relation) ∈ Relation.operators

/-- The token can stand between bars, where it is read as the filter. -/
structure ReadsAs (token : List Char) (filter : Filter) : Prop where
  bars : '|' ∉ token
  counting : Counting token
  spells : Spells token filter

theorem Writable.token {filter : Filter} (hwritable : Writable filter) :
    ∃ token, filter.token? = some token ∧ ReadsAs token filter := by
  obtain ⟨name, hname⟩ := hwritable.relation
  obtain ⟨hcolon, hbar, first, rest, hfirst, hafter⟩ := Relation.operator_plain hname
  obtain ⟨front, before, hcolumn, hbefore⟩ := hwritable.column
  refine ⟨filter.column.toList ++ ':' :: filter.value.toList ++ ':' :: name.toList, ?_, ?_, ?_, ?_⟩
  · simp [token?, Relation.operator?_eq_some_iff.mpr hname]
  · simp [hwritable.bars, hbar]
  · exact ⟨front, before, filter.value.toList, first, rest, by simp [hcolumn, hfirst],
      hwritable.value, hbefore, hafter⟩
  · refine ⟨name, hname, rfl, ?_⟩
    simp [List.count_append, List.count_eq_zero.mpr hwritable.colons.1,
      List.count_eq_zero.mpr hwritable.colons.2, List.count_eq_zero.mpr hcolon]

/-- A token with two colons is cut at the same places, whether it is looked at for what makes it
count or for what it spells. -/
theorem ReadsAs.writable {token : List Char} {filter : Filter} (hreads : ReadsAs token filter) :
    Writable filter := by
  obtain ⟨name, hname, htoken, hcount⟩ := hreads.spells
  obtain ⟨front, before, middle, after, back, hparts, hmiddle, hbefore, -⟩ := hreads.counting
  have hspelled : pieces ':' token = [filter.column.toList, filter.value.toList, name.toList] :=
    pieces_eq_three_iff.mpr ⟨htoken, hcount⟩
  have hcounted : pieces ':' token = [front ++ [before], middle, after :: back] :=
    pieces_eq_three_iff.mpr ⟨by simpa using hparts, hcount⟩
  obtain ⟨hcolumn, hvalue, -⟩ : front ++ [before] = filter.column.toList ∧
      middle = filter.value.toList ∧ after :: back = name.toList := by
    simpa [hcounted] using hspelled
  have hcolons : ∀ part ∈ pieces ':' token, ':' ∉ part := fun part hpart =>
    not_mem_of_mem_pieces hpart
  have hbars := hreads.bars
  rw [hspelled] at hcolons
  rw [htoken] at hbars
  simp only [List.mem_append, List.mem_cons, not_or] at hbars
  exact {
    column := ⟨front, before, hcolumn.symm, hbefore⟩
    value := hvalue ▸ hmiddle
    colons := ⟨hcolons _ (by simp), hcolons _ (by simp)⟩
    bars := ⟨hbars.1.1, hbars.1.2.2⟩
    relation := ⟨name, hname⟩ }

/-! ### Whole lists -/

theorem exists_tokens {filters : List Filter} (hwritable : ∀ filter ∈ filters, Writable filter) :
    ∃ tokens, filters.mapM token? = some tokens ∧ List.Forall₂ ReadsAs tokens filters := by
  induction filters with
  | nil => exact ⟨[], rfl, .nil⟩
  | cons filter rest ih =>
      obtain ⟨hfilter, hrest⟩ := List.forall_mem_cons.mp hwritable
      obtain ⟨token, htoken, hreads⟩ := hfilter.token
      obtain ⟨tokens, htokens, hall⟩ := ih hrest
      exact ⟨token :: tokens, by simp [List.mapM_cons, htoken, htokens], .cons hreads hall⟩

/-- Tokens that are joined with bars come apart again, and all of them count. -/
theorem parse_joinPieces {tokens : List (List Char)} {filters : List Filter}
    (hreads : List.Forall₂ ReadsAs tokens filters) :
    parse (some (String.ofList (joinPieces '|' tokens))) = .ok filters := by
  obtain ⟨hplain, hspells⟩ : (∀ token ∈ tokens, '|' ∉ token ∧ Counting token) ∧
      List.Forall₂ Spells tokens filters := by
    rw [← List.forall₂_and_left]
    exact hreads.imp fun token filter hread => ⟨⟨hread.bars, hread.counting⟩, hread.spells⟩
  by_cases hempty : tokens = []
  · subst hempty
    cases hspells
    rfl
  · have hpieces : pieces '|' (joinPieces '|' tokens) = tokens :=
      pieces_joinPieces hempty fun token htoken => (hplain token htoken).1
    have hcounting : tokens.filter Counting = tokens := by
      rw [List.filter_eq_self]
      intro token htoken
      simpa using (hplain token htoken).2
    rw [parse_eq, Option.getD_some, String.toList_ofList, hpieces, hcounting,
      Outcome.mapM_eq_ok_iff]
    exact hspells.imp fun token filter => ofToken_of_spells

theorem writable_of_parse {raw : Option String} {filters : List Filter}
    (hparse : parse raw = .ok filters) : ∀ filter ∈ filters, Writable filter := by
  rw [parse_eq] at hparse
  intro filter hfilter
  obtain ⟨token, hmem, htoken⟩ := (Outcome.mem_mapM_iff hparse).mp hfilter
  obtain ⟨hpiece, hcounting⟩ := List.mem_filter.mp hmem
  have hreads : ReadsAs token filter := {
    bars := not_mem_of_mem_pieces hpiece
    counting := by simpa using hcounting
    spells := ofToken_eq_ok_iff.mp htoken }
  exact hreads.writable

/-- The lists of filters that are read from some text are those that can be written, and each of
them is read from what it is written as. -/
theorem written_filters_read_back (filters : List Filter) :
    ((∀ filter ∈ filters, Writable filter) ↔
        ∃ text, write? filters = some text ∧ parse (some text) = .ok filters) ∧
      ((∀ filter ∈ filters, Writable filter) ↔ ∃ raw, parse raw = .ok filters) := by
  have hwritten : (∀ filter ∈ filters, Writable filter) →
      ∃ text, write? filters = some text ∧ parse (some text) = .ok filters := by
    intro hwritable
    obtain ⟨tokens, htokens, hreads⟩ := exists_tokens hwritable
    exact ⟨_, by rw [write?, htokens]; rfl, parse_joinPieces hreads⟩
  constructor
  · refine ⟨hwritten, ?_⟩
    rintro ⟨text, -, hparse⟩
    exact writable_of_parse hparse
  · constructor
    · intro hwritable
      obtain ⟨text, -, hparse⟩ := hwritten hwritable
      exact ⟨some text, hparse⟩
    · rintro ⟨raw, hparse⟩
      exact writable_of_parse hparse

/-- A value may hold anything but separators, line breaks and commas included. -/
example : write? [⟨"the year", "2020,\n 2021", .noneOf⟩, ⟨"é_", " ", .like⟩] =
    some "the year:2020,\n 2021:not|é_: :like" := by
  decide +kernel

end Filter
end Roster.Listing
