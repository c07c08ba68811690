import Roster.Proofs.Service.Pages
import Roster.Proofs.Service.Queries
import Roster.Proofs.Table.Operators
import Mathlib.Tactic

/-!
# Filters on users and campaigns

All columns of users and campaigns hold texts or integers, so the relations of filters fit together
on every column that can be queried.  Only descriptions of campaigns can be empty: a campaign
without one is found by no comparison with a value.  A list of values can be longer than the
database takes, although it takes each of the values.
-/

namespace Roster

open Outcome

theorem User.kind_isExact : ∀ column ∈ User.schema.columns, column.kind.IsExact := by
  decide

theorem Campaign.kind_isExact : ∀ column ∈ Campaign.schema.columns, column.kind.IsExact := by
  decide

/-- On every column of users or campaigns that can be queried, and in whatever order the rows are
asked for, the answers of the relations fit together. -/
theorem filter_relations_cohere (engine : Engine) :
    (∀ (table : Table User) (sort : Option Listing.SortKey) (name : String)
        (column : Column User), User.schema.Offers name column →
        (∀ key ∈ sort, ∃ other, User.schema.Offers key.column other) →
          table.Coherent engine User.schema sort name column) ∧
      ∀ (table : Table Campaign) (sort : Option Listing.SortKey) (name : String)
        (column : Column Campaign), Campaign.schema.Offers name column →
        (∀ key ∈ sort, ∃ other, Campaign.schema.Offers key.column other) →
          table.Coherent engine Campaign.schema sort name column := by
  constructor
  · intro table sort name column hoffers hsort
    have hcompares : Table.Compares User.schema name column :=
      ⟨User.schema_isPlain, hoffers, User.kind_isExact column hoffers.mem,
        User.schema_isExact column hoffers.mem⟩
    exact hcompares.coherent engine table hsort
  · intro table sort name column hoffers hsort
    have hcompares : Table.Compares Campaign.schema name column :=
      ⟨Campaign.schema_isPlain, hoffers, Campaign.kind_isExact column hoffers.mem,
        Campaign.schema_isExact column hoffers.mem⟩
    exact hcompares.coherent engine table hsort

/-! ## An instance -/

def twoCampaigns : Table Campaign where
  rows := [⟨"1", "spring", 2020, none⟩, ⟨"2", "autumn", 2021, some "leaves"⟩]

def byYear : Listing.SortKey where
  column := "year"
  direction := .ascending

theorem Campaign.offers_description : ∃ column, Campaign.schema.Offers "description" column :=
  ⟨_, (Schema.column_eq_ok_iff Campaign.schema_isPlain).mp rfl⟩

theorem Campaign.offers_year : ∃ column, Campaign.schema.Offers "year" column :=
  ⟨_, (Schema.column_eq_ok_iff Campaign.schema_isPlain).mp rfl⟩

/-- A campaign without a description is not found outside a list of descriptions. -/
theorem filter_relations_cohere_descriptions :
    ∃ column, Campaign.schema.Offers "description" column ∧
      (∀ key ∈ some byYear, ∃ other, Campaign.schema.Offers key.column other) ∧
      twoCampaigns.Coherent .standard Campaign.schema (some byYear) "description" column ∧
      twoCampaigns.Answers .standard Campaign.schema none "description" .noneOf "roots"
        [⟨"2", "autumn", 2021, some "leaves"⟩] := by
  obtain ⟨column, hcolumn⟩ := Campaign.offers_description
  have hsort : ∀ key ∈ some byYear, ∃ other, Campaign.schema.Offers key.column other := by
    intro key hkey
    cases hkey
    exact Campaign.offers_year
  refine ⟨column, hcolumn, hsort, ?_, ?_⟩
  · exact (filter_relations_cohere .standard).2 twoCampaigns (some byYear) "description" column
      hcolumn hsort
  · unfold Table.Answers
    rw [Table.list_standard]
    decide +kernel

/-! ## Too many values -/

def oneUser : Table User where
  rows := [⟨"1", "a", "", "hash"⟩]

theorem items_repeatedText {count : Nat} (hcount : count ≠ 0) :
    Listing.items (repeatedText ',' "a" count) = List.replicate count "a" := by
  unfold Listing.items
  rw [pieces_repeatedText (by decide) hcount, List.filter_replicate, if_pos (by decide),
    List.map_replicate, String.ofList_toList]

/-- Each of the values is given to the statement. -/
theorem list_repeatedText {count : Nat} (hcount : Engine.maxVariables < count) :
    oneUser.list .standard User.schema none [⟨"username", repeatedText ',' "a" count, .oneOf⟩] =
      .error .database := by
  have hcells : Condition.readItems .text (repeatedText ',' "a" count) =
      .ok (List.replicate count (.text "a")) := by
    unfold Condition.readItems
    rw [← Listing.items, items_repeatedText (by omega)]
    exact mapM_replicate (show Kind.text.read "a" = .ok (.text "a") from rfl) count
  obtain ⟨column, hcolumn, hkind⟩ : ∃ column, User.schema.column "username" = .ok column ∧
      column.kind = .text := ⟨_, rfl, rfl⟩
  have htests : User.schema.tests [⟨"username", repeatedText ',' "a" count, .oneOf⟩] =
      .ok [⟨column, .oneOf (List.replicate count (.text "a"))⟩] := by
    simp [Schema.tests, Schema.test, hcolumn, Condition.ofRelation, hkind, hcells, ok_bind,
      pure, Except.pure, Except.map]
  rw [Table.list_standard, htests, ok_bind, if_neg]
  rintro ⟨-, hprepared, -⟩
  have hrefuses : Engine.standard.refuses (.rows (List.map Test.term
      [⟨column, .oneOf (List.replicate count (.text "a"))⟩]) none) = true := by
    apply Engine.standard_refuses_of_variables
    simpa [Engine.variableCount, Query.terms, Test.term, Engine.bindings] using hcount
  rw [hrefuses] at hprepared
  cases hprepared

/-- Every value of the list finds the user, and the list has more values than a statement takes. -/
theorem lists_of_values_are_bounded :
    (∀ item ∈ Listing.items (repeatedText ',' "a" 250001),
        oneUser.Answers .standard User.schema none "username" .equal item oneUser.rows) ∧
      oneUser.list .standard User.schema none
          [⟨"username", repeatedText ',' "a" 250001, .oneOf⟩] =
        .error .database := by
  refine ⟨?_, list_repeatedText (by decide)⟩
  intro item hitem
  rw [items_repeatedText (by decide)] at hitem
  rw [List.eq_of_mem_replicate hitem]
  unfold Table.Answers
  rw [Table.list_standard]
  decide +kernel

end Roster
