import Roster.Proofs.Table.Paging
import Mathlib.Tactic

/-!
# Tables through a view

A view shows a part of every row, and a schema of its own says how the shown rows are seen.  When
the two schemas agree on the key and on every column that a query may name, looking something up
and then viewing it is the same as looking it up in the table of the shown rows.  Whatever the view
hides has no part in the outcome, not even in an error, since the database engine goes by the same
columns.
-/

namespace Roster

open Outcome

variable {ρ σ : Type} {view : ρ → σ}

def Column.through (view : ρ → σ) (column : Column σ) : Column ρ :=
  { column with cell := fun row => column.cell (view row) }

def Test.through (view : ρ → σ) (test : Test σ) : Test ρ where
  column := test.column.through view
  condition := test.condition

/-- The table of the shown rows. -/
def Table.seen (view : ρ → σ) (table : Table ρ) : Table σ where
  rows := table.rows.map view
  failing := table.failing

/-- On rows the one schema is what the other one is on what is shown of them. -/
structure Schema.Shows (schema : Schema ρ) (view : ρ → σ) (shown : Schema σ) : Prop where
  key : ∀ row, schema.key row = shown.key (view row)
  column : ∀ name, schema.column name = (shown.column name).map (Column.through view)
  shown : ∀ row, schema.shown row = shown.shown (view row)

/-! ## Tests and rearrangements -/

namespace Schema

variable {schema : Schema ρ} {shown : Schema σ}

theorem Shows.test (hshows : schema.Shows view shown) (filter : Listing.Filter) :
    schema.test filter = (shown.test filter).map (Test.through view) := by
  unfold Schema.test
  rw [hshows.column]
  cases shown.column filter.column with
  | error error => rfl
  | ok column =>
      have hkind : (column.through view).kind = column.kind := rfl
      simp only [Except.map, ok_bind, hkind]
      cases Condition.ofRelation column.kind filter.relation filter.value with
      | error error => rfl
      | ok condition => rfl

theorem Shows.tests (hshows : schema.Shows view shown) (filters : List Listing.Filter) :
    schema.tests filters = (shown.tests filters).map (List.map (Test.through view)) := by
  unfold Schema.tests
  induction filters with
  | nil => rfl
  | cons filter rest ih =>
      rw [List.mapM_cons, List.mapM_cons, hshows.test, ih]
      cases shown.test filter with
      | error error => rfl
      | ok test =>
          cases rest.mapM shown.test with
          | error error => rfl
          | ok tests => rfl

/-- Sorting rows and showing them is showing them and sorting what is shown. -/
theorem Shows.arrangement (hshows : schema.Shows view shown) (sort : Option Listing.SortKey) :
    (∃ error, schema.arrangement sort = .error error ∧
        shown.arrangement sort = .error error) ∨
      ∃ arrange arrange', schema.arrangement sort = .ok arrange ∧
        shown.arrangement sort = .ok arrange' ∧
        ∀ rows, (arrange rows).map view = arrange' (rows.map view) := by
  unfold Schema.arrangement
  cases sort with
  | none => exact .inr ⟨id, id, rfl, rfl, fun _ => rfl⟩
  | some key =>
      simp only [hshows.column]
      cases shown.column key.column with
      | error error => exact .inl ⟨error, rfl, rfl⟩
      | ok column =>
          refine .inr ⟨_, _, rfl, rfl, ?_⟩
          intro rows
          apply List.map_mergeSort
          intro a _ b _
          rfl

end Schema

namespace Test

theorem allHold_through (tests : List (Test σ)) :
    allHold (tests.map (through view)) = fun row => allHold tests (view row) := by
  funext row
  simp only [allHold, List.all_map]
  rfl

theorem map_term_through (tests : List (Test σ)) :
    (tests.map (through view)).map term = tests.map term := by
  rw [List.map_map]
  rfl

end Test

/-! ## Lookups and pages -/

namespace Table

variable {schema : Schema ρ} {shown : Schema σ} {table : Table ρ}

@[simp] theorem attempt_seen (table : Table ρ) (statement : Statement) :
    (table.seen view).attempt statement = table.attempt statement := rfl

@[simp] theorem failing_seen (table : Table ρ) : (table.seen view).failing = table.failing := rfl

@[simp] theorem rows_seen (table : Table ρ) :
    (table.seen view).rows = table.rows.map view := rfl

theorem find?_seen (hshows : schema.Shows view shown) (key : String) (table : Table ρ) :
    (table.seen view).find? shown key = (table.find? schema key).map (Option.map view) := by
  unfold find?
  rw [attempt_seen]
  cases table.attempt .select with
  | error error => rfl
  | ok done =>
      simp only [ok_bind, rows_seen, List.find?_map, Function.comp_def, ← hshows.key]
      rfl

theorem findName?_seen (cell : σ → Cell) (name : LooseText) (table : Table ρ) :
    (table.seen view).findName? cell name =
      (table.findName? (fun row => cell (view row)) name).map (Option.map view) := by
  unfold findName? bindText
  rw [attempt_seen]
  cases table.attempt .select with
  | error error => rfl
  | ok done =>
      simp only [ok_bind]
      cases name.lower.encode.mapError StoreError.unencodable with
      | error error => rfl
      | ok wanted =>
          simp only [ok_bind, rows_seen, List.find?_map, Function.comp_def]
          rfl

theorem shown_seen (hshows : schema.Shows view shown) (table : Table ρ) :
    (table.seen view).rows.map shown.shown = table.rows.map schema.shown := by
  rw [rows_seen, List.map_map]
  apply List.map_congr_left
  intro row _
  exact (hshows.shown row).symm

theorem run_seen (hshows : schema.Shows view shown) (engine : Engine) (query : Query)
    (tests : List (Test σ)) (table : Table ρ) :
    (table.seen view).run engine shown query tests =
      (table.run engine schema query (tests.map (Test.through view))).map (List.map view) := by
  have hfilter : (engine.arrivals query shown.shown (table.seen view).rows).filter
      (Test.allHold tests) =
        ((engine.arrivals query schema.shown table.rows).filter
          (Test.allHold (tests.map (Test.through view)))).map view := by
    rw [rows_seen, Engine.arrivals_map, funext fun row => (hshows.shown row).symm,
      Test.allHold_through, List.filter_map]
    rfl
  unfold run
  rw [attempt_seen, shown_seen hshows, hfilter]
  cases table.attempt .select with
  | error error => rfl
  | ok done =>
      simp only [ok_bind]
      split_ifs
      · rfl
      · rfl
      · rfl
      · rfl

theorem page_seen (hshows : schema.Shows view shown) (engine : Engine)
    (request : Listing.Request) (table : Table ρ) :
    (table.seen view).page engine shown request =
      (table.page engine schema request).map (Page.map view) := by
  unfold page
  rw [hshows.tests]
  cases shown.tests request.filters with
  | error error => rfl
  | ok tests =>
      simp only [Except.map, ok_bind]
      rcases hshows.arrangement request.sort with
        ⟨error, hrows, hshown⟩ | ⟨arrange, arrange', hrows, hshown, harrange⟩
      · rw [hrows, hshown]
        rfl
      · rw [hrows, hshown]
        simp only [ok_bind, run_seen hshows, Test.map_term_through]
        cases table.run engine schema (.count (tests.map Test.term))
            (tests.map (Test.through view)) with
        | error error => rfl
        | ok counted =>
            cases table.run engine schema (.ofRequest (tests.map Test.term) request)
                (tests.map (Test.through view)) with
            | error error => rfl
            | ok rows =>
                simp only [Except.map, ok_bind, List.length_map, ← harrange, inside_map]
                split_ifs
                · rfl
                · rfl

/-! ## Writing -/

theorem overwrite_seen (hshows : schema.Shows view shown) (row : ρ) (rows : List ρ) :
    overwrite shown (view row) (rows.map view) = (overwrite schema row rows).map view := by
  unfold overwrite
  rw [List.map_map, List.map_map]
  apply List.map_congr_left
  intro old _
  simp only [Function.comp_apply, ← hshows.key]
  split_ifs
  · rfl
  · rfl

theorem keys_seen (hshows : schema.Shows view shown) (table : Table ρ) :
    (table.seen view).rows.map shown.key = table.rows.map schema.key := by
  rw [rows_seen, List.map_map]
  apply List.map_congr_left
  intro row _
  exact (hshows.key row).symm

theorem inserting_seen (row : ρ) (table : Table ρ) :
    (table.seen view).inserting (view row) = (table.inserting row).map (List.map view) := by
  unfold inserting
  rw [attempt_seen]
  cases table.attempt .insert with
  | error error => rfl
  | ok done =>
      simp only [ok_bind, rows_seen]
      exact congrArg Except.ok (by rw [List.map_append]; rfl)

theorem deleting_seen (hshows : schema.Shows view shown) (key : String) (table : Table ρ) :
    (table.seen view).deleting shown key = (table.deleting schema key).map (List.map view) := by
  unfold deleting
  rw [attempt_seen]
  cases table.attempt .delete with
  | error error => rfl
  | ok done =>
      simp only [ok_bind, rows_seen, List.filter_map, Function.comp_def, ← hshows.key]
      rfl

/-- Whether a statement is needed to replace a row may depend on what is hidden.  This cannot be
seen as long as updates do not fail. -/
theorem replace_seen [DecidableEq ρ] [DecidableEq σ] {old row : ρ}
    (hshows : schema.Shows view shown) (hkeys : (table.rows.map schema.key).Nodup)
    (hold : old ∈ table.rows) (hkey : schema.key row = schema.key old)
    (haccept : schema.accept row = .ok row)
    (haccept' : shown.accept (view row) = .ok (view row)) (hupdate : .update ∉ table.failing) :
    (table.seen view).replace shown (view old) (shown.revised (view old) (view row)) =
      (table.replace schema old (schema.revised old row)).map
        (Prod.map view (Table.seen view)) := by
  have hkeys' : ((table.seen view).rows.map shown.key).Nodup := by
    rwa [keys_seen hshows]
  have hkey' : shown.key (view row) = shown.key (view old) := by
    rwa [← hshows.key, ← hshows.key]
  rw [replace_eq hkeys hold hkey haccept hupdate,
    replace_eq hkeys' (List.mem_map_of_mem hold) hkey' haccept' hupdate, rows_seen,
    overwrite_seen hshows]
  rfl

theorem put_seen [DecidableEq ρ] [DecidableEq σ] {row : ρ}
    (hshows : schema.Shows view shown) (hkeys : (table.rows.map schema.key).Nodup)
    (haccept : schema.accept row = .ok row)
    (haccept' : shown.accept (view row) = .ok (view row)) (hupdate : .update ∉ table.failing) :
    (table.seen view).put shown (Draft.ofRow shown (view row)) =
      (table.put schema (Draft.ofRow schema row)).map (Prod.map view (Table.seen view)) := by
  have hdraft : (Draft.ofRow shown (view row)).key = (Draft.ofRow schema row).key :=
    (hshows.key row).symm
  unfold put
  rw [hdraft, find?_seen hshows]
  cases hfind : table.find? schema (Draft.ofRow schema row).key with
  | error error => rfl
  | ok found =>
      cases found with
      | none =>
          simp only [Except.map, ok_bind, Option.map_none, Draft.ofRow, haccept, haccept',
            inserting_seen]
          cases table.inserting row with
          | error error => rfl
          | ok rows => rfl
      | some old =>
          have hlookup := (find?_eq_ok_iff.mp hfind).2
          have hkey : schema.key old = (Draft.ofRow schema row).key := by
            simpa using List.find?_some hlookup
          exact replace_seen hshows hkeys (List.mem_of_find?_eq_some hlookup) hkey.symm haccept
            haccept' hupdate

theorem delete_seen (hshows : schema.Shows view shown) (key : String) (table : Table ρ) :
    (table.seen view).delete shown key =
      (table.delete schema key).map (Prod.map id (Table.seen view)) := by
  unfold delete
  rw [find?_seen hshows, deleting_seen hshows]
  cases table.find? schema key with
  | error error => rfl
  | ok found =>
      cases found with
      | none => rfl
      | some row =>
          simp only [Except.map, ok_bind, Option.map_some]
          cases table.deleting schema key with
          | error error => rfl
          | ok rows => rfl

end Table
end Roster
