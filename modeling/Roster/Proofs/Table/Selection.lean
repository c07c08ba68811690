import Roster.Table.Page
import Roster.Proofs.Table.Order
import Roster.Proofs.Table.Rows
import Mathlib.Tactic

/-!
# Select statements

The database engine decides whether a select statement comes to its end, and in which order it comes
to the rows.  The rows themselves are those that pass the tests, and a sort key puts them in its
order, whatever the engine does.  So everything that is known of a result is said of a permutation
of the rows that pass, and two results differ at most in the order of rows with equal sort keys.
-/

namespace Roster

open Outcome

variable {ρ : Type}

namespace Engine

variable {engine : Engine} {query : Query} {shown : ρ → Record} {rows : List ρ}

theorem arrivals_perm (engine : Engine) (query : Query) (shown : ρ → Record) (rows : List ρ) :
    (engine.arrivals query shown rows).Perm rows := by
  have hplaced := (List.mergeSort_perm rows.zipIdx fun a b =>
    engine.place query (rows.map shown) a.2 ≤ engine.place query (rows.map shown) b.2).map Prod.fst
  rwa [List.zipIdx_map_fst] at hplaced

/-- The engine goes by what is shown of the rows. -/
theorem arrivals_map {σ : Type} (view : σ → ρ) (rows : List σ) :
    engine.arrivals query shown (rows.map view) =
      (engine.arrivals query (fun row => shown (view row)) rows).map view := by
  unfold arrivals
  simp only [List.zipIdx_map, List.map_map, Function.comp_def]
  rw [← List.map_mergeSort (f := Prod.map view id)]
  · rw [List.map_map]
    rfl
  · intro a _ b _
    rfl

/-- A statement that asks for all rows brings them as they are stored. -/
def Scans (engine : Engine) : Prop :=
  ∀ records first second, first ≤ second →
    engine.place (.rows [] none) records first ≤ engine.place (.rows [] none) records second

/-- The engine comes to the rows in the same order for every window of one size. -/
def Steady (engine : Engine) : Prop :=
  ∀ terms sort limit offset other, engine.place (.window terms sort offset limit) =
    engine.place (.window terms sort other limit)

/-- Places in the order of the rows leave them as they are stored. -/
theorem arrivals_eq_of_place_le (hplaces : ∀ first second, first ≤ second →
    engine.place query (rows.map shown) first ≤ engine.place query (rows.map shown) second) :
    engine.arrivals query shown rows = rows := by
  have hplaced : rows.zipIdx.Pairwise fun a b =>
      decide (engine.place query (rows.map shown) a.2 ≤
        engine.place query (rows.map shown) b.2) = true := by
    have hordered : rows.zipIdx.Pairwise fun a b => a.2 < b.2 := by
      rw [List.pairwise_iff_getElem]
      intro i j hi hj hij
      simpa using hij
    refine hordered.imp ?_
    intro a b hless
    rw [decide_eq_true_eq]
    exact hplaces a.2 b.2 hless.le
  unfold arrivals
  simp only [List.mergeSort_of_pairwise hplaced, List.zipIdx_map_fst]

theorem Scans.arrivals_eq (hscans : engine.Scans) (shown : ρ → Record) (rows : List ρ) :
    engine.arrivals (.rows [] none) shown rows = rows :=
  arrivals_eq_of_place_le (hscans _)

@[simp] theorem standard_arrivals (query : Query) (shown : ρ → Record) (rows : List ρ) :
    standard.arrivals query shown rows = rows :=
  arrivals_eq_of_place_le fun _ _ _ => Nat.le_refl 0

theorem standard_scans : standard.Scans :=
  fun _ _ _ _ => Nat.le_refl 0

theorem standard_steady : standard.Steady :=
  fun _ _ _ _ _ => rfl

end Engine

/-! ## What is read of a query -/

/-- The filters and the sort key of a query are acceptable, and ask for these tests and this
arrangement. -/
structure Schema.Reads (schema : Schema ρ) (sort : Option Listing.SortKey)
    (filters : List Listing.Filter) (tests : List (Test ρ)) (arrange : List ρ → List ρ) :
    Prop where
  filtered : schema.tests filters = .ok tests
  sorted : schema.arrangement sort = .ok arrange

namespace Table

variable {engine : Engine} {schema : Schema ρ} {query : Query} {tests : List (Test ρ)}
  {sort : Option Listing.SortKey} {filters : List Listing.Filter} {table : Table ρ}
  {arrange : List ρ → List ρ} {rows others : List ρ} {error : StoreError}

/-- The statement comes to its end on the rows of the table. -/
def Bears (engine : Engine) (schema : Schema ρ) (query : Query) (table : Table ρ) : Prop :=
  engine.Runs query (table.rows.map schema.shown)

instance (engine : Engine) (schema : Schema ρ) (query : Query) (table : Table ρ) :
    Decidable (table.Bears engine schema query) :=
  inferInstanceAs (Decidable (engine.Runs query (table.rows.map schema.shown)))

/-- The rows that pass the tests, in the order of the sort key.  The order of rows that the sort key
does not tell apart is left open. -/
structure Result (schema : Schema ρ) (sort : Option Listing.SortKey) (tests : List (Test ρ))
    (table : Table ρ) (rows : List ρ) : Prop where
  perm : rows.Perm (table.rows.filter (Test.allHold tests))
  sorted : ∀ key ∈ sort, ∃ column, schema.column key.column = .ok column ∧
    rows.Pairwise fun first second =>
      Cell.InOrder key.direction (column.cell first) (column.cell second)

/-! ## Single statements -/

/-- The rows that a statement brings when it comes to its end. -/
def found (engine : Engine) (schema : Schema ρ) (query : Query) (tests : List (Test ρ))
    (table : Table ρ) : List ρ :=
  (engine.arrivals query schema.shown table.rows).filter (Test.allHold tests)

theorem found_perm (engine : Engine) (schema : Schema ρ) (query : Query) (tests : List (Test ρ))
    (table : Table ρ) :
    (table.found engine schema query tests).Perm (table.rows.filter (Test.allHold tests)) :=
  (engine.arrivals_perm query schema.shown table.rows).filter _

@[simp] theorem found_standard :
    table.found .standard schema query tests = table.rows.filter (Test.allHold tests) := by
  simp [found]

/-- A statement whose numbers fit brings its rows or ends with a database error. -/
theorem run_eq (hfits : query.fits = true) :
    table.run engine schema query tests =
      if .select ∉ table.failing ∧ table.Bears engine schema query then
        .ok (table.found engine schema query tests)
      else .error .database := by
  unfold run
  by_cases hselect : .select ∈ table.failing
  · have hstops : ¬ (.select ∉ table.failing ∧ table.Bears engine schema query) :=
      fun hworks => hworks.1 hselect
    have hattempt : table.attempt .select = .error .database := by
      simp [attempt, hselect]
    rw [hattempt, if_neg hstops]
    rfl
  · rw [show table.attempt .select = .ok () from attempt_eq_ok_iff.mpr hselect, ok_bind]
    by_cases hruns : table.Bears engine schema query
    · have hworks : .select ∉ table.failing ∧ table.Bears engine schema query :=
        ⟨hselect, hruns⟩
      rw [if_pos hworks, hruns.1, hruns.2, hfits]
      rfl
    · have hstops : ¬ (.select ∉ table.failing ∧ table.Bears engine schema query) :=
        fun hworks => hruns hworks.2
      rw [if_neg hstops, hfits]
      by_cases hrefuses : engine.refuses query = true
      · rw [if_pos hrefuses]
      · have hbreaks : engine.breaksOff query (table.rows.map schema.shown) = true := by
          by_contra hended
          exact hruns ⟨Bool.eq_false_iff.mpr hrefuses, Bool.eq_false_iff.mpr hended⟩
        rw [if_neg hrefuses, hbreaks]
        rfl

theorem run_eq_ok_iff :
    table.run engine schema query tests = .ok rows ↔
      .select ∉ table.failing ∧ query.fits = true ∧ table.Bears engine schema query ∧
        table.found engine schema query tests = rows := by
  cases hfits : query.fits with
  | true =>
      rw [run_eq hfits]
      split_ifs with hbears
      · simp [hbears]
      · simp only [false_iff]
        rintro ⟨hselect, -, hruns, -⟩
        exact hbears ⟨hselect, hruns⟩
  | false =>
      simp only [Bool.false_eq_true, false_and, and_false, iff_false]
      unfold run
      intro hrun
      obtain ⟨_, -, hrows⟩ := bind_eq_ok_iff.mp hrun
      rw [hfits] at hrows
      by_cases hrefuses : engine.refuses query = true
      · rw [if_pos hrefuses] at hrows
        cases hrows
      · rw [if_neg hrefuses] at hrows
        cases hrows

/-! ## Whole results -/

theorem list_eq (hreads : schema.Reads sort filters tests arrange) :
    table.list engine schema sort filters =
      if .select ∉ table.failing ∧ table.Bears engine schema (.rows (tests.map Test.term) sort) then
        .ok (arrange (table.found engine schema (.rows (tests.map Test.term) sort) tests))
      else .error .database := by
  unfold list
  rw [hreads.filtered, hreads.sorted, ok_bind, ok_bind, run_eq rfl]
  split_ifs
  · rfl
  · rfl

/-- Without a sort key the standard engine brings the rows as they are stored. -/
theorem list_standard (schema : Schema ρ) (filters : List Listing.Filter) (table : Table ρ) :
    table.list .standard schema none filters =
      (schema.tests filters >>= fun tests =>
        if .select ∉ table.failing ∧
            table.Bears .standard schema (.rows (tests.map Test.term) none) then
          .ok (table.rows.filter (Test.allHold tests))
        else .error .database) := by
  cases htests : schema.tests filters with
  | error error =>
      unfold list
      rw [htests]
      rfl
  | ok tests =>
      rw [list_eq ⟨htests, rfl⟩, found_standard]
      rfl

theorem list_eq_ok_iff :
    table.list engine schema sort filters = .ok rows ↔
      ∃ tests arrange, schema.Reads sort filters tests arrange ∧ .select ∉ table.failing ∧
        table.Bears engine schema (.rows (tests.map Test.term) sort) ∧
          arrange (table.found engine schema (.rows (tests.map Test.term) sort) tests) =
            rows := by
  constructor
  · intro hlist
    unfold list at hlist
    obtain ⟨tests, htests, hlist⟩ := bind_eq_ok_iff.mp hlist
    obtain ⟨arrange, harrange, hlist⟩ := bind_eq_ok_iff.mp hlist
    obtain ⟨found, hrun, hdone⟩ := bind_eq_ok_iff.mp hlist
    obtain ⟨hselect, -, hbears, rfl⟩ := run_eq_ok_iff.mp hrun
    exact ⟨tests, arrange, ⟨htests, harrange⟩, hselect, hbears, pure_eq_ok_iff.mp hdone⟩
  · rintro ⟨tests, arrange, hreads, hselect, hbears, rfl⟩
    rw [list_eq hreads, if_pos ⟨hselect, hbears⟩]

/-- Whatever permutation of the rows is arranged, it becomes a result. -/
theorem result_of_perm (hexact : schema.IsExact)
    (harrange : schema.arrangement sort = .ok arrange)
    (hperm : rows.Perm (table.rows.filter (Test.allHold tests))) :
    table.Result schema sort tests (arrange rows) where
  perm := (Schema.arrangement_perm harrange rows).trans hperm
  sorted := by
    intro key hkey
    obtain rfl : sort = some key := hkey
    obtain ⟨column, hcolumn, hsorts⟩ := bind_eq_ok_iff.mp harrange
    obtain rfl := pure_eq_ok_iff.mp hsorts
    exact ⟨column, hcolumn,
      Schema.mergeSort_inOrder (hexact column (Schema.column_eq_ok hcolumn)) rows⟩

theorem result_of_list (hexact : schema.IsExact)
    (hreads : schema.Reads sort filters tests arrange)
    (hlist : table.list engine schema sort filters = .ok rows) :
    table.Result schema sort tests rows := by
  rw [list_eq hreads] at hlist
  split_ifs at hlist
  cases hlist
  exact result_of_perm hexact hreads.sorted (found_perm _ _ _ _ _)

/-! ## Results with the same rows -/

/-- The lists have the same rows, in orders that differ at most for rows with equal sort keys. -/
structure Alike (schema : Schema ρ) (sort : Option Listing.SortKey) (rows others : List ρ) :
    Prop where
  perm : rows.Perm others
  keys : ∀ key ∈ sort, ∀ column, schema.column key.column = .ok column →
    rows.map column.cell = others.map column.cell

/-- No two rows that pass the tests have the same sort key. -/
def Separates (schema : Schema ρ) (sort : Option Listing.SortKey) (tests : List (Test ρ))
    (table : Table ρ) : Prop :=
  ∃ key ∈ sort, ∃ column, schema.column key.column = .ok column ∧
    ((table.rows.filter (Test.allHold tests)).map column.cell).Nodup

section Alike

variable {otherTests : List (Test ρ)} (hresult : table.Result schema sort tests rows)
  (hother : table.Result schema sort otherTests others)
  (hsame : Test.allHold tests = Test.allHold otherTests)

include hresult hother hsame

theorem Result.alike : Alike schema sort rows others where
  perm := hresult.perm.trans (hsame ▸ hother.perm.symm)
  keys := by
    intro key hkey column hcolumn
    have hordered : ∀ {found tests}, table.Result schema sort tests found →
        (found.map column.cell).Pairwise (Cell.InOrder key.direction) := by
      intro found tests hfound
      obtain ⟨same, hsame, hpairwise⟩ := hfound.sorted key hkey
      obtain rfl := Except.ok.inj (hcolumn.symm.trans hsame)
      exact List.pairwise_map.mpr hpairwise
    have hperm := (hresult.perm.trans (hsame ▸ hother.perm.symm)).map column.cell
    exact List.Perm.eq_of_pairwise (fun _ _ _ _ => Cell.InOrder.antisymm) (hordered hresult)
      (hordered hother) hperm

/-- Rows that all have their own sort key can only come in one order. -/
theorem Result.eq_of_separates (hseparates : table.Separates schema sort tests) :
    rows = others := by
  have halike := hresult.alike hother hsame
  obtain ⟨key, hkey, column, hcolumn, hdistinct⟩ := hseparates
  have hcells := halike.keys key hkey column hcolumn
  apply List.ext_getElem halike.perm.length_eq
  intro index hrow hotherRow
  have hcell : column.cell rows[index] = column.cell others[index] := by
    have hmapped := List.getElem_of_eq hcells (by rwa [List.length_map])
    rwa [List.getElem_map, List.getElem_map] at hmapped
  exact List.inj_on_of_nodup_map ((hresult.perm.map column.cell).nodup_iff.mpr hdistinct)
    (List.getElem_mem hrow) (halike.perm.mem_iff.mpr (List.getElem_mem hotherRow)) hcell

end Alike

end Table
end Roster
