import Roster.Table.Page
import Roster.Proofs.Listing.PageCount
import Roster.Proofs.Table.Selection
import Mathlib.Tactic

/-!
# Pages of a result

All rows that a query finds are cut into windows of the page size.  Four computations have to fit
together for this: the arrangement of the rows, the offset of a window, the count of the rows, and
the count of the pages, which is rounded on its way.  Each page has statements of its own, so unless
the sort key tells all rows apart, the database engine has to come to the rows in one order for all
of them.  Put together, the pages are then a result, every page but the last is full, and every page
reports the same counts.
-/

namespace Roster

open Outcome

variable {ρ : Type}

/-! ## Queries that can be run -/

/-- The query names columns that may be named and asks for tests of rows, and the statements for its
rows, its pages and their number come to their end. -/
structure Table.Runs (engine : Engine) (schema : Schema ρ) (sort : Option Listing.SortKey)
    (filters : List Listing.Filter) (table : Table ρ) (tests : List (Test ρ)) : Prop where
  works : .select ∉ table.failing
  sorted : ∀ key ∈ sort, ∃ column, schema.column key.column = .ok column
  filtered : schema.tests filters = .ok tests
  counted : table.Bears engine schema (.count (tests.map Test.term))
  listed : table.Bears engine schema (.rows (tests.map Test.term) sort)
  paged : ∀ offset limit,
    table.Bears engine schema (.window (tests.map Test.term) sort offset limit)

theorem Table.Runs.exists_reads {engine : Engine} {schema : Schema ρ}
    {sort : Option Listing.SortKey} {filters : List Listing.Filter} {table : Table ρ}
    {tests : List (Test ρ)} (hruns : table.Runs engine schema sort filters tests) :
    ∃ arrange, schema.Reads sort filters tests arrange := by
  cases sort with
  | none => exact ⟨id, hruns.filtered, rfl⟩
  | some key =>
      obtain ⟨column, hcolumn⟩ := hruns.sorted key rfl
      exact ⟨fun rows => rows.mergeSort (Schema.precedes column key.direction),
        hruns.filtered, bind_eq_ok_iff.mpr ⟨column, hcolumn, rfl⟩⟩

/-! ## Windows -/

theorem Table.inside_map {σ : Type} (window : Listing.Window) (change : ρ → σ) (rows : List ρ) :
    Table.inside window (rows.map change) = (Table.inside window rows).map change := by
  unfold Table.inside
  split_ifs
  · rw [List.map_drop]
  · rw [List.map_take, List.map_drop]

/-- The rows of a result on the page at an index. -/
def chunk (size : Nat) (rows : List ρ) (index : Nat) : List ρ :=
  (rows.drop (index * size)).take size

theorem length_chunk (size : Nat) (rows : List ρ) (index : Nat) :
    (chunk size rows index).length = min size (rows.length - index * size) := by
  simp [chunk]

theorem flatMap_chunk (size : Nat) (rows : List ρ) (count : Nat) :
    (List.range count).flatMap (chunk size rows) = rows.take (count * size) := by
  induction count with
  | zero => simp
  | succ count ih =>
      rw [List.range_succ, List.flatMap_append, ih, Nat.succ_mul, List.take_add]
      simp [chunk]

theorem inside_eq_chunk (size : Nat) (rows : List ρ) (index : Nat) :
    Table.inside { page := index + 1, pageSize := size } rows = chunk size rows index := by
  have hoffset : (Listing.Window.offset { page := index + 1, pageSize := size }).toNat =
      index * size := by
    have hproduct : Listing.Window.offset { page := index + 1, pageSize := size } =
        ((index * size : Nat) : Int) := by
      simp [Listing.Window.offset]
    rw [hproduct, Int.toNat_natCast]
  have hlimited : ¬ ((size : Nat) : Int) < 0 := by
    omega
  unfold Table.inside chunk
  simp only [hoffset, if_neg hlimited, Int.toNat_natCast]

/-- The least number of windows that hold all rows. -/
def windowCount (size : Nat) (rows : List ρ) : Nat :=
  (rows.length + size - 1) / size

theorem windowCount_bounds {size : Nat} (hsize : 0 < size) (rows : List ρ) :
    rows.length ≤ windowCount size rows * size ∧
      windowCount size rows * size < rows.length + size := by
  have hdivision := Nat.div_add_mod (rows.length + size - 1) size
  have hrest := Nat.mod_lt (rows.length + size - 1) hsize
  unfold windowCount
  rw [Nat.mul_comm size] at hdivision
  constructor
  · omega
  · omega

/-! ## Pages -/

def Listing.pageRequest (sort : Option Listing.SortKey) (filters : List Listing.Filter)
    (pageSize number : Int) : Listing.Request where
  window := { page := number, pageSize }
  sort := sort
  filters := filters

/-- The pages with the numbers 1, 2, ... of a result, and what is beyond them. -/
structure Table.Pages (engine : Engine) (schema : Schema ρ) (sort : Option Listing.SortKey)
    (filters : List Listing.Filter) (table : Table ρ) (pageSize : Int) (rows : List ρ)
    (pages : List (Page ρ)) : Prop where
  served : ∀ index (hindex : index < pages.length),
    table.page engine schema (Listing.pageRequest sort filters pageSize (index + 1)) =
      .ok pages[index]
  joined : pages.flatMap Page.items = rows
  full : ∀ index (hindex : index + 1 < pages.length),
    (pages[index].items.length : Int) = pageSize
  last : ∀ index (hindex : index + 1 = pages.length),
    1 ≤ pages[index].items.length ∧ (pages[index].items.length : Int) ≤ pageSize
  counts : ∀ page ∈ pages, page.total = rows.length ∧ page.pageCount = pages.length
  beyond : ∀ number : Int, pages.length < number →
    fitsInt64 ((number - 1) * pageSize) = true →
      ∃ page, table.page engine schema (Listing.pageRequest sort filters pageSize number) =
          .ok page ∧
        page.items = [] ∧ page.total = rows.length ∧ page.pageCount = pages.length

namespace Table

variable {engine : Engine} {schema : Schema ρ} {sort : Option Listing.SortKey}
  {filters : List Listing.Filter} {table : Table ρ} {tests : List (Test ρ)}
  {arrange : List ρ → List ρ} {rows : List ρ}

/-- The page that a request cuts out of the rows of a result. -/
def cut (request : Listing.Request) (rows : List ρ) : Page ρ where
  window := request.window
  pageCount := (Listing.pageCount? rows.length request.window.pageSize).getD 0
  total := rows.length
  items :=
    if request.window.pageSize = Listing.unlimited then rows else inside request.window rows

theorem page_eq (engine : Engine) (table : Table ρ) {request : Listing.Request}
    (hreads : schema.Reads request.sort request.filters tests arrange)
    (hfits : (Query.ofRequest (tests.map Test.term) request).fits = true) :
    table.page engine schema request =
      if .select ∉ table.failing ∧
          table.Bears engine schema (.count (tests.map Test.term)) ∧
          table.Bears engine schema (.ofRequest (tests.map Test.term) request) then
        .ok (cut request
          (arrange (table.found engine schema (.ofRequest (tests.map Test.term) request) tests)))
      else .error .database := by
  have hcountable : (Query.count (tests.map Test.term)).fits = true := rfl
  have htotal : (table.found engine schema (.count (tests.map Test.term)) tests).length =
      (arrange (table.found engine schema (.ofRequest (tests.map Test.term) request)
        tests)).length :=
    (found_perm _ _ _ _ _).length_eq.trans
      ((Schema.arrangement_perm hreads.sorted _).trans (found_perm _ _ _ _ _)).length_eq.symm
  unfold page
  simp only [hreads.filtered, hreads.sorted, ok_bind]
  rw [run_eq hcountable, run_eq hfits]
  by_cases hworks : .select ∉ table.failing
  · by_cases hcounts : table.Bears engine schema (.count (tests.map Test.term))
    · by_cases hruns : table.Bears engine schema (.ofRequest (tests.map Test.term) request)
      · simp only [hworks, hcounts, hruns, not_false_eq_true, and_self, if_true, ok_bind, htotal]
        rfl
      · simp only [hworks, hcounts, hruns, not_false_eq_true, and_self, and_false, if_true,
          if_false, ok_bind]
        rfl
    · simp only [hcounts, and_false, false_and, if_false]
      rfl
  · simp only [hworks, false_and, if_false]
    rfl

theorem pageCount?_unlimited (total : Nat) :
    (Listing.pageCount? total Listing.unlimited).getD 0 = if total = 0 then 0 else 1 := by
  unfold Listing.pageCount?
  rw [if_pos rfl]
  split_ifs with hcast hzero hzero
  · rfl
  · exact absurd (Int.natCast_eq_zero.mp hcast) hzero
  · exact absurd (Int.natCast_eq_zero.mpr hzero) hcast
  · rfl

/-- Without a limit the page has all rows that are listed, in the same order. -/
theorem Runs.page_unlimited (hruns : table.Runs engine schema sort filters tests)
    (hlist : table.list engine schema sort filters = .ok rows) (number : Int) :
    table.page engine schema (Listing.pageRequest sort filters Listing.unlimited number) =
      .ok {
        window := { page := number, pageSize := Listing.unlimited }
        pageCount := if rows = [] then 0 else 1
        total := rows.length
        items := rows } := by
  obtain ⟨arrange, hreads⟩ := hruns.exists_reads
  have hquery : Query.ofRequest (tests.map Test.term)
      (Listing.pageRequest sort filters Listing.unlimited number) =
        .rows (tests.map Test.term) sort := rfl
  rw [list_eq hreads, if_pos ⟨hruns.works, hruns.listed⟩] at hlist
  obtain rfl := Except.ok.inj hlist
  have hread : schema.Reads (Listing.pageRequest sort filters Listing.unlimited number).sort
      (Listing.pageRequest sort filters Listing.unlimited number).filters tests arrange := hreads
  have hpage := page_eq engine table hread rfl
  rw [hquery, if_pos ⟨hruns.works, hruns.counted, hruns.listed⟩] at hpage
  rw [hpage]
  simp only [cut, Listing.pageRequest, if_true, pageCount?_unlimited, List.length_eq_zero_iff]

def pageAt (size : Nat) (rows : List ρ) (index : Nat) : Page ρ where
  window := { page := index + 1, pageSize := size }
  pageCount := windowCount size rows
  total := rows.length
  items := chunk size rows index

theorem fitsInt64_of_natCast {value : Nat} (hvalue : value < 2 ^ 63) :
    fitsInt64 value = true := by
  unfold fitsInt64 minInt64 maxInt64
  rw [Bool.and_eq_true, decide_eq_true_eq, decide_eq_true_eq]
  omega

/-- The rows of which the pages of a size are cut. -/
def paged (engine : Engine) (schema : Schema ρ) (sort : Option Listing.SortKey)
    (tests : List (Test ρ)) (arrange : List ρ → List ρ) (size : Nat) (table : Table ρ) :
    List ρ :=
  arrange (table.found engine schema (.window (tests.map Test.term) sort 0 size) tests)

theorem found_window (hsteady : engine.Steady) (terms : List (String × Condition))
    (sort : Option Listing.SortKey) (offset other limit : Int) :
    table.found engine schema (.window terms sort offset limit) tests =
      table.found engine schema (.window terms sort other limit) tests := by
  unfold found Engine.arrivals
  rw [hsteady terms sort limit offset other]

/-- All pages of a size are cut of the same rows, when the engine keeps to one order for them or the
sort key leaves only one. -/
theorem arrange_found_window (hexact : schema.IsExact)
    (hreads : schema.Reads sort filters tests arrange)
    (hordered : engine.Steady ∨ table.Separates schema sort tests) (size : Nat) (offset : Int) :
    arrange (table.found engine schema (.window (tests.map Test.term) sort offset size) tests) =
      table.paged engine schema sort tests arrange size := by
  rcases hordered with hsteady | hseparates
  · rw [found_window hsteady _ _ _ 0]
    rfl
  · have hresult : ∀ query, table.Result schema sort tests
        (arrange (table.found engine schema query tests)) := fun query =>
      result_of_perm hexact hreads.sorted (found_perm _ _ _ _ _)
    exact (hresult _).eq_of_separates (hresult _) rfl hseparates

theorem Runs.page_eq_pageAt (hruns : table.Runs engine schema sort filters tests)
    (hordered : engine.Steady ∨ table.Separates schema sort tests) (hexact : schema.IsExact)
    (hreads : schema.Reads sort filters tests arrange) (hrows : table.rows.length < 2 ^ 53)
    {size : Nat} (hsize : 0 < size) (hfits : size < 2 ^ 63) {index : Nat}
    (hoffset : fitsInt64 ((index * size : Nat) : Int) = true) :
    table.page engine schema (Listing.pageRequest sort filters size (index + 1)) =
      .ok (pageAt size (table.paged engine schema sort tests arrange size) index) := by
  set rows := table.paged engine schema sort tests arrange size
  have hlength : (table.rows.filter (Test.allHold tests)).length = rows.length :=
    ((Schema.arrangement_perm hreads.sorted _).trans (found_perm _ _ _ _ _)).length_eq.symm
  have hfew : rows.length < 2 ^ 53 :=
    hlength ▸ (List.length_filter_le _ table.rows).trans_lt hrows
  obtain ⟨hlow, hhigh⟩ := windowCount_bounds hsize rows
  have hcount := Listing.pageCount?_eq hfew.le hsize (hfits.trans (by norm_num)) hlow hhigh
  have hlimited : (size : Int) ≠ Listing.unlimited := by
    unfold Listing.unlimited
    omega
  have hproduct : ((index + 1 : Int) - 1) * size = ((index * size : Nat) : Int) := by
    simp
  have hquery : Query.ofRequest (tests.map Test.term)
      (Listing.pageRequest sort filters size (index + 1)) =
        .window (tests.map Test.term) sort ((index + 1 - 1) * size) size := if_neg hlimited
  have hnumbers : (Query.window (tests.map Test.term) sort ((index + 1 - 1) * size) size).fits =
      true := by
    change (fitsInt64 ((index + 1 - 1) * size) && fitsInt64 size) = true
    rw [hproduct, hoffset, fitsInt64_of_natCast hfits]
    rfl
  have hcut : cut (Listing.pageRequest sort filters size (index + 1)) rows =
      pageAt size rows index := by
    simp only [cut, Listing.pageRequest, if_neg hlimited, hcount, inside_eq_chunk]
    rfl
  have hread : schema.Reads (Listing.pageRequest sort filters size (index + 1)).sort
      (Listing.pageRequest sort filters size (index + 1)).filters tests arrange := hreads
  have hpage := page_eq engine table hread (hquery ▸ hnumbers)
  rw [hquery, if_pos ⟨hruns.works, hruns.counted, hruns.paged _ _⟩,
    arrange_found_window hexact hreads hordered] at hpage
  exact hpage.trans (congrArg Except.ok hcut)

/-- Cut into pages of a size, the rows of a result are neither lost nor repeated. -/
theorem Runs.pages (hruns : table.Runs engine schema sort filters tests)
    (hordered : engine.Steady ∨ table.Separates schema sort tests) (hexact : schema.IsExact)
    (hreads : schema.Reads sort filters tests arrange) (hrows : table.rows.length < 2 ^ 53)
    {size : Nat} (hsize : 0 < size) (hfits : size < 2 ^ 63) :
    ∃ pages, Pages engine schema sort filters table size
      (table.paged engine schema sort tests arrange size) pages := by
  set rows := table.paged engine schema sort tests arrange size
  have hlength : (table.rows.filter (Test.allHold tests)).length = rows.length :=
    ((Schema.arrangement_perm hreads.sorted _).trans (found_perm _ _ _ _ _)).length_eq.symm
  have hfew : rows.length < 2 ^ 53 :=
    hlength ▸ (List.length_filter_le _ table.rows).trans_lt hrows
  have hserved : ∀ index, fitsInt64 ((index * size : Nat) : Int) = true →
      table.page engine schema (Listing.pageRequest sort filters size (index + 1)) =
        .ok (pageAt size rows index) := by
    intro index hoffset
    exact hruns.page_eq_pageAt hordered hexact hreads hrows hsize hfits hoffset
  obtain ⟨hlow, hhigh⟩ := windowCount_bounds hsize rows
  refine ⟨(List.range (windowCount size rows)).map (pageAt size rows), ?_⟩
  constructor
  · intro index hindex
    rw [List.length_map, List.length_range] at hindex
    have hoffset : index * size < 2 ^ 63 := by
      have hmul := Nat.mul_le_mul_right size (Nat.succ_le_of_lt hindex)
      rw [Nat.succ_mul] at hmul
      omega
    rw [hserved index (fitsInt64_of_natCast hoffset)]
    simp
  · have hitems : ∀ index, (pageAt size rows index).items = chunk size rows index :=
      fun index => rfl
    rw [List.flatMap_map]
    simp only [hitems]
    rw [flatMap_chunk, List.take_of_length_le hlow]
  · intro index hindex
    rw [List.length_map, List.length_range] at hindex
    have hmul := Nat.mul_le_mul_right size (Nat.succ_le_of_lt hindex)
    simp only [List.getElem_map, List.getElem_range, pageAt, length_chunk]
    rw [Nat.succ_mul, Nat.succ_mul] at hmul
    omega
  · intro index hindex
    rw [List.length_map, List.length_range] at hindex
    rw [← hindex, Nat.succ_mul] at hhigh
    simp only [List.getElem_map, List.getElem_range, pageAt, length_chunk]
    omega
  · intro page hpage
    obtain ⟨index, _, rfl⟩ := List.mem_map.mp hpage
    simp [pageAt]
  · intro number hnumber hoffset
    rw [List.length_map, List.length_range] at hnumber
    obtain ⟨index, rfl⟩ : ∃ index : Nat, number = index + 1 :=
      ⟨(number - 1).toNat, by omega⟩
    have hproduct : ((index + 1 : Int) - 1) * size = ((index * size : Nat) : Int) := by
      simp
    rw [hproduct] at hoffset
    have hbeyond : windowCount size rows ≤ index := by
      omega
    have hmul := Nat.mul_le_mul_right size hbeyond
    refine ⟨_, hserved index hoffset, ?_, rfl, ?_⟩
    · simp only [pageAt]
      apply List.length_eq_zero_iff.mp
      rw [length_chunk]
      omega
    · simp [pageAt]

end Table
end Roster
