import Roster.User.Record
import Roster.Campaign.Record
import Roster.Proofs.Table.Queries
import Mathlib.Tactic

/-!
# Pages of users and campaigns

Neither users nor campaigns have a column of real numbers, so their rows can be sorted by every
column, and the pages of every query that can be run partition its result.  Rows that the sort key
does not tell apart come as the database engine has them.  The sizes of pages are bounded by the
integers that the database takes, and the filters by what the engine can run.
-/

namespace Roster

theorem User.schema_isExact : User.schema.IsExact := by
  intro column hcolumn user
  simp only [User.schema, List.mem_cons, List.not_mem_nil, or_false] at hcolumn
  rcases hcolumn with rfl | rfl | rfl | rfl
  · trivial
  · trivial
  · trivial
  · trivial

theorem Campaign.schema_isExact : Campaign.schema.IsExact := by
  intro column hcolumn campaign
  simp only [Campaign.schema, List.mem_cons, List.not_mem_nil, or_false] at hcolumn
  rcases hcolumn with rfl | rfl | rfl | rfl
  · trivial
  · trivial
  · trivial
  · cases hdescription : campaign.description with
    | none =>
        simp only [hdescription, Cell.ofText?]
        trivial
    | some text =>
        simp only [hdescription, Cell.ofText?]
        trivial

/-- What the pages of a query show, for every page size that fits 64 bits and without a limit. -/
structure Table.Paged {ρ : Type} (engine : Engine) (schema : Schema ρ)
    (sort : Option Listing.SortKey) (filters : List Listing.Filter) (tests : List (Test ρ))
    (table : Table ρ) (rows : List ρ) : Prop where
  listed : table.list engine schema sort filters = .ok rows
  result : table.Result schema sort tests rows
  limited : ∀ pageSize : Int, 1 ≤ pageSize → pageSize ≤ maxInt64 →
    ∃ ordered pages, ordered.Perm rows ∧ table.Result schema sort tests ordered ∧
      table.Pages engine schema sort filters pageSize ordered pages
  unlimited : ∀ number : Int,
    table.page engine schema (Listing.pageRequest sort filters Listing.unlimited number) =
      .ok {
        window := { page := number, pageSize := Listing.unlimited }
        pageCount := if rows = [] then 0 else 1
        total := rows.length
        items := rows }

theorem Table.Runs.exists_paged
    {ρ : Type} {engine : Engine} {schema : Schema ρ} {sort : Option Listing.SortKey}
    {filters : List Listing.Filter} {tests : List (Test ρ)} {table : Table ρ}
    (hruns : table.Runs engine schema sort filters tests)
    (hordered : engine.Steady ∨ table.Separates schema sort tests) (hexact : schema.IsExact)
    (hrows : table.rows.length < 2 ^ 53) :
    ∃ rows, table.Paged engine schema sort filters tests rows := by
  obtain ⟨arrange, hreads⟩ := hruns.exists_reads
  have hlist : table.list engine schema sort filters = _ := Table.list_eq hreads
  rw [if_pos ⟨hruns.works, hruns.listed⟩] at hlist
  have hresult := Table.result_of_list hexact hreads hlist
  refine ⟨_, hlist, hresult, ?_, fun number => hruns.page_unlimited hlist number⟩
  intro pageSize hpositive hfits
  obtain ⟨size, rfl⟩ := Int.eq_ofNat_of_zero_le (by omega : 0 ≤ pageSize)
  unfold maxInt64 at hfits
  have hshort : size < 2 ^ 63 := by
    omega
  obtain ⟨pages, hpages⟩ := hruns.pages hordered hexact hreads hrows (by omega) hshort
  have hordered : table.Result schema sort tests
      (table.paged engine schema sort tests arrange size) :=
    Table.result_of_perm hexact hreads.sorted (Table.found_perm _ _ _ _ _)
  exact ⟨_, pages, hordered.perm.trans hresult.perm.symm, hordered, hpages⟩

/-- The pages of a query on users or campaigns partition its result: put together they are the rows
of the result, each but the last is full, and all of them report the same counts.  For this the
database engine has to come to the rows in one order for all pages of a size, unless the sort key
tells the rows apart. -/
theorem pages_partition_results (engine : Engine) :
    (∀ (table : Table User) (sort : Option Listing.SortKey)
        (filters : List Listing.Filter) (tests : List (Test User)),
        table.Runs engine User.schema sort filters tests →
          engine.Steady ∨ table.Separates User.schema sort tests →
            table.rows.length < 2 ^ 53 →
              ∃ rows, table.Paged engine User.schema sort filters tests rows) ∧
      ∀ (table : Table Campaign) (sort : Option Listing.SortKey)
        (filters : List Listing.Filter) (tests : List (Test Campaign)),
        table.Runs engine Campaign.schema sort filters tests →
          engine.Steady ∨ table.Separates Campaign.schema sort tests →
            table.rows.length < 2 ^ 53 →
              ∃ rows, table.Paged engine Campaign.schema sort filters tests rows := by
  constructor
  · intro table sort filters tests hruns hordered hrows
    exact hruns.exists_paged hordered User.schema_isExact hrows
  · intro table sort filters tests hruns hordered hrows
    exact hruns.exists_paged hordered Campaign.schema_isExact hrows

/-! ## Instances and limits -/

def threeUsers : Table User where
  rows := [⟨"1", "ada", "", "hash"⟩, ⟨"2", "bob", "", "hash"⟩, ⟨"3", "", "cy@x.org", "hash"⟩]

def byUsername : Listing.SortKey where
  column := "username"
  direction := .descending

def withUsername : Listing.Filter where
  column := "username"
  value := "_%"
  relation := .like

theorem threeUsers_bears (query : Query)
    (hterms : query.terms = [("username", .like "_%")]) :
    threeUsers.Bears .standard User.schema query := by
  have hvariables : Engine.variableCount query ≤ 3 := by
    unfold Engine.variableCount
    rw [hterms]
    cases query with
    | window terms sort offset limit => simp [Engine.bindings]
    | _ => simp [Engine.bindings]
  constructor
  · change (_ || _) = false
    rw [hterms, Bool.or_eq_false_iff, decide_eq_false_iff_not, decide_eq_false_iff_not]
    exact ⟨by decide, not_lt.mpr (hvariables.trans (by decide))⟩
  · change List.any _ _ = false
    rw [hterms]
    decide +kernel

theorem pages_partition_results_three_users :
    ∃ tests, threeUsers.Runs .standard User.schema (some byUsername) [withUsername] tests ∧
      Engine.standard.Steady ∧ threeUsers.rows.length < 2 ^ 53 ∧
      ∃ rows,
        threeUsers.Paged .standard User.schema (some byUsername) [withUsername] tests rows := by
  have hsteady := Engine.standard_steady
  have hrows : threeUsers.rows.length < 2 ^ 53 := by
    decide
  obtain ⟨tests, hfiltered, hterms⟩ : ∃ tests, User.schema.tests [withUsername] = .ok tests ∧
      tests.map Test.term = [("username", .like "_%")] := ⟨_, rfl, rfl⟩
  have hsorted : ∀ key ∈ some byUsername, ∃ column, User.schema.column key.column = .ok column := by
    intro key hkey
    cases hkey
    exact ⟨_, rfl⟩
  have hruns : threeUsers.Runs .standard User.schema (some byUsername) [withUsername] tests := {
    works := by decide
    sorted := hsorted
    filtered := hfiltered
    counted := threeUsers_bears _ hterms
    listed := threeUsers_bears _ hterms
    paged := fun _ _ => threeUsers_bears _ hterms }
  exact ⟨tests, hruns, hsteady, hrows, (pages_partition_results .standard).1 threeUsers
    (some byUsername) [withUsername] tests hruns (.inl hsteady) hrows⟩

/-- A page size beyond 64 bits is refused although the query itself succeeds, and a query with too
many filters fails. -/
theorem page_size_and_filters_are_bounded :
    threeUsers.list .standard User.schema none [] = .ok threeUsers.rows ∧
      threeUsers.page .standard User.schema (Listing.pageRequest none [] (2 ^ 63) 1) =
        .error .outOfRange ∧
      threeUsers.list .standard User.schema none (List.replicate 999 withUsername) =
        .error .database := by
  refine ⟨?_, rfl, ?_⟩
  · rw [Table.list_standard]
    rfl
  · rw [Table.list_standard]
    decide +kernel

end Roster
