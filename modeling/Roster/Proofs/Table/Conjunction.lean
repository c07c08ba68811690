import Roster.Proofs.Table.Order
import Roster.Proofs.Table.Queries
import Mathlib.Data.List.Forall2
import Mathlib.Tactic

/-!
# Filters that are put together

A row has to pass all filters of a query, so the filters of two queries put together find the rows
that both queries find, and it does not matter in which order filters stand.  The statements differ,
though, and the database engine may run one of them and not the other.  So everything is said of
queries that come to an answer, and of when they do.  Answers to different statements can also have
the rows that the sort key does not tell apart in different orders.
-/

namespace Roster

open Outcome

variable {α ρ : Type}

/-- A name was found invalid. -/
def Refused (outcome : Except StoreError α) : Prop :=
  ∃ name, outcome = .error (.invalid name)

/-- A statement failed, or a number of it did not fit. -/
def Failed (outcome : Except StoreError α) : Prop :=
  outcome = .error .database ∨ outcome = .error .outOfRange

theorem Failed.not_refused {outcome : Except StoreError α} (hfailed : Failed outcome) :
    ¬ Refused outcome := by
  rintro ⟨name, rfl⟩
  rcases hfailed with hdatabase | hrange
  · cases hdatabase
  · cases hrange

theorem not_refused_of_ok_or_failed {outcome : Except StoreError α}
    (hsettled : (∃ value, outcome = .ok value) ∨ Failed outcome) : ¬ Refused outcome := by
  rcases hsettled with ⟨value, rfl⟩ | hfailed
  · rintro ⟨name, hname⟩
    cases hname
  · exact hfailed.not_refused

theorem Failed.bind {β : Type} {outcome : Except StoreError α} (hfailed : Failed outcome)
    (next : α → Except StoreError β) : Failed (outcome >>= next) := by
  rcases hfailed with rfl | rfl
  · exact .inl rfl
  · exact .inr rfl

/-! ## Tests and filters -/

namespace Test

variable {first second tests others : List (Test ρ)} {row : ρ}

theorem allHold_append :
    allHold (first ++ second) row = (allHold first row && allHold second row) := by
  unfold allHold
  exact List.all_append

theorem allHold_perm (hperm : tests.Perm others) : allHold tests = allHold others := by
  funext row
  unfold allHold
  exact hperm.all_eq

end Test

namespace Schema

variable {schema : Schema ρ} {first second : List Listing.Filter} {tests : List (Test ρ)}

theorem tests_append_eq_ok_iff :
    schema.tests (first ++ second) = .ok tests ↔
      ∃ front back, schema.tests first = .ok front ∧ schema.tests second = .ok back ∧
        front ++ back = tests := by
  unfold Schema.tests
  rw [List.mapM_append]
  simp only [bind_eq_ok_iff, pure_eq_ok_iff]
  constructor
  · rintro ⟨front, hfront, back, hback, hjoined⟩
    exact ⟨front, back, hfront, hback, hjoined⟩
  · rintro ⟨front, back, hfront, hback, hjoined⟩
    exact ⟨front, hfront, back, hback, hjoined⟩

theorem tests_perm (hperm : first.Perm second) (htests : schema.tests first = .ok tests) :
    ∃ others, schema.tests second = .ok others ∧ tests.Perm others := by
  obtain ⟨others, hothers, hreordered⟩ :=
    List.perm_comp_forall₂ hperm.symm (mapM_eq_ok_iff.mp htests)
  exact ⟨others, mapM_eq_ok_iff.mpr hothers, hreordered.symm⟩

end Schema

namespace Table

variable {engine : Engine} {schema : Schema ρ} {table : Table ρ} {sort : Option Listing.SortKey}
  {request : Listing.Request} {filters first second : List Listing.Filter}
  {tests front back : List (Test ρ)} {arrange : List ρ → List ρ} {rows others both : List ρ}
  {query : Query} {page other : Page ρ}

/-! ## Pages with the same rows -/

/-- Pages of one request that differ at most in the order of the rows, as far as the sort key leaves
it open. -/
structure SamePage (schema : Schema ρ) (request : Listing.Request) (table : Table ρ)
    (page other : Page ρ) : Prop where
  total : page.total = other.total
  pageCount : page.pageCount = other.pageCount
  length : page.items.length = other.items.length
  keys : ∀ key ∈ request.sort, ∀ column, schema.column key.column = .ok column →
    page.items.map column.cell = other.items.map column.cell
  unlimited : request.window.pageSize = Listing.unlimited →
    page.items.Perm other.items
  separated : ∀ tests, schema.tests request.filters = .ok tests →
    table.Separates schema request.sort tests → page.items = other.items

theorem map_items_cut {β : Type} (request : Listing.Request) (change : ρ → β) (rows : List ρ) :
    (cut request rows).items.map change = (cut request (rows.map change)).items := by
  unfold cut
  dsimp only
  split_ifs
  · rfl
  · exact (inside_map request.window change rows).symm

theorem length_items_cut (request : Listing.Request) (hlength : rows.length = others.length) :
    (cut request rows).items.length = (cut request others).items.length := by
  have hmapped : rows.map (fun _ => ()) = others.map (fun _ => ()) := by
    rw [List.map_const', List.map_const', hlength]
  rw [← List.length_map (fun _ => ()), map_items_cut, hmapped, ← map_items_cut, List.length_map]

theorem Result.samePage (hresult : table.Result schema request.sort tests rows)
    (hother : table.Result schema request.sort front others)
    (htests : schema.tests request.filters = .ok tests)
    (hsame : Test.allHold tests = Test.allHold front) :
    table.SamePage schema request (cut request rows) (cut request others) := by
  have halike := hresult.alike hother hsame
  have hlength := halike.perm.length_eq
  refine ⟨hlength, ?_, length_items_cut request hlength, ?_, ?_, ?_⟩
  · unfold cut
    rw [hlength]
  · intro key hkey column hcolumn
    rw [map_items_cut, map_items_cut, halike.keys key hkey column hcolumn]
  · intro hunlimited
    unfold cut
    rw [if_pos hunlimited, if_pos hunlimited]
    exact halike.perm
  · intro same hread hseparates
    obtain rfl := Except.ok.inj (htests.symm.trans hread)
    rw [hresult.eq_of_separates hother hsame hseparates]

/-! ## How queries come out -/

/-- A query that is not refused is answered when its statements run, and fails when they do not. -/
structure Settles (runs : Prop) (outcome : Except StoreError α) : Prop where
  answered : (∃ value, outcome = .ok value) ↔ ¬ Refused outcome ∧ runs
  failed : Failed outcome ↔ ¬ Refused outcome ∧ ¬ runs

theorem Settles.of_refused {runs : Prop} {outcome : Except StoreError α}
    (hrefused : Refused outcome) : Settles runs outcome := by
  constructor
  · constructor
    · rintro ⟨value, rfl⟩
      obtain ⟨name, hname⟩ := hrefused
      cases hname
    · exact fun hserved => absurd hrefused hserved.1
  · constructor
    · exact fun hfailed => absurd hrefused hfailed.not_refused
    · exact fun hserved => absurd hrefused hserved.1

theorem Settles.of_answered_iff {runs : Prop} {outcome : Except StoreError α}
    (hsettled : (∃ value, outcome = .ok value) ∨ Failed outcome)
    (hanswered : (∃ value, outcome = .ok value) ↔ runs) : Settles runs outcome := by
  have hserved := not_refused_of_ok_or_failed hsettled
  refine ⟨hanswered.trans (iff_and_self.mpr fun _ => hserved), ?_⟩
  rw [← hanswered]
  constructor
  · intro hfailed
    refine ⟨hserved, ?_⟩
    rintro ⟨value, rfl⟩
    rcases hfailed with hdatabase | hrange
    · cases hdatabase
    · cases hrange
  · exact fun hunanswered => hsettled.resolve_left hunanswered.2

/-- The statement for all rows of a query runs. -/
def Lists (engine : Engine) (schema : Schema ρ) (sort : Option Listing.SortKey)
    (filters : List Listing.Filter) (table : Table ρ) : Prop :=
  .select ∉ table.failing ∧ ∃ tests, schema.tests filters = .ok tests ∧
    table.Bears engine schema (.rows (tests.map Test.term) sort)

/-- The statements for a page run, and the numbers of its window fit. -/
def Turns (engine : Engine) (schema : Schema ρ) (request : Listing.Request) (table : Table ρ) :
    Prop :=
  .select ∉ table.failing ∧ ∃ tests, table.Serves engine schema request tests ∧
    (Query.ofRequest (tests.map Test.term) request).fits = true

theorem run_ok_or_failed (engine : Engine) (schema : Schema ρ) (query : Query)
    (tests : List (Test ρ)) (table : Table ρ) :
    (∃ rows, table.run engine schema query tests = .ok rows) ∨
      Failed (table.run engine schema query tests) := by
  unfold run
  by_cases hselect : .select ∈ table.failing
  · rw [attempt_eq_error_iff.mpr ⟨hselect, rfl⟩]
    exact .inr (.inl rfl)
  · rw [show table.attempt .select = .ok () from attempt_eq_ok_iff.mpr hselect, ok_bind]
    split_ifs
    · exact .inr (.inl rfl)
    · exact .inr (.inr rfl)
    · exact .inr (.inl rfl)
    · exact .inl ⟨_, rfl⟩

theorem list_ok_or_failed (engine : Engine) (table : Table ρ)
    (hreads : schema.Reads sort filters tests arrange) :
    (∃ rows, table.list engine schema sort filters = .ok rows) ∨
      Failed (table.list engine schema sort filters) := by
  rw [list_eq hreads]
  split_ifs
  · exact .inl ⟨_, rfl⟩
  · exact .inr (.inl rfl)

theorem page_ok_or_failed (engine : Engine) (table : Table ρ)
    (hreads : schema.Reads request.sort request.filters tests arrange) :
    (∃ page, table.page engine schema request = .ok page) ∨
      Failed (table.page engine schema request) := by
  unfold page
  simp only [hreads.filtered, hreads.sorted, ok_bind]
  rcases table.run_ok_or_failed engine schema (.count (tests.map Test.term)) tests with
    ⟨counted, hcounted⟩ | hfailed
  · rw [hcounted, ok_bind]
    rcases table.run_ok_or_failed engine schema (.ofRequest (tests.map Test.term) request) tests
      with ⟨rows, hrows⟩ | hfailed
    · rw [hrows]
      exact .inl ⟨_, rfl⟩
    · exact .inr (hfailed.bind _)
  · exact .inr (hfailed.bind _)

theorem page_eq_ok_iff (hreads : schema.Reads request.sort request.filters tests arrange) :
    table.page engine schema request = .ok page ↔
      .select ∉ table.failing ∧ table.Serves engine schema request tests ∧
        (Query.ofRequest (tests.map Test.term) request).fits = true ∧
          cut request (arrange (table.found engine schema
            (.ofRequest (tests.map Test.term) request) tests)) = page := by
  constructor
  · intro hpage
    have hfits : (Query.ofRequest (tests.map Test.term) request).fits = true := by
      unfold Table.page at hpage
      simp only [hreads.filtered, hreads.sorted, ok_bind] at hpage
      obtain ⟨counted, -, hpage⟩ := bind_eq_ok_iff.mp hpage
      obtain ⟨rows, hrows, -⟩ := bind_eq_ok_iff.mp hpage
      exact (run_eq_ok_iff.mp hrows).2.1
    rw [page_eq engine table hreads hfits] at hpage
    split_ifs at hpage with hworks
    exact ⟨hworks.1, ⟨hreads.filtered, hworks.2.1, hworks.2.2⟩, hfits, Except.ok.inj hpage⟩
  · rintro ⟨hselect, hserves, hfits, rfl⟩
    rw [page_eq engine table hreads hfits, if_pos ⟨hselect, hserves.counted, hserves.fetched⟩]

section Plain

variable (hplain : schema.IsPlain)

include hplain

theorem refused_iff_of_reads {outcome : Except StoreError α}
    (hread : ∀ tests arrange, schema.Reads request.sort request.filters tests arrange →
      (∃ value, outcome = .ok value) ∨ Failed outcome)
    (hinvalid : ¬ schema.Accepts request → Refused outcome) :
    Refused outcome ↔ ¬ schema.Accepts request := by
  refine ⟨?_, hinvalid⟩
  intro hrefused haccepts
  obtain ⟨tests, arrange, hreads⟩ := haccepts.exists_reads hplain
  exact not_refused_of_ok_or_failed (hread tests arrange hreads) hrefused

theorem settles_of_reads {runs : Prop} {outcome : Except StoreError α}
    (hread : ∀ tests arrange, schema.Reads request.sort request.filters tests arrange →
      ((∃ value, outcome = .ok value) ∨ Failed outcome) ∧
        ((∃ value, outcome = .ok value) ↔ runs))
    (hinvalid : ¬ schema.Accepts request → Refused outcome) : Settles runs outcome := by
  by_cases haccepts : schema.Accepts request
  · obtain ⟨tests, arrange, hreads⟩ := haccepts.exists_reads hplain
    obtain ⟨hsettled, hanswered⟩ := hread tests arrange hreads
    exact .of_answered_iff hsettled hanswered
  · exact .of_refused (hinvalid haccepts)

theorem refused_list_iff (engine : Engine) (table : Table ρ) (request : Listing.Request) :
    Refused (table.list engine schema request.sort request.filters) ↔
      ¬ schema.Accepts request :=
  refused_iff_of_reads hplain (fun _ _ => list_ok_or_failed engine table)
    fun hunaccepted => Schema.invalid_of_not_accepts hplain hunaccepted _

theorem refused_page_iff (engine : Engine) (table : Table ρ) (request : Listing.Request) :
    Refused (table.page engine schema request) ↔ ¬ schema.Accepts request :=
  refused_iff_of_reads hplain (fun _ _ => page_ok_or_failed engine table)
    fun hunaccepted => Schema.invalid_of_not_accepts hplain hunaccepted _

theorem list_settles (engine : Engine) (table : Table ρ) (request : Listing.Request) :
    Settles (table.Lists engine schema request.sort request.filters)
      (table.list engine schema request.sort request.filters) := by
  refine settles_of_reads hplain ?_ (refused_list_iff hplain engine table request).mpr
  intro tests arrange hreads
  refine ⟨list_ok_or_failed engine table hreads, ?_⟩
  constructor
  · rintro ⟨rows, hlist⟩
    obtain ⟨tests, _, hreads, hselect, hbears, -⟩ := list_eq_ok_iff.mp hlist
    exact ⟨hselect, tests, hreads.filtered, hbears⟩
  · rintro ⟨hselect, same, hsame, hbears⟩
    obtain rfl := Except.ok.inj (hreads.filtered.symm.trans hsame)
    exact ⟨_, list_eq_ok_iff.mpr ⟨tests, arrange, hreads, hselect, hbears, rfl⟩⟩

theorem page_settles (engine : Engine) (table : Table ρ) (request : Listing.Request) :
    Settles (table.Turns engine schema request) (table.page engine schema request) := by
  refine settles_of_reads hplain ?_ (refused_page_iff hplain engine table request).mpr
  intro tests arrange hreads
  refine ⟨page_ok_or_failed engine table hreads, ?_⟩
  constructor
  · rintro ⟨page, hpage⟩
    obtain ⟨hselect, hserves, hfits, -⟩ := (page_eq_ok_iff hreads).mp hpage
    exact ⟨hselect, tests, hserves, hfits⟩
  · rintro ⟨hselect, same, hserves, hfits⟩
    obtain rfl := Except.ok.inj (hreads.filtered.symm.trans hserves.filtered)
    exact ⟨_, (page_eq_ok_iff hreads).mpr ⟨hselect, hserves, hfits, rfl⟩⟩

theorem refused_append_iff (engine : Engine) (table : Table ρ) :
    Refused (table.list engine schema sort (first ++ second)) ↔
      Refused (table.list engine schema sort first) ∨
        Refused (table.list engine schema sort second) := by
  have hrefused : ∀ filters, Refused (table.list engine schema sort filters) ↔
      ¬ schema.Accepts ⟨{}, sort, filters⟩ := fun filters =>
    refused_list_iff hplain engine table ⟨{}, sort, filters⟩
  rw [hrefused, hrefused, hrefused, ← not_and_or, not_iff_not]
  constructor
  · intro haccepts
    obtain ⟨hfirst, hsecond⟩ := List.forall_mem_append.mp haccepts.filters
    exact ⟨⟨hfirst, haccepts.sort⟩, ⟨hsecond, haccepts.sort⟩⟩
  · rintro ⟨hfirst, hsecond⟩
    exact ⟨List.forall_mem_append.mpr ⟨hfirst.filters, hsecond.filters⟩, hfirst.sort⟩

theorem refused_perm_iff (engine : Engine) (table : Table ρ)
    (hperm : request.filters.Perm filters) :
    Refused (table.page engine schema { request with filters }) ↔
      Refused (table.page engine schema request) := by
  rw [refused_page_iff hplain, refused_page_iff hplain, not_iff_not]
  constructor
  · intro haccepts
    exact ⟨fun filter hfilter => haccepts.filters filter (hperm.mem_iff.mp hfilter),
      haccepts.sort⟩
  · intro haccepts
    exact ⟨fun filter hfilter => haccepts.filters filter (hperm.mem_iff.mpr hfilter),
      haccepts.sort⟩

end Plain

/-! ## Answers to filters of two queries, and to filters in another order -/

section Answers

variable (hexact : schema.IsExact)

include hexact

/-- Of the rows that pass the first filters, those that pass the second are in the other answer. -/
theorem list_append [DecidableEq ρ]
    (hfirst : table.list engine schema sort first = .ok rows)
    (hsecond : table.list engine schema sort second = .ok others)
    (hboth : table.list engine schema sort (first ++ second) = .ok both) :
    Alike schema sort both (rows.filter (· ∈ others)) := by
  obtain ⟨front, arrange, hfront, -⟩ := list_eq_ok_iff.mp hfirst
  obtain ⟨back, _, hback, -⟩ := list_eq_ok_iff.mp hsecond
  have hreads : schema.Reads sort (first ++ second) (front ++ back) arrange :=
    ⟨Schema.tests_append_eq_ok_iff.mpr ⟨front, back, hfront.filtered, hback.filtered, rfl⟩,
      hfront.sorted⟩
  have hrows := result_of_list hexact hfront hfirst
  have hothers := result_of_list hexact hback hsecond
  have hpassed : table.Result schema sort (front ++ back) (rows.filter (· ∈ others)) := by
    constructor
    · have hkept : (rows.filter (· ∈ others)).Perm
          ((table.rows.filter (Test.allHold front)).filter (· ∈ others)) :=
        hrows.perm.filter _
      have hsame : (table.rows.filter (Test.allHold front)).filter (· ∈ others) =
          table.rows.filter (Test.allHold (front ++ back)) := by
        rw [List.filter_filter]
        apply List.filter_congr
        intro row hrow
        rw [Test.allHold_append, Bool.and_comm, Bool.eq_iff_iff]
        simp [hothers.perm.mem_iff, hrow]
      exact hsame ▸ hkept
    · intro key hkey
      obtain ⟨column, hcolumn, hpairwise⟩ := hrows.sorted key hkey
      exact ⟨column, hcolumn, hpairwise.filter _⟩
  exact (result_of_list hexact hreads hboth).alike hpassed rfl

theorem page_perm (hperm : request.filters.Perm filters)
    (hpage : table.page engine schema request = .ok page)
    (hother : table.page engine schema { request with filters } = .ok other) :
    table.SamePage schema request page other := by
  obtain ⟨tests, htests, hnext⟩ := bind_eq_ok_iff.mp hpage
  obtain ⟨arrange, harrange, -⟩ := bind_eq_ok_iff.mp hnext
  obtain ⟨front, hfront, hreordered⟩ := Schema.tests_perm hperm htests
  have hreads : schema.Reads request.sort request.filters tests arrange := ⟨htests, harrange⟩
  let swapped : Listing.Request := { request with filters }
  have hreadsSwapped : schema.Reads swapped.sort swapped.filters front arrange :=
    ⟨hfront, harrange⟩
  obtain ⟨-, -, -, rfl⟩ := (page_eq_ok_iff hreads).mp hpage
  obtain ⟨-, -, -, rfl⟩ := (page_eq_ok_iff hreadsSwapped).mp hother
  exact (result_of_perm hexact harrange (found_perm _ _ _ _ _)).samePage
    (result_of_perm hexact harrange (found_perm _ _ _ _ _)) htests (Test.allHold_perm hreordered)

end Answers

/-- How the answers to filters change when more filters are put behind them, and when they are put
in another order. -/
structure Conjunction [DecidableEq ρ] (engine : Engine) (schema : Schema ρ) (table : Table ρ) :
    Prop where
  list_settles : ∀ sort filters, Settles (table.Lists engine schema sort filters)
    (table.list engine schema sort filters)
  refused_append_iff : ∀ sort first second,
    Refused (table.list engine schema sort (first ++ second)) ↔
      Refused (table.list engine schema sort first) ∨
        Refused (table.list engine schema sort second)
  list_append : ∀ sort first second rows others both,
    table.list engine schema sort first = .ok rows →
      table.list engine schema sort second = .ok others →
        table.list engine schema sort (first ++ second) = .ok both →
          Alike schema sort both (rows.filter (· ∈ others))
  page_settles : ∀ request, Settles (table.Turns engine schema request)
    (table.page engine schema request)
  refused_perm_iff : ∀ (request : Listing.Request) (filters : List Listing.Filter),
    request.filters.Perm filters →
      (Refused (table.page engine schema { request with filters }) ↔
        Refused (table.page engine schema request))
  page_perm : ∀ (request : Listing.Request) (filters : List Listing.Filter) page other,
    request.filters.Perm filters →
      table.page engine schema request = .ok page →
        table.page engine schema { request with filters } = .ok other →
          table.SamePage schema request page other

theorem conjunction [DecidableEq ρ] (hplain : schema.IsPlain) (hexact : schema.IsExact)
    (engine : Engine) (table : Table ρ) : table.Conjunction engine schema where
  list_settles := fun sort filters => Table.list_settles hplain engine table ⟨{}, sort, filters⟩
  refused_append_iff := fun _ _ _ => Table.refused_append_iff hplain engine table
  list_append := fun _ _ _ _ _ _ => Table.list_append hexact
  page_settles := Table.page_settles hplain engine table
  refused_perm_iff := fun _ _ => Table.refused_perm_iff hplain engine table
  page_perm := fun _ _ _ _ => Table.page_perm hexact

end Table
end Roster
