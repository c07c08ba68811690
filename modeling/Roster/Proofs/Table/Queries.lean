import Roster.Proofs.Table.Faults
import Roster.Proofs.Table.Paging
import Roster.Proofs.Table.Rows
import Mathlib.Tactic

/-!
# Queries that a table answers

A query is refused for a name that is invalid: of a column that may not be named, or of a value that
a relation does not take for what a column holds.  Reading it is a sequence of steps, each of which
is decided by a condition of its own.  A query that is read can still fail, when the database engine
does not come to the end of one of its statements.
-/

namespace Roster

open Outcome

variable {α β ρ : Type}

/-! ## Steps that are decided -/

/-- A good value comes out when the condition is met, and else some name is found invalid. -/
inductive Decides (condition : Prop) (good : α → Prop) : Except StoreError α → Prop where
  | ok {value : α} (hmet : condition) (hgood : good value) : Decides condition good (.ok value)
  | invalid {name : String} (hunmet : ¬ condition) :
      Decides condition good (.error (.invalid name))

namespace Decides

variable {condition other : Prop} {good : α → Prop} {fine : β → Prop}
  {first : Except StoreError α} {next : α → Except StoreError β}

theorem of_iff (hfirst : Decides condition good first) (hiff : condition ↔ other) :
    Decides other good first := by
  rwa [← propext hiff]

theorem eq_ok (hfirst : Decides condition good first) (hmet : condition) :
    ∃ value, first = .ok value ∧ good value := by
  cases hfirst with
  | ok _ hgood => exact ⟨_, rfl, hgood⟩
  | invalid hunmet => exact absurd hmet hunmet

theorem eq_error (hfirst : Decides condition good first) (hunmet : ¬ condition) :
    ∃ name, first = .error (.invalid name) := by
  cases hfirst with
  | ok hmet _ => exact absurd hmet hunmet
  | invalid _ => exact ⟨_, rfl⟩

theorem of_eq_ok {value : α} (hfirst : Decides condition good first) (hvalue : first = .ok value) :
    condition ∧ good value := by
  cases hfirst with
  | ok hmet hgood =>
      cases hvalue
      exact ⟨hmet, hgood⟩
  | invalid _ => cases hvalue

theorem mono {better : α → Prop} (hfirst : Decides condition good first)
    (hgood : ∀ value, good value → better value) : Decides condition better first := by
  cases hfirst with
  | ok hmet hvalue => exact .ok hmet (hgood _ hvalue)
  | invalid hunmet => exact .invalid hunmet

/-- What a sequence is decided by has to be enough for its first step. -/
theorem bind (hfirst : Decides condition good first) (hneeds : other → condition)
    (hnext : ∀ value, first = .ok value → Decides other fine (next value)) :
    Decides other fine (first >>= next) := by
  cases hfirst with
  | ok _ _ => exact hnext _ rfl
  | invalid hunmet => exact .invalid fun hother => hunmet (hneeds hother)

theorem map {change : α → β} (hfirst : Decides condition good first)
    (hchange : ∀ value, good value → fine (change value)) :
    Decides condition fine (first.map change) := by
  cases hfirst with
  | ok hmet hgood => exact .ok hmet (hchange _ hgood)
  | invalid hunmet => exact .invalid hunmet

theorem mapM {items : List α} {take : α → Except StoreError β} {conditions : α → Prop}
    (htake : ∀ item, Decides (conditions item) fine (take item)) :
    Decides (∀ item ∈ items, conditions item) (fun results => ∀ result ∈ results, fine result)
      (items.mapM take) := by
  induction items with
  | nil => exact .ok nofun nofun
  | cons item rest ih =>
      rw [List.mapM_cons]
      refine (htake item).bind (fun hall => hall item List.mem_cons_self) ?_
      intro result hresult
      obtain ⟨hitem, hfine⟩ := (htake item).of_eq_ok hresult
      refine ih.bind (fun hall => (List.forall_mem_cons.mp hall).2) ?_
      intro results hresults
      obtain ⟨hrest, hfines⟩ := ih.of_eq_ok hresults
      exact .ok (List.forall_mem_cons.mpr ⟨hitem, hrest⟩)
        (List.forall_mem_cons.mpr ⟨hfine, hfines⟩)

end Decides

/-! ## Values -/

namespace Kind

/-- The texts that are read as values of the kind. -/
def Takes : Kind → String → Prop
  | .text, _ => True
  | .integer, value =>
    ∃ number, readInteger (trim value.toList) = .ok number ∧ fitsInt64 number = true
  | .real, value => ∃ number, readDouble? (trim value.toList) = some number
  | .truth, value => word value ∈ trueWords ∨ word value ∈ falseWords

theorem decides_read (kind : Kind) (value : String) :
    Decides (kind.Takes value) (fun cell => cell.isStorable = true) (kind.read value) := by
  cases kind with
  | text => exact .ok trivial rfl
  | integer =>
      simp only [read, Takes]
      cases hread : readInteger (trim value.toList) with
      | error error => exact .invalid nofun
      | ok number =>
          dsimp only
          by_cases hfits : fitsInt64 number = true
          · rw [if_pos hfits]
            exact .ok ⟨number, rfl, hfits⟩ hfits
          · rw [if_neg hfits]
            refine .invalid ?_
            rintro ⟨same, hsame, hstorable⟩
            cases hsame
            exact hfits hstorable
  | real =>
      simp only [read, Takes]
      cases readDouble? (trim value.toList) with
      | none => exact .invalid nofun
      | some number =>
          refine .ok ⟨number, rfl⟩ ?_
          cases number with
          | nan => rfl
          | _ => rfl
  | truth =>
      simp only [read, Takes, ← List.contains_iff_mem]
      by_cases htrue : trueWords.contains (word value) = true
      · rw [if_pos htrue]
        exact .ok (.inl htrue) rfl
      · rw [if_neg htrue]
        by_cases hfalse : falseWords.contains (word value) = true
        · rw [if_pos hfalse]
          exact .ok (.inr hfalse) rfl
        · rw [if_neg hfalse]
          exact .invalid (not_or.mpr ⟨htrue, hfalse⟩)

end Kind

/-! ## Conditions -/

/-- The cells that a condition compares with. -/
def Condition.cells : Condition → List Cell
  | .equal value | .less value | .greater value | .atMost value | .atLeast value | .is value =>
    [value]
  | .oneOf values | .noneOf values => values
  | .like _ => []

/-- The values that a relation takes for columns of the kind. -/
def Listing.Relation.Takes (relation : Listing.Relation) (kind : Kind) (value : String) : Prop :=
  match relation with
  | .equal | .less | .greater | .atMost | .atLeast => kind.Takes value
  | .oneOf | .noneOf =>
    ∀ item ∈ pieces ',' value.toList, trim item ≠ [] → kind.Takes (String.ofList item)
  | .like => True
  | .is => Kind.word value ∈ ["null", "true", "false"]
  | .unknown _ => False

namespace Condition

def Storable (condition : Condition) : Prop :=
  ∀ cell ∈ condition.cells, cell.isStorable = true

theorem storable_truthCell (kind : Kind) (value : Bool) :
    Storable (.is (kind.truthCell value)) := by
  intro cell hcell
  rw [List.mem_singleton.mp hcell]
  cases kind with
  | text => rfl
  | _ => cases value <;> rfl

theorem decides_readItems (kind : Kind) (value : String) :
    Decides (∀ item ∈ pieces ',' value.toList, trim item ≠ [] → kind.Takes (String.ofList item))
      (fun cells => ∀ cell ∈ cells, cell.isStorable = true) (readItems kind value) := by
  unfold readItems
  refine Decides.of_iff (Decides.mapM fun item => kind.decides_read item) ?_
  simp only [List.forall_mem_map, List.mem_filter, and_imp, Bool.not_eq_true',
    ← Bool.not_eq_true, List.isEmpty_iff, ne_eq]

theorem decides_ordering {kind : Kind} (hkind : kind ≠ .truth) {condition : Cell → Condition}
    (hcells : ∀ cell, (condition cell).cells = [cell]) (value : String) :
    Decides (kind.Takes value) Storable (ordering kind condition value) := by
  unfold ordering
  refine (kind.decides_read value).bind id ?_
  intro cell hcell
  obtain ⟨htakes, hstorable⟩ := (kind.decides_read value).of_eq_ok hcell
  rw [if_neg hkind]
  refine .ok htakes ?_
  simpa [Storable, hcells] using hstorable

theorem decides_ofRelation {kind : Kind} (hkind : kind ≠ .truth) (relation : Listing.Relation)
    (value : String) :
    Decides (relation.Takes kind value) Storable (ofRelation kind relation value) := by
  cases relation with
  | equal =>
      refine Decides.map (kind.decides_read value) ?_
      intro cell hcell
      simpa [Storable, cells] using hcell
  | less => exact decides_ordering hkind (fun _ => rfl) value
  | greater => exact decides_ordering hkind (fun _ => rfl) value
  | atMost => exact decides_ordering hkind (fun _ => rfl) value
  | atLeast => exact decides_ordering hkind (fun _ => rfl) value
  | oneOf => exact Decides.map (decides_readItems kind value) fun _ hcells => hcells
  | noneOf => exact Decides.map (decides_readItems kind value) fun _ hcells => hcells
  | like => exact .ok trivial nofun
  | is =>
      unfold ofRelation Listing.Relation.Takes
      dsimp only
      split_ifs with hnull htrue hfalse
      · exact .ok (by simp [hnull]) fun cell hcell => List.mem_singleton.mp hcell ▸ rfl
      · exact .ok (by simp [htrue]) (storable_truthCell kind true)
      · exact .ok (by simp [hfalse]) (storable_truthCell kind false)
      · exact .invalid (by simp [hnull, htrue, hfalse])
  | unknown symbol => exact .invalid id

end Condition

/-! ## Reading a query -/

namespace Schema

variable {schema : Schema ρ}

/-- The names of the columns differ, and the values of every column can be put in order. -/
structure IsPlain (schema : Schema ρ) : Prop where
  names : (schema.columns.map Column.name).Nodup
  kinds : ∀ column ∈ schema.columns, column.kind ≠ .truth

instance (schema : Schema ρ) : Decidable schema.IsPlain :=
  decidable_of_iff
    ((schema.columns.map Column.name).Nodup ∧ ∀ column ∈ schema.columns, column.kind ≠ .truth)
    ⟨fun hplain => ⟨hplain.1, hplain.2⟩, fun hplain => ⟨hplain.names, hplain.kinds⟩⟩

/-- A query may use the name, and it is that of the column. -/
structure Offers (schema : Schema ρ) (name : String) (column : Column ρ) : Prop where
  permitted : schema.permits name = true
  mem : column ∈ schema.columns
  named : column.name = name

/-- The filter names a column that is offered, and a value that its relation takes for it. -/
def Takes (schema : Schema ρ) (filter : Listing.Filter) : Prop :=
  ∃ column, schema.Offers filter.column column ∧ filter.relation.Takes column.kind filter.value

structure Accepts (schema : Schema ρ) (request : Listing.Request) : Prop where
  filters : ∀ filter ∈ request.filters, schema.Takes filter
  sort : ∀ key ∈ request.sort, ∃ column, schema.Offers key.column column

theorem column_eq_ok_iff (hplain : schema.IsPlain) {name : String} {column : Column ρ} :
    schema.column name = .ok column ↔ schema.Offers name column := by
  have hfind : schema.columns.find? (fun other => other.name = name) = some column ↔
      column ∈ schema.columns ∧ column.name = name :=
    Table.find?_key_eq_some_iff hplain.names
  unfold Schema.column
  by_cases hpermitted : schema.permits name = true
  · rw [if_pos hpermitted]
    constructor
    · intro hcolumn
      split at hcolumn
      next found hfound =>
        cases hcolumn
        obtain ⟨hmem, hnamed⟩ := hfind.mp hfound
        exact ⟨hpermitted, hmem, hnamed⟩
      next => cases hcolumn
    · intro hoffers
      rw [hfind.mpr ⟨hoffers.mem, hoffers.named⟩]
  · rw [if_neg hpermitted]
    constructor
    · intro hcolumn
      cases hcolumn
    · intro hoffers
      exact absurd hoffers.permitted hpermitted

theorem decides_column (hplain : schema.IsPlain) (name : String) :
    Decides (∃ column, schema.Offers name column) (schema.Offers name) (schema.column name) := by
  cases hcolumn : schema.column name with
  | ok column =>
      have hoffers := (column_eq_ok_iff hplain).mp hcolumn
      exact .ok ⟨column, hoffers⟩ hoffers
  | error error =>
      have hnone : ¬ ∃ column, schema.Offers name column := by
        rintro ⟨column, hoffers⟩
        rw [(column_eq_ok_iff hplain).mpr hoffers] at hcolumn
        cases hcolumn
      unfold Schema.column at hcolumn
      split at hcolumn
      · split at hcolumn
        · cases hcolumn
        · cases hcolumn
          exact .invalid hnone
      · cases hcolumn
        exact .invalid hnone

theorem decides_test (hplain : schema.IsPlain) (filter : Listing.Filter) :
    Decides (schema.Takes filter) (fun _ => True) (schema.test filter) := by
  have hnamed := decides_column hplain filter.column
  unfold test
  refine hnamed.bind (fun ⟨column, hoffers, _⟩ => ⟨column, hoffers⟩) ?_
  intro column hcolumn
  have hoffers := (column_eq_ok_iff hplain).mp hcolumn
  -- The column that was found is the only one that the condition can speak of.
  have htakes : filter.relation.Takes column.kind filter.value ↔ schema.Takes filter := by
    constructor
    · intro htakes
      exact ⟨column, hoffers, htakes⟩
    · rintro ⟨other, hother, htakes⟩
      have hsame := hcolumn.symm.trans ((column_eq_ok_iff hplain).mpr hother)
      cases hsame
      exact htakes
  have hcondition :=
    Condition.decides_ofRelation (hplain.kinds column hoffers.mem) filter.relation filter.value
  refine (hcondition.of_iff htakes).bind id ?_
  intro condition hread
  exact .ok (htakes.mp (hcondition.of_eq_ok hread).1) trivial

theorem decides_tests (hplain : schema.IsPlain) (filters : List Listing.Filter) :
    Decides (∀ filter ∈ filters, schema.Takes filter) (fun _ => True) (schema.tests filters) := by
  unfold tests
  apply Decides.mono (Decides.mapM (decides_test hplain))
  exact fun _ _ => trivial

theorem decides_arrangement (hplain : schema.IsPlain) (sort : Option Listing.SortKey) :
    Decides (∀ key ∈ sort, ∃ column, schema.Offers key.column column) (fun _ => True)
      (schema.arrangement sort) := by
  cases sort with
  | none => exact .ok nofun trivial
  | some key =>
      have hnamed := decides_column hplain key.column
      unfold arrangement
      refine hnamed.bind (fun hall => hall key rfl) ?_
      intro column hcolumn
      refine .ok ?_ trivial
      intro other hother
      cases hother
      exact (hnamed.of_eq_ok hcolumn).1

/-- A query is read exactly when it is acceptable. -/
theorem Accepts.exists_reads (hplain : schema.IsPlain) {request : Listing.Request}
    (haccepts : schema.Accepts request) :
    ∃ tests arrange, schema.Reads request.sort request.filters tests arrange := by
  obtain ⟨tests, htests, -⟩ :=
    (Schema.decides_tests hplain request.filters).eq_ok haccepts.filters
  obtain ⟨arrange, harrange, -⟩ :=
    (Schema.decides_arrangement hplain request.sort).eq_ok haccepts.sort
  exact ⟨tests, arrange, htests, harrange⟩

/-- Else a name in it is invalid, whatever is to be done with the query. -/
theorem invalid_of_not_accepts (hplain : schema.IsPlain) {request : Listing.Request}
    (hrefused : ¬ schema.Accepts request)
    (next : List (Test ρ) → (List ρ → List ρ) → Except StoreError α) :
    ∃ name, (do
      let tests ← schema.tests request.filters
      let arrange ← schema.arrangement request.sort
      next tests arrange) = .error (.invalid name) := by
  have hdecided := Schema.decides_tests hplain request.filters
  by_cases hfilters : ∀ filter ∈ request.filters, schema.Takes filter
  · have hsort : ¬ ∀ key ∈ request.sort, ∃ column, schema.Offers key.column column :=
      fun hsort => hrefused ⟨hfilters, hsort⟩
    obtain ⟨tests, htests, -⟩ := hdecided.eq_ok hfilters
    obtain ⟨name, harrange⟩ := (Schema.decides_arrangement hplain request.sort).eq_error hsort
    rw [htests, harrange]
    exact ⟨name, rfl⟩
  · obtain ⟨name, htests⟩ := hdecided.eq_error hfilters
    rw [htests]
    exact ⟨name, rfl⟩

end Schema

/-! ## Statements that are refused -/

namespace Engine

/-- Every further term of the least height makes the joined expression one level higher. -/
theorem joinedHeight_replicate {condition : Condition} (hheights : heights condition = [3])
    (count : Nat) : joinedHeight (List.replicate (count + 1) condition) = count + 3 := by
  have hjoined : ∀ count height : Nat, 3 ≤ height →
      (List.replicate count 3).foldl (fun joined height => max joined height + 1) height =
        count + height := by
    intro count
    induction count with
    | zero => simp
    | succ count ih =>
        intro height hheight
        rw [List.replicate_succ, List.foldl_cons, max_eq_left hheight, ih (height + 1) (by omega)]
        omega
  have hflat : ∀ count, (List.replicate count condition).flatMap heights =
      List.replicate count 3 := by
    intro count
    induction count with
    | zero => rfl
    | succ count ih =>
        rw [List.replicate_succ, List.flatMap_cons, ih, hheights, List.replicate_succ]
        rfl
  unfold joinedHeight
  rw [hflat, List.replicate_succ]
  exact hjoined count 3 le_rfl

theorem standard_refuses_of_height {query : Query}
    (hheight : maxHeight < joinedHeight (query.terms.map Prod.snd)) :
    standard.refuses query = true :=
  Bool.or_eq_true_iff.mpr (.inl (decide_eq_true hheight))

theorem standard_refuses_of_variables {query : Query}
    (hvariables : maxVariables < variableCount query) : standard.refuses query = true :=
  Bool.or_eq_true_iff.mpr (.inr (decide_eq_true hvariables))

end Engine

/-- The expression that joins the tests is higher than a statement of the standard engine may
hold. -/
def Test.TooHigh (tests : List (Test ρ)) : Prop :=
  Engine.maxHeight < Engine.joinedHeight ((tests.map Test.term).map Prod.snd)

theorem Test.tooHigh_replicate {test : Test ρ} (hheights : Engine.heights test.condition = [3])
    {count : Nat} (hcount : Engine.maxHeight < count + 3) :
    TooHigh (List.replicate (count + 1) test) := by
  unfold TooHigh
  rwa [List.map_replicate, List.map_replicate, term, Engine.joinedHeight_replicate hheights]

theorem Test.TooHigh.not_bears {tests : List (Test ρ)} (hhigh : TooHigh tests)
    {schema : Schema ρ} {query : Query} (hterms : query.terms = tests.map Test.term)
    (table : Table ρ) : ¬ table.Bears .standard schema query := by
  intro hbears
  have hrefuses : Engine.standard.refuses query = true :=
    Engine.standard_refuses_of_height (hterms ▸ hhigh)
  have hprepared := hbears.1
  rw [hrefuses] at hprepared
  cases hprepared

/-! ## Pages -/

theorem Query.fits_ofRequest {request : Listing.Request} (terms : List (String × Condition))
    (hoffset : fitsInt64 request.window.offset = true)
    (hlimit : fitsInt64 request.window.pageSize = true) :
    (Query.ofRequest terms request).fits = true := by
  unfold Query.ofRequest
  split_ifs
  · rfl
  · simp [Query.fits, hoffset, hlimit]

namespace Table

variable {engine : Engine} {schema : Schema ρ} {request : Listing.Request} {table : Table ρ}

/-- The engine comes to the end of both statements that a page of the table needs. -/
structure Serves (engine : Engine) (schema : Schema ρ) (request : Listing.Request)
    (tests : List (Test ρ)) (table : Table ρ) : Prop where
  filtered : schema.tests request.filters = .ok tests
  counted : table.Bears engine schema (.count (tests.map Test.term))
  fetched : table.Bears engine schema (.ofRequest (tests.map Test.term) request)

/-- How a page of a table comes out while statements work. -/
inductive Paging (engine : Engine) (schema : Schema ρ) (request : Listing.Request)
    (table : Table ρ) : Except StoreError (Page ρ) → Prop where
  | invalid (name : String) (hrefused : ¬ schema.Accepts request) :
      Paging engine schema request table (.error (.invalid name))
  | stopped (haccepts : schema.Accepts request)
      (hstops : ¬ ∃ tests, table.Serves engine schema request tests) :
      Paging engine schema request table (.error .database)
  | page (page : Page ρ) (haccepts : schema.Accepts request)
      (hserves : ∃ tests, table.Serves engine schema request tests) :
      Paging engine schema request table (.ok page)

theorem paging_page (hselect : .select ∉ table.failing) (hplain : schema.IsPlain)
    (hoffset : fitsInt64 request.window.offset = true)
    (hlimit : fitsInt64 request.window.pageSize = true) :
    Paging engine schema request table (table.page engine schema request) := by
  by_cases haccepts : schema.Accepts request
  · obtain ⟨tests, arrange, hreads⟩ := haccepts.exists_reads hplain
    rw [page_eq engine table hreads (Query.fits_ofRequest _ hoffset hlimit)]
    by_cases hruns : table.Bears engine schema (.count (tests.map Test.term)) ∧
        table.Bears engine schema (.ofRequest (tests.map Test.term) request)
    · rw [if_pos ⟨hselect, hruns⟩]
      exact .page _ haccepts ⟨tests, hreads.filtered, hruns.1, hruns.2⟩
    · rw [if_neg (fun hworks => hruns hworks.2)]
      refine .stopped haccepts ?_
      rintro ⟨same, hserves⟩
      cases hreads.filtered.symm.trans hserves.filtered
      exact hruns ⟨hserves.counted, hserves.fetched⟩
  · obtain ⟨name, hpage⟩ := Schema.invalid_of_not_accepts hplain haccepts _
    unfold page
    rw [hpage]
    exact .invalid name haccepts

end Table
end Roster
