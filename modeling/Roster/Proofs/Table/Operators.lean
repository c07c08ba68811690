import Roster.Proofs.Table.Conjunction
import Mathlib.Tactic

/-!
# How the relations of filters fit together

A comparison with an empty cell has no answer and keeps no row, so the relations are not each
other's complements.  On a column of texts or integers every row is smaller than a value, equal to
it, greater than it, or empty there.  What is at most or at least a value, and what is among some
values, is put together from these.  What is among none of them leaves the empty cells out as well,
except that an empty list of values excludes nothing at all.  All this is said of the answers that
the database engine gives: it can run the statement for one relation and not the one for another.
-/

namespace Roster

open Outcome

variable {ρ : Type}

/-! ## Cells that can be compared -/

@[simp] theorem Cell.isNull_null : Cell.null.isNull = true := rfl

/-- Comparisons fail only for empty cells. -/
theorem Cell.compare?_eq_none_iff {cell value : Cell} (hcell : cell.IsExact)
    (hvalue : value.IsExact) :
    cell.compare? value = none ↔ cell = .null ∨ value = .null := by
  cases cell <;> cases value <;> simp_all [compare?, IsExact]

/-- The kinds of columns that hold texts or integers. -/
def Kind.IsExact : Kind → Prop
  | .text | .integer => True
  | .real | .truth => False

instance : DecidablePred Kind.IsExact
  | .text | .integer => isTrue trivial
  | .real | .truth => isFalse id

/-- A value that filters compare with. -/
structure Cell.IsValue (value : Cell) : Prop where
  exact : value.IsExact
  filled : value ≠ .null

theorem Kind.isValue_of_read {kind : Kind} (hkind : kind.IsExact) {value : String} {cell : Cell}
    (hread : kind.read value = .ok cell) : cell.IsValue := by
  cases kind with
  | text =>
      cases hread
      exact ⟨trivial, by simp⟩
  | integer =>
      simp only [read] at hread
      cases hnumber : readInteger (trim value.toList) with
      | error error =>
          rw [hnumber] at hread
          cases hread
      | ok number =>
          rw [hnumber] at hread
          dsimp only at hread
          split_ifs at hread
          cases hread
          exact ⟨trivial, by simp⟩
  | real => cases hkind
  | truth => cases hkind

/-! ## Conditions on a cell -/

namespace Condition

variable {cell value : Cell} {values : List Cell}

theorem holds_apart (hcell : cell.IsExact) (hvalue : value.IsValue) :
    [less value, equal value, greater value, is .null].countP (fun condition =>
      condition.holds cell) = 1 := by
  cases hcompare : cell.compare? value with
  | none =>
      obtain rfl : cell = .null := by
        simpa [Cell.compare?_eq_none_iff hcell hvalue.exact, hvalue.filled] using hcompare
      simp [holds, Cell.same, hcompare, Cell.isNull]
  | some ordering =>
      have hfilled : cell ≠ .null := by
        rintro rfl
        simp [Cell.compare?] at hcompare
      have hnull : cell.isNull = false := by
        cases cell <;> simp_all [Cell.isNull]
      cases ordering <;> simp [holds, Cell.same, hcompare, hnull]

theorem holds_atMost_iff :
    (atMost value).holds cell = true ↔
      (less value).holds cell = true ∨ (equal value).holds cell = true := by
  simp only [holds, Cell.same]
  cases cell.compare? value with
  | none => simp
  | some ordering => cases ordering <;> simp

theorem holds_atLeast_iff :
    (atLeast value).holds cell = true ↔
      (greater value).holds cell = true ∨ (equal value).holds cell = true := by
  simp only [holds, Cell.same]
  cases cell.compare? value with
  | none => simp
  | some ordering => cases ordering <;> simp

theorem holds_oneOf_iff :
    (oneOf values).holds cell = true ↔ ∃ value ∈ values, (equal value).holds cell = true := by
  simp [holds]

/-- One value is enough to leave an empty cell out. -/
theorem holds_noneOf_iff (hcell : cell.IsExact) (hvalues : ∀ value ∈ values, value.IsValue) :
    (noneOf values).holds cell = true ↔
      values = [] ∨ cell ≠ .null ∧ ¬ (oneOf values).holds cell = true := by
  have hdiffers : ∀ value ∈ values,
      (((cell.compare? value).map Ordering.isNe).getD false = true ↔
        cell ≠ .null ∧ cell.same value = false) := by
    intro value hvalue
    have hnone := Cell.compare?_eq_none_iff hcell (hvalues value hvalue).exact
    simp only [(hvalues value hvalue).filled, or_false] at hnone
    rw [ne_eq, ← hnone, Cell.same]
    cases cell.compare? value with
    | none => simp
    | some ordering => cases ordering <;> simp
  simp only [holds, List.all_eq_true, List.any_eq_true, not_exists, not_and, Bool.not_eq_true]
  constructor
  · intro hall
    by_cases hempty : values = []
    · exact .inl hempty
    · obtain ⟨first, rest, rfl⟩ := List.exists_cons_of_ne_nil hempty
      have hfirst := (hdiffers first List.mem_cons_self).mp (hall first List.mem_cons_self)
      exact .inr ⟨hfirst.1, fun value hvalue => ((hdiffers value hvalue).mp (hall value hvalue)).2⟩
  · rintro (rfl | ⟨hfilled, hnone⟩)
    · simp
    · intro value hvalue
      exact (hdiffers value hvalue).mpr ⟨hfilled, hnone value hvalue⟩

/-! ## Conditions that a relation stands for -/

variable {kind : Kind} {relation : Listing.Relation} {text : String} {condition : Condition}

theorem ordering_of_read (hkind : kind.IsExact) (hread : kind.read text = .ok value)
    (condition : Cell → Condition) : ordering kind condition text = .ok (condition value) := by
  have htruth : kind ≠ .truth := by
    rintro rfl
    exact hkind
  rw [ordering, hread, ok_bind, if_neg htruth]

/-- The comparison that a relation with one value stands for. -/
def comparison? : Listing.Relation → Option (Cell → Condition)
  | .equal => some .equal
  | .less => some .less
  | .greater => some .greater
  | .atMost => some .atMost
  | .atLeast => some .atLeast
  | _ => none

theorem ofRelation_of_comparison? {comparison : Cell → Condition} (hkind : kind.IsExact)
    (hcomparison : comparison? relation = some comparison) (hread : kind.read text = .ok value) :
    ofRelation kind relation text = .ok (comparison value) := by
  cases relation with
  | equal =>
      cases hcomparison
      rw [ofRelation, hread]
      rfl
  | less | greater | atMost | atLeast =>
      cases hcomparison
      exact ordering_of_read hkind hread _
  | _ => cases hcomparison

end Condition

/-! ## Answers of a table -/

/-- The items of a comma list that are not blank. -/
def Listing.items (list : String) : List String :=
  ((pieces ',' list.toList).filter fun item => !(trim item).isEmpty).map String.ofList

theorem Listing.takes_items_iff {kind : Kind} {list : String} :
    (∀ item ∈ items list, kind.Takes item) ↔ Relation.oneOf.Takes kind list := by
  simp only [items, Relation.Takes, List.forall_mem_map, List.mem_filter, and_imp,
    Bool.not_eq_true', ← Bool.not_eq_true, List.isEmpty_iff, ne_eq]

namespace Table

variable {engine : Engine} {schema : Schema ρ} {sort : Option Listing.SortKey} {table : Table ρ}
  {name : String} {column : Column ρ} {relation : Listing.Relation} {text : String}
  {condition : Condition} {row : ρ} {rows less equal greater empty : List ρ}

/-- The rows that a query with a single filter finds. -/
def Answers (engine : Engine) (schema : Schema ρ) (sort : Option Listing.SortKey)
    (table : Table ρ) (name : String) (relation : Listing.Relation) (value : String)
    (rows : List ρ) : Prop :=
  table.list engine schema sort [⟨name, value, relation⟩] = .ok rows

/-- The column can be queried, and holds texts or integers. -/
structure Compares (schema : Schema ρ) (name : String) (column : Column ρ) : Prop where
  plain : schema.IsPlain
  offers : schema.Offers name column
  kind : column.kind.IsExact
  cells : ∀ row, (column.cell row).IsExact

namespace Compares

theorem exists_condition (hcompares : Compares schema name column)
    (htakes : relation.Takes column.kind text) :
    ∃ condition, Condition.ofRelation column.kind relation text = .ok condition := by
  have htruth := hcompares.plain.kinds column hcompares.offers.mem
  obtain ⟨condition, hcondition, -⟩ :=
    (Condition.decides_ofRelation htruth relation text).eq_ok htakes
  exact ⟨condition, hcondition⟩

theorem answer_perm (hcompares : Compares schema name column)
    (hcondition : Condition.ofRelation column.kind relation text = .ok condition)
    (hanswer : table.Answers engine schema sort name relation text rows) :
    rows.Perm (table.rows.filter fun row => condition.holds (column.cell row)) := by
  have hcolumn := (Schema.column_eq_ok_iff hcompares.plain).mpr hcompares.offers
  have hsingle : schema.tests [⟨name, text, relation⟩] = .ok [⟨column, condition⟩] := by
    simp [Schema.tests, Schema.test, hcolumn, hcondition, ok_bind, pure, Except.pure]
  obtain ⟨tests, arrange, hreads, -, -, rfl⟩ := list_eq_ok_iff.mp hanswer
  obtain rfl := Except.ok.inj (hreads.filtered.symm.trans hsingle)
  have hholds : Test.allHold [⟨column, condition⟩] =
      fun row => condition.holds (column.cell row) := by
    funext row
    simp [Test.allHold, Test.holds]
  exact hholds ▸ (Schema.arrangement_perm hreads.sorted _).trans (found_perm _ _ _ _ _)

theorem mem_answer_iff (hcompares : Compares schema name column)
    (hcondition : Condition.ofRelation column.kind relation text = .ok condition)
    (hanswer : table.Answers engine schema sort name relation text rows) :
    row ∈ rows ↔ row ∈ table.rows ∧ condition.holds (column.cell row) = true :=
  (hcompares.answer_perm hcondition hanswer).mem_iff.trans List.mem_filter

/-- An answer repeats its rows as the table does. -/
theorem count_answer [DecidableEq ρ] (hcompares : Compares schema name column)
    (htakes : relation.Takes column.kind text)
    (hanswer : table.Answers engine schema sort name relation text rows) (hfound : row ∈ rows) :
    rows.count row = table.rows.count row := by
  obtain ⟨condition, hcondition⟩ := hcompares.exists_condition htakes
  obtain ⟨-, hholds⟩ := (hcompares.mem_answer_iff hcondition hanswer).mp hfound
  exact ((hcompares.answer_perm hcondition hanswer).count_eq row).trans (List.count_filter hholds)

theorem mem_comparison_iff (hcompares : Compares schema name column)
    {comparison : Cell → Condition} {cell : Cell}
    (hcomparison : Condition.comparison? relation = some comparison)
    (hread : column.kind.read text = .ok cell)
    (hanswer : table.Answers engine schema sort name relation text rows) :
    row ∈ rows ↔ row ∈ table.rows ∧ (comparison cell).holds (column.cell row) = true :=
  hcompares.mem_answer_iff
    (Condition.ofRelation_of_comparison? hcompares.kind hcomparison hread) hanswer

theorem mem_null_iff (hcompares : Compares schema name column)
    (hanswer : table.Answers engine schema sort name .is "null" rows) :
    row ∈ rows ↔ row ∈ table.rows ∧ (Condition.is .null).holds (column.cell row) = true := by
  have hword : Kind.word "null" = "null" := by decide +kernel
  exact hcompares.mem_answer_iff (by rw [Condition.ofRelation, if_pos hword]) hanswer

/-! ### Single values -/

theorem found_once [DecidableEq ρ] (hcompares : Compares schema name column)
    (htakes : column.kind.Takes text)
    (hless : table.Answers engine schema sort name .less text less)
    (hequal : table.Answers engine schema sort name .equal text equal)
    (hgreater : table.Answers engine schema sort name .greater text greater)
    (hempty : table.Answers engine schema sort name .is "null" empty) (hrow : row ∈ table.rows) :
    [less, equal, greater, empty].countP (fun found => row ∈ found) = 1 := by
  obtain ⟨cell, hread, -⟩ := (column.kind.decides_read text).eq_ok htakes
  have hapart := Condition.holds_apart (hcompares.cells row)
    (Kind.isValue_of_read hcompares.kind hread)
  simpa [List.countP_cons, hcompares.mem_comparison_iff rfl hread hless,
    hcompares.mem_comparison_iff rfl hread hequal, hcompares.mem_comparison_iff rfl hread hgreater,
    hcompares.mem_null_iff hempty, hrow] using hapart

theorem found_or_equal (hcompares : Compares schema name column)
    {strict loose : Listing.Relation} {comparison orEqual : Cell → Condition}
    (hstrict : Condition.comparison? strict = some comparison)
    (hloose : Condition.comparison? loose = some orEqual)
    (hholds : ∀ {cell value : Cell}, (orEqual value).holds cell = true ↔
      (comparison value).holds cell = true ∨ (Condition.equal value).holds cell = true)
    (htakes : column.kind.Takes text)
    (hrows : table.Answers engine schema sort name loose text rows)
    (hless : table.Answers engine schema sort name strict text less)
    (hequal : table.Answers engine schema sort name .equal text equal) :
    row ∈ rows ↔ row ∈ less ∨ row ∈ equal := by
  obtain ⟨cell, hread, -⟩ := (column.kind.decides_read text).eq_ok htakes
  rw [hcompares.mem_comparison_iff hloose hread hrows,
    hcompares.mem_comparison_iff hstrict hread hless,
    hcompares.mem_comparison_iff rfl hread hequal, hholds, and_or_left]

/-! ### Lists of values -/

theorem exists_cells {list : String}
    (htakes : ∀ item ∈ Listing.items list, column.kind.Takes item) :
    ∃ cells, Condition.readItems column.kind list = .ok cells ∧
      ∀ cell, cell ∈ cells ↔ ∃ item ∈ Listing.items list, column.kind.read item = .ok cell := by
  obtain ⟨cells, hcells, -⟩ :=
    (Condition.decides_readItems column.kind list).eq_ok (Listing.takes_items_iff.mp htakes)
  exact ⟨cells, hcells, fun cell => mem_mapM_iff hcells⟩

variable {list : String} {among outside : List ρ}

theorem found_among (hcompares : Compares schema name column)
    (htakes : ∀ item ∈ Listing.items list, column.kind.Takes item)
    (hamong : table.Answers engine schema sort name .oneOf list among)
    {equals : String → List ρ} (hequals : ∀ item ∈ Listing.items list,
      table.Answers engine schema sort name .equal item (equals item)) :
    row ∈ among ↔ ∃ item ∈ Listing.items list, row ∈ equals item := by
  obtain ⟨cells, hread, hcells⟩ := exists_cells htakes
  have hcondition : Condition.ofRelation column.kind .oneOf list = .ok (.oneOf cells) := by
    rw [Condition.ofRelation, hread]
    rfl
  rw [hcompares.mem_answer_iff hcondition hamong, Condition.holds_oneOf_iff]
  constructor
  · rintro ⟨hrow, cell, hcell, hholds⟩
    obtain ⟨item, hitem, hread⟩ := (hcells cell).mp hcell
    have hfound : row ∈ equals item ↔ _ :=
      hcompares.mem_comparison_iff rfl hread (hequals item hitem)
    exact ⟨item, hitem, hfound.mpr ⟨hrow, hholds⟩⟩
  · rintro ⟨item, hitem, hfound⟩
    obtain ⟨cell, hread, -⟩ := (column.kind.decides_read item).eq_ok (htakes item hitem)
    obtain ⟨hrow, hholds⟩ :=
      (hcompares.mem_comparison_iff rfl hread (hequals item hitem)).mp hfound
    exact ⟨hrow, cell, (hcells cell).mpr ⟨item, hitem, hread⟩, hholds⟩

theorem found_everywhere (hcompares : Compares schema name column)
    (hblank : Listing.items list = [])
    (houtside : table.Answers engine schema sort name .noneOf list outside) :
    row ∈ outside ↔ row ∈ table.rows := by
  have hread : Condition.readItems column.kind list = .ok [] := by
    unfold Condition.readItems
    rw [← Listing.items, hblank]
    rfl
  have hcondition : Condition.ofRelation column.kind .noneOf list = .ok (.noneOf []) := by
    rw [Condition.ofRelation, hread]
    rfl
  rw [hcompares.mem_answer_iff hcondition houtside]
  exact and_iff_left rfl

theorem found_outside (hcompares : Compares schema name column)
    (htakes : ∀ item ∈ Listing.items list, column.kind.Takes item)
    (hfilled : Listing.items list ≠ [])
    (hamong : table.Answers engine schema sort name .oneOf list among)
    (houtside : table.Answers engine schema sort name .noneOf list outside) :
    row ∈ outside ↔ row ∈ table.rows ∧ column.cell row ≠ .null ∧ row ∉ among := by
  obtain ⟨cells, hread, hcells⟩ := exists_cells htakes
  have hvalues : ∀ cell ∈ cells, cell.IsValue := by
    intro cell hcell
    obtain ⟨item, -, hread⟩ := (hcells cell).mp hcell
    exact Kind.isValue_of_read hcompares.kind hread
  have hnonempty : cells ≠ [] := by
    obtain ⟨item, hitem⟩ := List.exists_mem_of_ne_nil _ hfilled
    obtain ⟨cell, hcell, -⟩ := (column.kind.decides_read item).eq_ok (htakes item hitem)
    exact List.ne_nil_of_mem ((hcells cell).mpr ⟨item, hitem, hcell⟩)
  have hinside : Condition.ofRelation column.kind .oneOf list = .ok (.oneOf cells) := by
    rw [Condition.ofRelation, hread]
    rfl
  have hcondition : Condition.ofRelation column.kind .noneOf list = .ok (.noneOf cells) := by
    rw [Condition.ofRelation, hread]
    rfl
  rw [hcompares.mem_answer_iff hcondition houtside,
    Condition.holds_noneOf_iff (hcompares.cells row) hvalues,
    hcompares.mem_answer_iff hinside hamong]
  by_cases hrow : row ∈ table.rows
  · simp [hrow, hnonempty]
  · simp [hrow]

end Compares

/-! ## How the answers fit together -/

/-- The answers to queries with a single filter on the column.  A comparison with values of the
column is answered when its statement runs, by rows of the table, each of them as often as it is
there. -/
structure Coherent [DecidableEq ρ] (engine : Engine) (schema : Schema ρ)
    (sort : Option Listing.SortKey) (table : Table ρ) (name : String) (column : Column ρ) :
    Prop where
  settles : ∀ relation value, relation.Takes column.kind value →
    ¬ Refused (table.list engine schema sort [⟨name, value, relation⟩]) ∧
      Settles (table.Lists engine schema sort [⟨name, value, relation⟩])
        (table.list engine schema sort [⟨name, value, relation⟩])
  count : ∀ relation value rows, relation.Takes column.kind value →
    table.Answers engine schema sort name relation value rows →
      ∀ row ∈ rows, rows.count row = table.rows.count row
  apart : ∀ value less equal greater empty, column.kind.Takes value →
    table.Answers engine schema sort name .less value less →
      table.Answers engine schema sort name .equal value equal →
      table.Answers engine schema sort name .greater value greater →
      table.Answers engine schema sort name .is "null" empty →
        ∀ row ∈ table.rows,
          [less, equal, greater, empty].countP (fun found => row ∈ found) = 1
  atMost : ∀ value rows less equal, column.kind.Takes value →
    table.Answers engine schema sort name .atMost value rows →
      table.Answers engine schema sort name .less value less →
      table.Answers engine schema sort name .equal value equal →
        ∀ row, row ∈ rows ↔ row ∈ less ∨ row ∈ equal
  atLeast : ∀ value rows greater equal, column.kind.Takes value →
    table.Answers engine schema sort name .atLeast value rows →
      table.Answers engine schema sort name .greater value greater →
      table.Answers engine schema sort name .equal value equal →
        ∀ row, row ∈ rows ↔ row ∈ greater ∨ row ∈ equal
  oneOf : ∀ list among (equals : String → List ρ),
    (∀ item ∈ Listing.items list, column.kind.Takes item) →
      table.Answers engine schema sort name .oneOf list among →
      (∀ item ∈ Listing.items list,
        table.Answers engine schema sort name .equal item (equals item)) →
        ∀ row, row ∈ among ↔ ∃ item ∈ Listing.items list, row ∈ equals item
  noneOf : ∀ list outside among, (∀ item ∈ Listing.items list, column.kind.Takes item) →
    Listing.items list ≠ [] → table.Answers engine schema sort name .oneOf list among →
      table.Answers engine schema sort name .noneOf list outside →
        ∀ row, row ∈ outside ↔ row ∈ table.rows ∧ column.cell row ≠ .null ∧ row ∉ among
  noneOf_blank : ∀ list outside, Listing.items list = [] →
    table.Answers engine schema sort name .noneOf list outside →
      ∀ row, row ∈ outside ↔ row ∈ table.rows

theorem Compares.coherent [DecidableEq ρ] (hcompares : Compares schema name column)
    (engine : Engine) (table : Table ρ)
    (hsort : ∀ key ∈ sort, ∃ other, schema.Offers key.column other) :
    table.Coherent engine schema sort name column := by
  constructor
  · intro relation value htakes
    have haccepts : schema.Accepts ⟨{}, sort, [⟨name, value, relation⟩]⟩ :=
      ⟨List.forall_mem_singleton.mpr ⟨column, hcompares.offers, htakes⟩, hsort⟩
    refine ⟨?_, list_settles hcompares.plain engine table ⟨{}, sort, _⟩⟩
    exact (refused_list_iff hcompares.plain engine table ⟨{}, sort, _⟩).not.mpr
      (not_not.mpr haccepts)
  · intro relation value rows htakes hanswer row hfound
    exact hcompares.count_answer htakes hanswer hfound
  · intro value less equal greater empty htakes hless hequal hgreater hempty row hrow
    exact hcompares.found_once htakes hless hequal hgreater hempty hrow
  · intro value rows less equal htakes hrows hless hequal row
    exact hcompares.found_or_equal rfl rfl Condition.holds_atMost_iff htakes hrows hless hequal
  · intro value rows greater equal htakes hrows hgreater hequal row
    exact hcompares.found_or_equal rfl rfl Condition.holds_atLeast_iff htakes hrows hgreater hequal
  · intro list among equals htakes hamong hequals row
    exact hcompares.found_among htakes hamong hequals
  · intro list outside among htakes hfilled hamong houtside row
    exact hcompares.found_outside htakes hfilled hamong houtside
  · intro list outside hblank houtside row
    exact hcompares.found_everywhere hblank houtside

end Table
end Roster
