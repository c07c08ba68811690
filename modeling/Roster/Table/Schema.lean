import Roster.Table.Condition
import Roster.Listing.Sort

/-!
# Schemas

A schema says how the rows of a table are seen: their key, their columns, and the columns that a
query may name. Filters become tests of rows, and a sort key becomes a rearrangement of rows. Rows
with equal sort keys stay in the order they came in, which is up to the database.
-/

namespace Roster

/-- The cells of a row by the names of their columns. -/
abbrev Record := List (String × Cell)

/-- The cell of a column; it is empty when the record does not have it. -/
def Record.cell (record : Record) (name : String) : Cell :=
  (record.lookup name).getD .null

structure Column (ρ : Type) where
  name : String
  kind : Kind
  cell : ρ → Cell

structure Schema (ρ : Type) where
  key : ρ → String
  columns : List (Column ρ)
  /-- The names that a query may use; without a list it may use all. -/
  queryable : Option (List String) := none

/-- A condition on the cells of a column. -/
structure Test (ρ : Type) where
  column : Column ρ
  condition : Condition

namespace Test

variable {ρ : Type}

def holds (test : Test ρ) (row : ρ) : Bool :=
  test.condition.holds (test.column.cell row)

/-- The test as a statement has it. -/
def term (test : Test ρ) : String × Condition :=
  (test.column.name, test.condition)

def allHold (tests : List (Test ρ)) (row : ρ) : Bool :=
  tests.all (·.holds row)

end Test

namespace Schema

variable {ρ : Type}

def permits (schema : Schema ρ) (name : String) : Bool :=
  match schema.queryable with
  | some names => names.contains name
  | none => true

/-- What a query can learn of a row. -/
def shown (schema : Schema ρ) (row : ρ) : Record :=
  (schema.columns.filter fun column => schema.permits column.name).map fun column =>
    (column.name, column.cell row)

def column (schema : Schema ρ) (name : String) : Except StoreError (Column ρ) :=
  if schema.permits name then
    match schema.columns.find? (·.name = name) with
    | some column => .ok column
    | none => .error (.invalid name)
  else .error (.invalid name)

def test (schema : Schema ρ) (filter : Listing.Filter) : Except StoreError (Test ρ) := do
  let column ← schema.column filter.column
  let condition ← Condition.ofRelation column.kind filter.relation filter.value
  return { column, condition }

def tests (schema : Schema ρ) (filters : List Listing.Filter) :
    Except StoreError (List (Test ρ)) :=
  filters.mapM schema.test

def precedes (column : Column ρ) (direction : Listing.Direction) (a b : ρ) : Bool :=
  match direction with
  | .ascending => ((column.cell a).order (column.cell b)).isLE
  | .descending => ((column.cell b).order (column.cell a)).isLE

def arrangement (schema : Schema ρ) (sort : Option Listing.SortKey) :
    Except StoreError (List ρ → List ρ) :=
  match sort with
  | none => .ok id
  | some key => do
    let column ← schema.column key.column
    return fun rows => rows.mergeSort (precedes column key.direction)

/-- A row can be stored when all its integers fit. -/
def accept (schema : Schema ρ) (row : ρ) : Except StoreError ρ :=
  if schema.columns.all fun column => (column.cell row).isStorable then .ok row
  else .error .outOfRange

/-- What replaces a row: nothing when it stays the same. -/
def revised [DecidableEq ρ] (schema : Schema ρ) (old new : ρ) : Except StoreError (Option ρ) := do
  let new ← schema.accept new
  return if new = old then none else some new

end Schema

end Roster
