import Roster.Table.Basic

/-!
# Records

A record is a row that is not tied to types. It holds a cell for each column of a layout, and any
value can be assigned to any column: the kind of the column converts it, or leaves it as it is. A
layout also says which columns may be empty, and what fills them in a new row.

A record is changed only where a value differs from the one it holds, before any conversion. So
assigning the text of a number to a column that holds the number is a change, though it leaves the
record as it was.
-/

namespace Roster

structure Field where
  name : String
  kind : Kind
  /-- What stands in a new row that has nothing here. Without it something has to be given. -/
  default : Option Cell := none

def Field.isNullable (field : Field) : Bool :=
  field.default = some .null

structure Layout where
  title : String
  key : String
  fields : List Field
  queryable : Option (List String) := none

inductive AssignError where
  | noColumn (title name : String)
  | store (error : StoreError)
  deriving DecidableEq

def AssignError.message : AssignError → String
  | .noColumn title name => "\"" ++ title ++ "\" object has no field \"" ++ name ++ "\""
  | .store error => error.message

def Schema.layout {ρ : Type} (schema : Schema ρ) (title key : String)
    (defaults : List (String × Cell)) : Layout where
  title
  key
  fields := schema.columns.map fun column =>
    { name := column.name, kind := column.kind, default := defaults.lookup column.name }
  queryable := schema.queryable

def Schema.record {ρ : Type} (schema : Schema ρ) (row : ρ) : Record :=
  schema.columns.map fun column => (column.name, column.cell row)

namespace Table

variable {ρ : Type}

def records (schema : Schema ρ) (table : Table ρ) : Table Record where
  rows := table.rows.map schema.record
  failing := table.failing

def ofRecords? (read? : Record → Option ρ) (table : Table Record) : Option (Table ρ) := do
  return { rows := ← table.rows.mapM read?, failing := table.failing }

end Table

namespace Layout

def schema (layout : Layout) : Schema Record where
  key record := ((record.cell layout.key).text?).getD ""
  columns := layout.fields.map fun field =>
    { name := field.name, kind := field.kind, cell := fun record => record.cell field.name }
  queryable := layout.queryable

/-- The given values as the fields hold them. All values are prepared before an integer that does
not fit is noticed. -/
def held (fields : List Field) (given : Record) : Except StoreError Record := do
  let prepared ← fields.mapM fun field => do
    return (field, ← field.kind.prepared (given.cell field.name))
  if prepared.any fun (_, value) => !value.isStorable then throw .outOfRange
  return prepared.map fun (field, value) => (field.name, field.kind.stored value)

def inserted (layout : Layout) (given : Record) : Except StoreError Record := do
  let record ← held layout.fields given
  layout.fields.mapM fun field =>
    match record.cell field.name, field.default with
    | .null, none => throw .database
    | .null, some value => return (field.name, value)
    | value, _ => return (field.name, value)

def changed (layout : Layout) (old given : Record) : List Field :=
  layout.fields.filter fun field =>
    (given.lookup field.name).any fun value => value.differs (old.cell field.name)

def revised (layout : Layout) (given old : Record) : Except StoreError (Option Record) := do
  let fields := layout.changed old given
  if fields.isEmpty then return none
  let record ← held fields given
  if fields.any fun field => !field.isNullable && (record.cell field.name).isNull then
    throw .database
  return some (old.map fun (name, value) => (name, (record.lookup name).getD value))

def withDefaults (layout : Layout) (given : Record) : Record :=
  given ++ layout.fields.filterMap fun field => field.default.map (field.name, ·)

/-- The key that a value stands for; an empty value stands for none. -/
def key? (value : Cell) : Except StoreError (Option String) :=
  if value.isStorable then .ok (Kind.text.stored value).text? else .error .outOfRange

def find? (layout : Layout) (key : Cell) (table : Table Record) :
    Except StoreError (Option Record) := do
  table.attempt .select
  match ← key? key with
  | some key => table.find? layout.schema key
  | none => return none

def findCell? (layout : Layout) (name : String) (value : Cell) (table : Table Record) :
    Except StoreError (Option Record) := do
  table.attempt .select
  if !value.isStorable then throw .outOfRange
  match layout.fields.find? (·.name = name) with
  | some field => table.findCell? (·.cell name) (field.kind.compared value)
  | none => return none

/-- Stores a row: it is inserted when its key is new, else the row with the key is changed. -/
def create (layout : Layout) (given : Record) (table : Table Record) :
    Except StoreError (Record × Table Record) := do
  let key := given.cell layout.key
  if key.isNull then
    let _ ← layout.inserted given
    throw .database
  table.attempt .select
  match ← key? key with
  | some key =>
    table.put layout.schema {
      key
      inserted := layout.inserted given
      overwritten := layout.revised (layout.withDefaults given) }
  | none => throw .database

/-- A name that no column has. A name that starts with an underscore is private to whoever assigns
to it, and is passed by. -/
def unknownName? (layout : Layout) (given : Record) : Option String :=
  (given.map (·.1)).find? fun name =>
    !name.startsWith "_" && !layout.fields.any (·.name = name)

def assign (layout : Layout) (key : Cell) (given : Record) (table : Table Record) :
    Except AssignError (Option Record × Table Record) := do
  match ← (layout.find? key table).mapError .store with
  | none => return (none, table)
  | some old =>
    match layout.unknownName? given with
    | some name => throw (.noColumn layout.title name)
    | none =>
      let (new, table) ←
        (table.replace layout.schema old (layout.revised given old)).mapError .store
      return (some new, table)

def delete (layout : Layout) (key : Cell) (table : Table Record) :
    Except StoreError (Bool × Table Record) := do
  table.attempt .select
  match ← key? key with
  | some key => table.delete layout.schema key
  | none => return (false, table)

end Layout

end Roster
