import Roster.Table.Schema

/-!
# Tables

A table is a list of rows in order of insertion, with at most one row for a key. Storing a row
under a key that is present overwrites the row in its place. Statements of a kind can be made to
fail, and a statement that fails changes no row. The operations that write consist of several
statements, and are carried out in a session.
-/

namespace Roster

inductive Statement where
  | select
  | insert
  | update
  | delete
  deriving DecidableEq

structure Table (ρ : Type) where
  /-- The rows, in order of insertion. -/
  rows : List ρ := []
  failing : List Statement := []

/-- A row to be stored under a key. -/
structure Draft (ρ : Type) where
  key : String
  /-- The row that is inserted when the key is new. -/
  inserted : Except StoreError ρ
  /-- What replaces a row that has the key. -/
  overwritten : ρ → Except StoreError (Option ρ)

def Draft.ofRow {ρ : Type} [DecidableEq ρ] (schema : Schema ρ) (row : ρ) : Draft ρ where
  key := schema.key row
  inserted := schema.accept row
  overwritten := fun old => schema.revised old row

namespace Table

variable {ρ : Type}

/-- Runs a statement that does nothing but fail or not. -/
def attempt (table : Table ρ) (statement : Statement) : Except StoreError Unit :=
  if table.failing.contains statement then .error .database else .ok ()

def find? (schema : Schema ρ) (key : String) (table : Table ρ) :
    Except StoreError (Option ρ) := do
  table.attempt .select
  return table.rows.find? fun row => schema.key row = key

/-- The first row whose cell holds a value, or is empty when the value is. -/
def findCell? (cell : ρ → Cell) (value : Cell) (table : Table ρ) :
    Except StoreError (Option ρ) := do
  table.attempt .select
  if !value.isStorable then throw .outOfRange
  return table.rows.find? fun row =>
    if value.isNull then (cell row).isNull else (cell row).same value

/-- Gives a text to a select statement. A statement that fails does so before the text is
encoded. -/
def bindText (text : LooseText) (table : Table ρ) : Except StoreError String := do
  table.attempt .select
  text.encode.mapError .unencodable

/-- The first row whose cell holds a name in any case. The stored spelling is folded in ASCII
only, the name that is looked for in full. -/
def findName? (cell : ρ → Cell) (name : LooseText) (table : Table ρ) :
    Except StoreError (Option ρ) := do
  let wanted ← table.bindText name.lower
  return table.rows.find? fun row => (cell row).text?.map asciiLower = some wanted

/-! ### Statements that write

Each gives the rows that are there after it. -/

def inserting (row : ρ) (table : Table ρ) : Except StoreError (List ρ) := do
  table.attempt .insert
  return table.rows ++ [row]

def overwriting (schema : Schema ρ) (old new : ρ) (table : Table ρ) :
    Except StoreError (List ρ) := do
  table.attempt .update
  if schema.key new ≠ schema.key old ∧
      table.rows.any fun row => schema.key row = schema.key new then
    throw .database
  return table.rows.map fun row => if schema.key row = schema.key old then new else row

def deleting (schema : Schema ρ) (key : String) (table : Table ρ) :
    Except StoreError (List ρ) := do
  table.attempt .delete
  return table.rows.filter fun row => schema.key row ≠ key

/-! ### Operations that write

What an operation comes to, from the table before it to the table after it. -/

/-- Puts a new row, if there is one, in the place of an old one; without one no statement is
needed. A value that does not fit is noticed before the statement can fail. -/
def replace (schema : Schema ρ) (old : ρ) (changed : Except StoreError (Option ρ))
    (table : Table ρ) : Except StoreError (ρ × Table ρ) := do
  match ← changed with
  | none => return (old, table)
  | some new =>
    let rows ← table.overwriting schema old new
    return (new, { table with rows })

/-- Stores a draft: appended when its key is new, else in the place of the row with the key. -/
def put (schema : Schema ρ) (draft : Draft ρ) (table : Table ρ) :
    Except StoreError (ρ × Table ρ) := do
  match ← table.find? schema draft.key with
  | some old => table.replace schema old (draft.overwritten old)
  | none =>
    let row ← draft.inserted
    let rows ← table.inserting row
    return (row, { table with rows })

/-- Deletes the row with a key, and tells whether there was one. -/
def delete (schema : Schema ρ) (key : String) (table : Table ρ) :
    Except StoreError (Bool × Table ρ) := do
  match ← table.find? schema key with
  | some _ =>
    let rows ← table.deleting schema key
    return (true, { table with rows })
  | none => return (false, table)

end Table

end Roster
