import Roster.Table.Record
import Roster.Table.Session

/-!
# Repositories

The operations that write, as they are carried out in a session: the statements of an operation,
the commit, and the reading of the row that was written. On rows of a schema they store a draft,
replace a row and delete one; on the records of a layout they create a record, assign to one and
delete one.
-/

namespace Roster.Repository

variable {ρ : Type}

/-- Writes what replaces a row, if anything does. -/
def flush (schema : Schema ρ) (old : ρ) (changed : Except StoreError (Option ρ)) :
    Work ρ StoreError ρ := do
  match ← Work.ofExcept changed with
  | none => return old
  | some new =>
    Work.write (Table.overwriting schema old new)
    return new

def put (schema : Schema ρ) (draft : Draft ρ) : Work ρ StoreError ρ := do
  let stored ← Work.committing do
    match ← Work.ask (Table.find? schema draft.key) with
    | some old => flush schema old (draft.overwritten old)
    | none =>
      let row ← Work.ofExcept draft.inserted
      Work.write (Table.inserting row)
      return row
  Work.refresh
  return stored

def replace (schema : Schema ρ) (old : ρ) (changed : Except StoreError (Option ρ)) :
    Work ρ StoreError ρ := do
  let stored ← Work.committing (flush schema old changed)
  Work.refresh
  return stored

def delete (schema : Schema ρ) (key : String) : Work ρ StoreError Bool := do
  match ← Work.ask (Table.find? schema key) with
  | some _ =>
    Work.committing (Work.write (Table.deleting schema key))
    return true
  | none => return false

/-! ## Records -/

def createRecord (layout : Layout) (given : Record) : Work Record StoreError Record := do
  let key := given.cell layout.key
  if key.isNull then
    let _ ← Work.ofExcept (layout.inserted given)
    throw .database
  Work.ask fun table => table.attempt .select
  match ← Work.ofExcept (Layout.key? key) with
  | some key =>
    put layout.schema {
      key
      inserted := layout.inserted given
      overwritten := layout.revised (layout.withDefaults given) }
  | none => throw .database

def assignRecord (layout : Layout) (key : Cell) (given : Record) :
    Work Record AssignError (Option Record) := do
  match ← Work.ask fun table => (layout.find? key table).mapError .store with
  | none => return none
  | some old =>
    match layout.unknownName? given with
    | some name => throw (.noColumn layout.title name)
    | none =>
      let new ← ExceptT.adapt AssignError.store
        (replace layout.schema old (layout.revised given old))
      return some new

def deleteRecord (layout : Layout) (key : Cell) : Work Record StoreError Bool := do
  Work.ask fun table => table.attempt .select
  match ← Work.ofExcept (Layout.key? key) with
  | some key => delete layout.schema key
  | none => return false

end Roster.Repository
