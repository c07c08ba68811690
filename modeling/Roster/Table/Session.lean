import Roster.Table.Basic

/-!
# Sessions

A table is worked on in a session. A statement that writes changes the rows that the session sees,
and nothing else; what is stored changes when the session commits. A database error rolls the
session back, and whatever is not committed when the session is closed is lost. So work has an
outcome and leaves a table behind, also when it fails.
-/

namespace Roster

structure Session (ρ : Type) where
  /-- The table as it is stored. -/
  stored : Table ρ
  /-- The rows as the session sees them. -/
  rows : List ρ

namespace Session

variable {ρ : Type}

def opened (table : Table ρ) : Session ρ where
  stored := table
  rows := table.rows

/-- The table that the statements of the session meet. -/
def table (session : Session ρ) : Table ρ :=
  { session.stored with rows := session.rows }

def committed (session : Session ρ) : Session ρ :=
  { session with stored := session.table }

def rolledBack (session : Session ρ) : Session ρ :=
  { session with rows := session.stored.rows }

end Session

abbrev Work (ρ ε α : Type) := ExceptT ε (StateM (Session ρ)) α

namespace Work

variable {ρ ε α : Type}

def after (work : Work ρ ε α) (session : Session ρ) : Except ε α × Session ρ :=
  (ExceptT.run work).run session

/-- What comes of the work in a session of its own, and the table when that session is closed. -/
def onTable (work : Work ρ ε α) (table : Table ρ) : Except ε α × Table ρ :=
  let (outcome, session) := work.after (.opened table)
  (outcome, session.stored)

def ofExcept (outcome : Except ε α) : Work ρ ε α :=
  match outcome with
  | .ok value => return value
  | .error error => throw error

/-- A statement that reads. -/
def ask (question : Table ρ → Except ε α) : Work ρ ε α := do
  ofExcept (question (← get).table)

/-- A statement that writes. -/
def write (statement : Table ρ → Except ε (List ρ)) : Work ρ ε Unit := do
  let rows ← ofExcept (statement (← get).table)
  modify ({ · with rows })

/-- Commits when the work is done. A database error rolls it back. -/
def committing (work : Work ρ StoreError α) : Work ρ StoreError α :=
  tryCatch (do
    let value ← work
    modify Session.committed
    return value)
    fun error => do
      if error = .database then modify Session.rolledBack
      throw error

/-- A row that was written is read once more. -/
def refresh : Work ρ StoreError Unit :=
  ask fun table => table.attempt .select

end Work

end Roster
