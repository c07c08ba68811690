import Roster.Identifier
import Roster.Service.Failure
import Roster.User.Record
import Roster.Campaign.Record
import Roster.Event.Producer
import Roster.Table.Engine
import Roster.Table.Repository

/-!
# The state of the service

The service keeps two tables, counts the identifiers and salts that it has used, and collects what
it tells the broker. A call that fails leaves the state that it has reached. Every call has one
session on a table, in which at most one of its steps writes.
-/

namespace Roster

structure State where
  users : Table User := {}
  campaigns : Table Campaign := {}
  identifiers : Nat := 0
  salts : Nat := 0
  outbox : List ProducerCall := []

structure Service where
  signer : Signer
  engine : Engine := .standard
  /-- The salts, which nobody can guess. -/
  salt : Nat → Bytes
  topic : Option String := none

structure Shelf (ρ : Type) where
  table : State → Table ρ
  place : Table ρ → State → State
  subject : Subject
  place_table : ∀ state, place (table state) state = state

namespace Shelf

def users : Shelf User where
  table := State.users
  place := fun users state => { state with users }
  subject := .user
  place_table _ := rfl

def campaigns : Shelf Campaign where
  table := State.campaigns
  place := fun campaigns state => { state with campaigns }
  subject := .campaign
  place_table _ := rfl

@[simp] theorem users_table (state : State) : users.table state = state.users := rfl

@[simp] theorem campaigns_table (state : State) : campaigns.table state = state.campaigns := rfl

@[simp] theorem users_place (table : Table User) (state : State) :
    users.place table state = { state with users := table } := rfl

@[simp] theorem campaigns_place (table : Table Campaign) (state : State) :
    campaigns.place table state = { state with campaigns := table } := rfl

end Shelf

abbrev Call (α : Type) := ExceptT Failure (StateM State) α

namespace Call

variable {α ρ : Type}

def refuse (refusal : Refusal) : Call α :=
  throw (.refused refusal)

def crash (crash : Crash) : Call α :=
  throw (.crashed crash)

def after (call : Call α) (state : State) : Except Failure α × State :=
  (ExceptT.run call).run state

/-- Works on a table in a session. -/
def edit (shelf : Shelf ρ) (task : Task) (work : Work ρ StoreError α) : Call α := do
  let (outcome, table) := work.onTable (shelf.table (← get))
  modify (shelf.place table)
  match outcome with
  | .ok value => return value
  | .error error => throw (Failure.ofStore task shelf.subject error)

def ask (shelf : Shelf ρ) (task : Task) (question : Table ρ → Except StoreError α) :
    Call α := do
  match question (shelf.table (← get)) with
  | .ok value => return value
  | .error error => throw (Failure.ofStore task shelf.subject error)

/-- Gives out an identifier. It is used up whatever becomes of the row. -/
def freshIdentifier : Call String := do
  let count := (← get).identifiers + 1
  modify ({ · with identifiers := count })
  return Identifier.generated count

def encode (text : LooseText) : Call String :=
  match text.encode with
  | .ok plain => pure plain
  | .error fault => crash (.store (.unencodable fault))

def checkIdentifier (subject : Subject) (id : String) : Call Unit :=
  if Identifier.isSpelling id then pure () else refuse (.badIdentifier subject)

end Call

end Roster
