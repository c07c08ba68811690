import Roster.Service.State
import Roster.Payload.Credentials
import Roster.Table.Page

/-!
# The registry of users

Users are registered, log in, and are changed, deleted, looked up and listed. No two users may have
the same username, nor the same email, whatever the case; an empty name is nobody's. The table
knows nothing of this rule, so every call that writes names looks for them first.
-/

namespace Roster

structure LoginAnswer where
  username : String
  token : String
  deriving DecidableEq

namespace LoginColumn

def ofCredentials (column : LoginColumn) (credentials : Credentials) : LooseText :=
  match column with
  | .username => credentials.username
  | .email => credentials.email

def cell (column : LoginColumn) (user : User) : Cell :=
  match column with
  | .username => .text user.username
  | .email => .text user.email

end LoginColumn

namespace Users

/-- The first user who has a name that is not empty. -/
def named? (column : LoginColumn) (name : LooseText) (users : Table User) :
    Except StoreError (Option User) :=
  if name.isEmpty then .ok none else users.findName? column.cell name

def isTaken (column : LoginColumn) (name : LooseText) (own : Option String) (users : Table User) :
    Except StoreError Bool := do
  match ← named? column name users with
  | some user => return some user.id ≠ own
  | none => return false

def takenColumn? (credentials : Credentials) (own : Option String) (users : Table User) :
    Except StoreError (Option LoginColumn) := do
  if ← isTaken .username credentials.username own users then return some .username
  if ← isTaken .email credentials.email own users then return some .email
  return none

def refuseTaken (task : Task) (credentials : Credentials) (own : Option String) : Call Unit := do
  match ← Call.ask .users task (takenColumn? credentials own) with
  | some column => Call.refuse (.taken column)
  | none => return ()

def hashPassword (service : Service) (password : LooseText) : Call String := do
  let count := (← get).salts
  modify ({ · with salts := count + 1 })
  match Password.hash service.signer.crypto (service.salt count) password with
  | .ok hash => return hash
  | .error error => Call.crash (.hashing error)

def create (service : Service) (credentials : Credentials) : Call UserView := do
  refuseTaken .create credentials none
  let id ← Call.freshIdentifier
  let password ← hashPassword service credentials.password
  let user : User := {
    id
    username := ← Call.encode credentials.username
    email := ← Call.encode credentials.email
    password }
  let stored ←
    Call.edit .users .create (Repository.put User.schema (Draft.ofRow User.schema user))
  return stored.view

/-- The user that credentials name: by username first, then by email. -/
def named (credentials : Credentials) (users : Table User) : Except StoreError (Option User) := do
  match ← named? .username credentials.username users with
  | some user => return some user
  | none => named? .email credentials.email users

def login (service : Service) (now : Moment) (credentials : Credentials) : Call LoginAnswer := do
  match ← Call.ask .users .find (named credentials) with
  | none => Call.refuse .unknownLogin
  | some user =>
    match Password.verify service.signer.crypto credentials.password user.password with
    | .error error => Call.crash (.storedHash error)
    | .ok false => Call.refuse .wrongPassword
    | .ok true =>
      match service.signer.issue user.loginName now with
      | .ok token => return { username := user.loginName, token }
      | .error error => Call.crash (.issuing error)

def update (service : Service) (id : String) (credentials : Credentials) : Call UserView := do
  Call.checkIdentifier .user id
  match ← Call.ask .users .update (Table.find? User.schema id) with
  | none => Call.refuse (.missing .user)
  | some old =>
    refuseTaken .update credentials (some id)
    let password ← hashPassword service credentials.password
    let user : User := {
      old with
      username := ← Call.encode credentials.username
      email := ← Call.encode credentials.email
      password }
    let stored ←
      Call.edit .users .update (Repository.replace User.schema old (User.schema.revised old user))
    return stored.view

/-- Deletes a user. It is no failure when there is none. -/
def delete (id : String) : Call Unit := do
  Call.checkIdentifier .user id
  let _ ← Call.edit .users .delete (Repository.delete User.schema id)

def list (service : Service) (request : Listing.Request) : Call (Page UserView) := do
  let page ← Call.ask .users .list (Table.page service.engine User.schema request)
  return page.map User.view

def findOne (id : String) : Call UserView := do
  Call.checkIdentifier .user id
  match ← Call.ask .users .find (Table.find? User.schema id) with
  | some user => return user.view
  | none => Call.refuse (.missing .user)

end Users

end Roster
