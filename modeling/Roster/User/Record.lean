import Roster.Table.Record

/-!
# Users

A user has two login names, at least one of which is meant to be set, and a password hash. What is
shown of a user leaves the hash out, and no query can name it.
-/

namespace Roster

structure User where
  id : String
  username : String
  email : String
  /-- The hash of the password. -/
  password : String
  deriving DecidableEq

structure UserView where
  id : String
  username : String
  email : String
  deriving DecidableEq

namespace User

def schema : Schema User where
  key := User.id
  columns := [
    ⟨"id", .text, fun user => .text user.id⟩,
    ⟨"username", .text, fun user => .text user.username⟩,
    ⟨"email", .text, fun user => .text user.email⟩,
    ⟨"password", .text, fun user => .text user.password⟩]
  queryable := some ["id", "username", "email"]

def layout : Layout :=
  schema.layout "User" "id" [("username", .text ""), ("email", .text "")]

def ofRecord? (record : Record) : Option User := do
  return {
    id := ← (record.cell "id").asText?
    username := ← (record.cell "username").asText?
    email := ← (record.cell "email").asText?
    password := ← (record.cell "password").asText? }

def view (user : User) : UserView where
  id := user.id
  username := user.username
  email := user.email

/-- The name that a user logs in with: the username, or without one the email. -/
def loginName (user : User) : String :=
  if user.username.isEmpty then user.email else user.username

end User

end Roster
