import Roster.Table.Basic
import Roster.Token.Check
import Roster.Password

/-!
# Failures of the service

A call fails in one of two ways. A refusal is the service's own answer: it has a message and a
code. A crash is a fault that the service does not turn into an answer of its own.
-/

namespace Roster

inductive Subject where
  | user
  | campaign
  deriving DecidableEq

def Subject.word : Subject → String
  | .user => "user"
  | .campaign => "example"

def Subject.title : Subject → String
  | .user => "User"
  | .campaign => "Example"

inductive Task where
  | create
  | find
  | update
  | delete
  | list
  deriving DecidableEq

def Task.describe (task : Task) (subject : Subject) : String :=
  match task with
  | .create => "failed to create " ++ subject.word
  | .find => "failed to find " ++ subject.word
  | .update => "failed to update " ++ subject.word
  | .delete => "failed to delete " ++ subject.word
  | .list => "failed to get " ++ subject.title

/-- The two names that a user can log in with. -/
inductive LoginColumn where
  | username
  | email
  deriving DecidableEq

def LoginColumn.name : LoginColumn → String
  | .username => "username"
  | .email => "email"

/-- Why a request counts as made by nobody. -/
inductive Unauthenticated where
  | noToken
  | rejected (message : LooseText)
  | unknownUser
  deriving DecidableEq

def Unauthenticated.message : Unauthenticated → LooseText
  | .noToken => "Invalid token"
  | .rejected message => message
  | .unknownUser => "user not found"

inductive Refusal where
  | badQuery (error : Listing.Error)
  | badIdentifier (subject : Subject)
  | unauthenticated (reason : Unauthenticated)
  | taken (column : LoginColumn)
  | wrongPassword
  | unknownLogin
  | missing (subject : Subject)
  | yearTaken
  | storage (task : Task) (subject : Subject)
  deriving DecidableEq

namespace Refusal

def message : Refusal → LooseText
  | .badQuery error => error.message
  | .badIdentifier subject => LooseText.ofString ("invalid " ++ subject.word ++ " id, must be uuid")
  | .unauthenticated reason => reason.message
  | .taken column => LooseText.ofString (column.name ++ " already exists")
  | .wrongPassword => "username/password unmatched"
  | .unknownLogin => "username/email not found"
  | .missing subject => LooseText.ofString (subject.word ++ " not found")
  | .yearTaken => "example already exists"
  | .storage task subject => task.describe subject

def code : Refusal → Nat
  | .badQuery _ | .badIdentifier _ => 400
  | .unauthenticated _ => 401
  | .taken _ | .wrongPassword => 403
  | .unknownLogin | .missing _ => 404
  | .yearTaken => 409
  | .storage .. => 500

def isStorage : Refusal → Bool
  | .storage .. => true
  | _ => false

end Refusal

inductive Crash where
  | store (error : StoreError)
  | hashing (error : Password.HashError)
  /-- A stored hash cannot be compared with a password. -/
  | storedHash (error : Password.VerifyError)
  | issuing (error : IssueError)
  | checking (error : CheckError)
  | listing (error : Listing.Error)
  | answering (fault : Unencodable)
  deriving DecidableEq

def Crash.message : Crash → LooseText
  | .store error => error.message
  | .hashing error => error.message
  | .storedHash error => error.message
  | .issuing error => error.message
  | .checking error => error.message
  | .listing error => error.message
  | .answering fault => fault.message

inductive Failure where
  | refused (refusal : Refusal)
  | crashed (crash : Crash)
  deriving DecidableEq

def Failure.ofStore (task : Task) (subject : Subject) : StoreError → Failure
  | .invalid name => .refused (.badQuery (.invalid name))
  | .unordered | .database => .refused (.storage task subject)
  | .outOfRange => .crashed (.store .outOfRange)
  | .unencodable fault => .crashed (.store (.unencodable fault))

end Roster
