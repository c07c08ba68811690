import Roster.Text.Query
import Roster.Json.Value

/-!
# Requests and answers

A request as it comes over the wire, and an answer before it is written. The names of headers are
in lower case.
-/

namespace Roster.Web

structure Request where
  method : String
  target : String
  headers : List (String × String) := []
  body : Bytes := []

namespace Request

def header? (request : Request) (name : String) : Option String :=
  request.headers.lookup name

def path (request : Request) : String :=
  match cutFirst? '?' request.target.toList with
  | some (path, _) => percentDecode path
  | none => percentDecode request.target.toList

def query (request : Request) : String :=
  match cutFirst? '?' request.target.toList with
  | some (_, query) => String.ofList query
  | none => ""

/-- The parameters of the query. Bytes that are not percent-encoded stand for one character
each. -/
def parameters (request : Request) : List (String × String) :=
  Query.decode (String.ofList ((utf8 request.query).map fun byte => Char.ofNat byte.toNat))

end Request

inductive Content where
  | json (value : Json)
  | text (value : String)

structure Answer where
  status : Nat
  headers : List (String × String) := []
  content : Content

namespace Answer

def ofJson (status : Nat) (value : Json) : Answer where
  status
  headers := [("content-type", "application/json")]
  content := .json value

def ofText (status : Nat) (value : String) : Answer where
  status
  headers := [("content-type", "text/plain; charset=utf-8")]
  content := .text value

def detail (status : Nat) (text : String) : Answer :=
  ofJson status (.object [("detail", .text text)])

def header? (answer : Answer) (name : String) : Option String :=
  answer.headers.lookup name

/-- Sets a header, which takes the place of others with its name. -/
def withHeader (name value : String) (answer : Answer) : Answer :=
  { answer with headers := answer.headers.filter (·.1 ≠ name) ++ [(name, value)] }

end Answer

end Roster.Web
