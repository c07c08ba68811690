import Roster.Web.Body
import Roster.Service.Failure

/-!
# Reports of what went wrong

Every request that is not answered as asked is answered with a report: a status, a message, and
details where there are any. A crash is reported in general terms; its cause is named only while
debugging.
-/

namespace Roster.Web

inductive Halt where
  | body (fault : BodyFault)
  | invalid (problems : List Payload.Problem)
  | failure (failure : Failure)
  deriving DecidableEq

def report (status : Nat) (message : LooseText) (details : Json) : Answer :=
  .ofJson status (.object [
    ("response_code", .int status), ("response_message", .text message), ("error", details)])

def problemPlace (problem : Payload.Problem) : String :=
  if problem.path.isEmpty then "body" else String.intercalate "." problem.path

def halted : String :=
  "Request is halted unexpectedly, please contact the administrator."

namespace Halt

def invalidBody (details : Json.Fields) : Answer :=
  report 400 "invalid request body" (.object details)

def answer (debug : Bool) : Halt → Answer
  | .body (.malformed offset) =>
    invalidBody [(String.ofList (natText offset), .text "JSON decode error")]
  | .body .unreadable => .detail 400 "There was an error parsing the body"
  | .invalid problems =>
    invalidBody (problems.map fun problem =>
      (problemPlace problem, .text problem.cause.message))
  | .failure (.refused refusal) =>
    report refusal.code refusal.message
      (if debug && refusal.isStorage then .text StoreError.database.message else .null)
  | .failure (.crashed crash) =>
    report 500 halted (if debug then .text crash.message else .null)

def isCrash : Halt → Bool
  | .failure (.crashed _) => true
  | _ => false

end Halt

end Roster.Web
