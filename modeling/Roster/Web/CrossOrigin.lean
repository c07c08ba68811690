import Roster.Web.Message

/-!
# Requests from other origins

Pages of every origin may send requests, with credentials. A browser asks first, in a preflight
request, whether a method may be used; other requests only have their origin confirmed.
-/

namespace Roster.Web.CrossOrigin

def methods : List String :=
  ["DELETE", "GET", "HEAD", "OPTIONS", "PATCH", "POST", "PUT", "QUERY"]

/-- The method that a preflight request asks for, and the origin that asks. -/
def preflight? (request : Request) : Option (String × String) :=
  if request.method = "OPTIONS" then
    match request.header? "origin", request.header? "access-control-request-method" with
    | some origin, some method => some (origin, method)
    | _, _ => none
  else none

def refusals (request : Request) (method : String) : List String :=
  (if methods.contains method then [] else ["method"]) ++
    if (request.header? "access-control-request-private-network").isSome then ["private-network"]
    else []

def preflight (request : Request) (origin method : String) : Answer :=
  let refused := refusals request method
  let answer :=
    if refused.isEmpty then Answer.ofText 200 "OK"
    else Answer.ofText 400 ("Disallowed CORS " ++ String.intercalate ", " refused)
  let allowedHeaders :=
    match request.header? "access-control-request-headers" with
    | some names => [("access-control-allow-headers", names)]
    | none => []
  { answer with
    headers := answer.headers ++ [
      ("vary", "Origin, Access-Control-Request-Method, Access-Control-Request-Headers, " ++
        "Access-Control-Request-Private-Network"),
      ("access-control-allow-origin", origin),
      ("access-control-allow-methods", String.intercalate ", " methods),
      ("access-control-max-age", "600"),
      ("access-control-allow-credentials", "true")] ++ allowedHeaders }

def confirm (request : Request) (answer : Answer) : Answer :=
  let origin :=
    match request.header? "origin" with
    | some origin =>
      [("access-control-allow-origin", origin), ("access-control-allow-credentials", "true")]
    | none => []
  { answer with headers := answer.headers ++ [("vary", "Origin")] ++ origin }

end Roster.Web.CrossOrigin
