import Roster.Web.Message
import Roster.Json.Reader
import Roster.Text.Encoding
import Roster.Text.Blank
import Roster.Payload.Problem

/-!
# Bodies of requests

A body is read as JSON when its content type says so, and otherwise left as it is. A document that
breaks off or is malformed is reported with an offset; other faults of a body only as such.
-/

namespace Roster.Web

inductive BodyFault where
  | malformed (offset : Nat)
  | unreadable
  deriving DecidableEq

inductive Body where
  | missing
  | document (value : Json)
  | raw

/-- Does a content type announce JSON? Its parameters do not matter. -/
def announcesJson (contentType : String) : Bool :=
  let essence := (trim (contentType.toList.takeWhile (· ≠ ';'))).map Char.toLower
  match pieces '/' essence with
  | [kind, subtype] =>
    kind = "application".toList &&
      (subtype = "json".toList || "+json".toList.isSuffixOf subtype)
  | _ => false

namespace Body

def read (request : Request) : Except BodyFault Body :=
  if request.body.isEmpty then .ok .missing
  else if announcesJson ((request.header? "content-type").getD "") then
    match decodeDocument? request.body with
    | none => .error .unreadable
    | some text =>
      match Json.read text with
      | .ok value => .ok (.document value)
      | .error (.malformed _ offset) => .error (.malformed offset)
      | .error _ => .error .unreadable
  else .ok .raw

def form {α : Type} (check : Json.Fields → Payload.Checked α) :
    Body → Payload.Checked α
  | .missing => .fail .missing
  | .document (.object fields) => check fields
  | .document _ | .raw => .fail .notFields

end Body

end Roster.Web
