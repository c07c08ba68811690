import Roster.Payload.Scalar
import Roster.Json.Reader
import Roster.Json.Writer

/-!
# Events

An event announces a campaign. It is written as compact JSON with the fields in a fixed order and
read back under the strict rules.
-/

namespace Roster

structure Event where
  id : String
  name : String
  year : Int
  event : String := "created"
  deriving DecidableEq

namespace Event

open Payload

def toJson (event : Event) : Json :=
  .object [("id", .text event.id), ("name", .text event.name), ("year", .int event.year),
    ("event", .text event.event)]

def document (event : Event) : String :=
  String.ofList (Json.write Json.plainStyle event.toJson).replaced

def logText (event : Event) : String :=
  String.ofList (Json.write Json.logStyle event.toJson).replaced

def ofFields (fields : Json.Fields) : Checked Event := do
  let (id, name, year, event) ←
    (required fields "id" checkString).and
      ((required fields "name" checkString).and
        ((required fields "year" checkInteger).and
          (withDefault fields "event" "created" checkString)))
  return { id, name, year, event }

def ofJson : Json → Checked Event
  | .object fields => ofFields fields
  | _ => .fail (.notForm "ExampleMessage")

def ofBytes (bytes : Option Bytes) : Checked Event :=
  match bytes with
  | none => .fail .noDocument
  | some bytes =>
    match (readUtf8? bytes).bind fun text => Json.readStrict? text with
    | some (.object fields) => ofFields fields
    | some _ => .fail .notObject
    | none => .fail .malformedDocument

end Event

end Roster
