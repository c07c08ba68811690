import Roster.Payload.Credentials
import Roster.Payload.CampaignDraft

/-!
# Forms of requests and answers

The remaining forms are checked without a type of their own: the outcome is an object that holds
every field of the form, given or default.
-/

namespace Roster.Payload

/-- A field of a form; without a default it is required. -/
structure FormField where
  name : String
  default : Option Json
  check : Json → Checked Json

def FormField.ofFields (field : FormField) (fields : Json.Fields) : Checked Json :=
  match field.default with
  | none => required fields field.name field.check
  | some default => withDefault fields field.name default field.check

/-- Checks all fields in order and collects their problems. -/
def checkFields (form : List FormField) (fields : Json.Fields) :
    Checked (Json.Fields) :=
  match form with
  | [] => .ok []
  | field :: rest =>
    ((field.ofFields fields).and (checkFields rest fields)).map fun (value, others) =>
      (field.name, value) :: others

def checkForm (name : String) (form : List FormField) : Json → Checked Json
  | .object fields => (checkFields form fields).map .object
  | _ => .fail (.notForm name)

/-- Checks the items of a list; problems are below the index of the item. -/
def checkItems (check : Json → Checked Json) (index : Nat) : List Json → Checked (List Json)
  | [] => .ok []
  | item :: rest =>
    ((Checked.under (toString index) (check item)).and (checkItems check (index + 1) rest)).map
      fun (value, others) => value :: others

def checkList (check : Json → Checked Json) : Json → Checked Json
  | .list items => (checkItems check 0 items).map .list
  | _ => .fail .notList

def textValue (value : Json) : Checked Json :=
  (checkText value).map .text

def integerValue (value : Json) : Checked Json :=
  (checkInteger value).map .int

def anyValue (value : Json) : Checked Json :=
  .ok value

def orNull (check : Json → Checked Json) : Json → Checked Json
  | .null => .ok .null
  | value => check value

def text (name : String) : FormField := ⟨name, none, textValue⟩

def textOr (default name : String) : FormField := ⟨name, some (.text default), textValue⟩

def integer (name : String) : FormField := ⟨name, none, integerValue⟩

def integerOr (default : Int) (name : String) : FormField :=
  ⟨name, some (.int default), integerValue⟩

/-! ## The forms -/

def window : Json → Checked Json :=
  checkForm "PaginationParam" [integerOr 1 "page", integerOr (-1) "page_size"]

def sortKey : Json → Checked Json :=
  checkForm "OrderParam" [textOr "" "order_by", textOr "" "order"]

def filter : Json → Checked Json :=
  checkForm "FilterParam" [text "field", text "value", text "operator"]

def listRequest : Json → Checked Json :=
  checkForm "ListReq" [
    ⟨"page", some (.object [("page", .int 1), ("page_size", .int (-1))]), window⟩,
    ⟨"order", some (.object [("order_by", .text ""), ("order", .text "")]), sortKey⟩,
    ⟨"filter", some (.list []), checkList filter⟩]

def pageCounts : List FormField :=
  [integer "page", integer "page_size", integer "total_page", integer "total_data_per_page",
    integer "total_data"]

def rows : FormField := ⟨"data", some (.list []), checkList anyValue⟩

def page : Json → Checked Json :=
  checkForm "PaginationData" (pageCounts ++ [rows])

def pagination : Json → Checked Json :=
  checkForm "Pagination" pageCounts

def userView : Json → Checked Json :=
  checkForm "UserOut" [text "id", text "username", text "email"]

def loginAnswer : Json → Checked Json :=
  checkForm "UserLoginResponse" [text "username", text "token"]

def tokenHolderName : String := "JwtAuthenticationRes"

def tokenHolder : Json → Checked Json :=
  checkForm tokenHolderName [text "username", text "token"]

def eventForm : Json → Checked Json :=
  checkForm "ExampleMessage" [text "id", text "name", integer "year",
    textOr "created" "event"]

def campaignView : Json → Checked Json :=
  checkForm "ExampleOut" [text "id", text "name", integer "year",
    ⟨"description", some .null, orNull textValue⟩]

def envelope : List FormField :=
  [integerOr 200 "response_code", textOr "success" "response_message"]

def dataAnswer : Json → Checked Json :=
  checkForm "DataResponse" (envelope ++ [⟨"data", some .null, anyValue⟩])

def listAnswer : Json → Checked Json :=
  checkForm "PaginationResponse" (envelope ++
    [⟨"pagination", some .null, orNull pagination⟩, rows])

def successAnswer : Json → Checked Json :=
  checkForm "SuccessResponse" envelope

def errorAnswer : Json → Checked Json :=
  checkForm "ErrorResponse" [integer "response_code", ⟨"response_message", none, anyValue⟩,
    ⟨"error", some .null, anyValue⟩]

end Roster.Payload
