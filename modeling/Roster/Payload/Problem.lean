/-!
# Problems of a payload

A payload that does not fit its form has a list of problems, in the order of the form's fields.
Each has the path to the value and a cause.
-/

namespace Roster.Payload

inductive Cause where
  | missing
  | notText
  /-- A text with an unpaired surrogate. -/
  | brokenText
  | notInteger
  | unreadableInteger
  | integerTooLong
  | fractionalNumber
  | infiniteNumber
  | notList
  /-- The value of a form, given by name, is no object. -/
  | notForm (form : String)
  | notFields
  | notObject
  | noDocument
  | malformedDocument
  | passwordRequired
  | passwordTooShort
  | passwordTooWeak
  | malformedEmail
  | noLoginName
  deriving DecidableEq

namespace Cause

def code : Cause → String
  | .missing => "missing"
  | .notText => "string_type"
  | .brokenText => "string_unicode"
  | .notInteger => "int_type"
  | .unreadableInteger => "int_parsing"
  | .integerTooLong => "int_parsing_size"
  | .fractionalNumber => "int_from_float"
  | .infiniteNumber => "finite_number"
  | .notList => "list_type"
  | .notForm _ => "model_type"
  | .notFields => "model_attributes_type"
  | .notObject => "model_type"
  | .noDocument => "json_type"
  | .malformedDocument => "json_invalid"
  | .passwordRequired | .passwordTooShort | .passwordTooWeak | .malformedEmail | .noLoginName =>
    "value_error"

def message : Cause → String
  | .missing => "Field required"
  | .notText => "Input should be a valid string"
  | .brokenText =>
    "Input should be a valid string, unable to parse raw data as a unicode string"
  | .notInteger => "Input should be a valid integer"
  | .unreadableInteger =>
    "Input should be a valid integer, unable to parse string as an integer"
  | .integerTooLong => "Unable to parse input string as an integer, exceeded maximum size"
  | .fractionalNumber => "Input should be a valid integer, got a number with a fractional part"
  | .infiniteNumber => "Input should be a finite number"
  | .notList => "Input should be a valid list"
  | .notForm form => "Input should be a valid dictionary or instance of " ++ form
  | .notFields => "Input should be a valid dictionary or object to extract fields from"
  | .notObject => "Input should be an object"
  | .noDocument => "JSON input should be string, bytes or bytearray"
  | .malformedDocument => "Invalid JSON"
  | .passwordRequired => "password is required"
  | .passwordTooShort => "password must be greater than or equal to 8"
  | .passwordTooWeak =>
    "password is not a valid password, at least 8 characters, 1 uppercase, 1 number, " ++
      "and 1 special character"
  | .malformedEmail => "email is not a valid email"
  | .noLoginName => "either email or username must be filled"

def explanations : String := "https://errors.pydantic.dev/2.14/v/"

/-- The whole report of a single problem: of the form and the field, and of the value by what is
shown of it and the word for its kind. -/
def report (cause : Cause) (form field shown kind : String) : String :=
  "1 validation error for " ++ form ++ "\n" ++ field ++ "\n  " ++ cause.message ++ " [type=" ++
    cause.code ++ ", input_value=" ++ shown ++ ", input_type=" ++ kind ++
    "]\n    For further information visit " ++ explanations ++ cause.code

end Cause

structure Problem where
  path : List String
  cause : Cause
  deriving DecidableEq

abbrev Checked (α : Type) := Except (List Problem) α

def Checked.fail {α : Type} (cause : Cause) : Checked α :=
  .error [⟨[], cause⟩]

def Checked.under {α : Type} (name : String) (outcome : Checked α) : Checked α :=
  outcome.mapError fun problems =>
    problems.map fun problem => { problem with path := name :: problem.path }

/-- Both outcomes; the problems of both when either fails. -/
def Checked.and {α β : Type} (first : Checked α) (second : Checked β) : Checked (α × β) :=
  match first, second with
  | .ok a, .ok b => .ok (a, b)
  | .ok _, .error problems => .error problems
  | .error problems, .ok _ => .error problems
  | .error problems, .error more => .error (problems ++ more)

end Roster.Payload
