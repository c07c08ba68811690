import Roster.Payload.Scalar

/-!
# Credentials

The payload of registration, login and changes of a user. The password has at least eight
characters, among them a capital letter, a digit and a symbol, all of ASCII. The email, if not
empty, looks like an address. One of username and email is not empty.
-/

namespace Roster

structure Credentials where
  username : LooseText
  email : LooseText
  password : LooseText
  deriving DecidableEq

namespace Credentials

open Payload

def minPasswordLength : Nat := 8

/-- A code point that is no ASCII letter or digit. -/
def isSymbol (point : CodePoint) : Bool :=
  !point.char?.any Char.isAlphanum

def checkPassword (password : LooseText) : Checked LooseText :=
  if password.isEmpty then .fail .passwordRequired
  else if password.length < minPasswordLength then .fail .passwordTooShort
  else if password.any (·.char?.any Char.isUpper) && password.any (·.char?.any Char.isDigit) &&
      password.any isSymbol then
    .ok password
  else .fail .passwordTooWeak

def hasInnerPoint (domain : LooseText) : Bool :=
  match domain with
  | [] => false
  | _ :: rest => rest.dropLast.contains (.char '.')

/-- One `@` with something before it and a point inside what follows, and no blanks. -/
def looksLikeAddress (text : LooseText) : Bool :=
  !text.any (·.char?.any isBlank) &&
    match cutFirst? (.char '@') text with
    | some (name, domain) =>
      !name.isEmpty && !domain.contains (.char '@') && hasInnerPoint domain
    | none => false

def dropLineFeed (text : LooseText) : LooseText :=
  if text.getLast? = some (.char '\n') then text.dropLast else text

/-- A line feed at the end of an address is tolerated. -/
def checkEmail (email : LooseText) : Checked LooseText :=
  if email.isEmpty || looksLikeAddress (dropLineFeed email) then .ok email
  else .fail .malformedEmail

def ofFields (fields : Json.Fields) : Checked Credentials := do
  let username := withDefault fields "username" [] checkText
  let email := withDefault fields "email" [] fun value => checkText value >>= checkEmail
  let password :=
    match Json.lastField? "password" fields with
    | some value => Checked.under "password" (checkText value >>= checkPassword)
    | none => Checked.under "password" (checkPassword [])
  let (username, email, password) ← username.and (email.and password)
  if username.isEmpty && email.isEmpty then .fail .noLoginName
  else .ok { username, email, password }

def ofJson : Json → Checked Credentials
  | .object fields => ofFields fields
  | _ => .fail (.notForm "UserLogin")

end Credentials

end Roster
