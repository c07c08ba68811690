import Roster.Token.Key
import Roster.Token.Moment
import Roster.Crypto
import Roster.Json.Writer
import Roster.Text.Base64

/-!
# Issuing tokens

A token has three parts joined by dots: a header that names the algorithm, a payload that names
the user, the issuer and the lifetime, and a signature over the two. Header and payload are compact
JSON, and every part is written in base64.
-/

namespace Roster

structure Signer where
  crypto : Crypto := .standard
  secret : String
  algorithm : String := "HS256"
  lifetimeHours : Int := 1
  issuer : String := "usercrud"

inductive IssueError where
  | asymmetric (name : String)
  | unknownAlgorithm
  | key (error : KeyError)
  /-- The lifetime in days is beyond what a span of time can hold. -/
  | lifetimeTooLong (days : Int)
  | lifetimeTooLarge
  /-- The expiry is beyond the calendar. -/
  | beyondCalendar
  deriving DecidableEq

def IssueError.message : IssueError → String
  | .asymmetric name =>
    "Algorithm '" ++ name ++ "' could not be found. Do you have cryptography installed?"
  | .unknownAlgorithm => "Algorithm not supported"
  | .key error => error.message
  | .lifetimeTooLong days => "days=" ++ toString days ++ "; must have magnitude <= 999999999"
  | .lifetimeTooLarge => "Python int too large to convert to C int"
  | .beyondCalendar => "date value out of range"

namespace Signer

/-- The first moment of the calendar. -/
def firstMoment : Moment := .ofSeconds (-62135596800)

/-- The first moment that is beyond the calendar. -/
def endOfCalendar : Moment := .ofSeconds 253402300800

/-- The moment from which on a token that is issued now counts as expired. -/
def deadline (signer : Signer) (now : Moment) : Moment :=
  now.later signer.lifetimeHours

def expiry (signer : Signer) (now : Moment) : Except IssueError Moment :=
  let days := signer.lifetimeHours / 24
  let deadline := signer.deadline now
  if days < -2147483648 ∨ 2147483648 ≤ days then .error .lifetimeTooLarge
  else if days < -999999999 ∨ 999999999 < days then .error (.lifetimeTooLong days)
  else if deadline.micros < firstMoment.micros ∨ endOfCalendar.micros ≤ deadline.micros then
    .error .beyondCalendar
  else .ok deadline

def header (signer : Signer) : Json :=
  .object [("alg", .text signer.algorithm), ("typ", .text "JWT")]

def payload (signer : Signer) (username : String) (issued expires : Int) : Json :=
  .object [("username", .text username), ("iss", .text signer.issuer), ("iat", .int issued),
    ("exp", .int expires)]

def part (document : Json) : List Char :=
  Base64.encode Base64.urlSafe
    (utf8 (String.ofList (Json.write Json.tokenStyle document).replaced))

def signature (signer : Signer) (signed : List Char) : Except IssueError Bytes :=
  match Algorithm.ofName signer.algorithm with
  | .mac variant =>
    match macKey signer.secret with
    | .ok key => .ok (signer.crypto.mac variant key (utf8 (String.ofList signed)))
    | .error error => .error (.key error)
  | .none => if signer.secret.isEmpty then .ok [] else .error (.key .notNone)
  | .asymmetric name => .error (.asymmetric name)
  | .unknown => .error .unknownAlgorithm

def issue (signer : Signer) (username : String) (now : Moment) : Except IssueError String := do
  let expires ← signer.expiry now
  let signed :=
    part signer.header ++ '.' :: part (signer.payload username now.written expires.written)
  let signature ← signer.signature signed
  return String.ofList (signed ++ '.' :: Base64.encode Base64.urlSafe signature)

end Signer

end Roster
