import Roster.Crypto
import Roster.Text.Base64
import Roster.Number.Reading

/-!
# Password hashes

A stored hash is a text with four fields behind dollar signs: the scheme, the count of rounds, the
salt and the checksum, the last two in base64 with a point for the plus sign. A text that is no
such hash matches no password.
-/

namespace Roster.Password

def maxLength : Nat := 4096

inductive HashError where
  | tooLong
  | unencodable (fault : Unencodable)
  deriving DecidableEq

def HashError.message : HashError → String
  | .tooLong => "password exceeds maximum allowed size"
  | .unencodable fault => fault.message

def scheme : String := "$pbkdf2-sha256$"

def defaultRounds : Nat := 29000

def checksumSize : Nat := 32

def maxSaltSize : Nat := 1024

def maxRounds : Int := 4294967295

/-- A password can be stretched so many times at most; a stored text may ask for more. -/
def maxStretch : Nat := 2147483647

structure Stored where
  rounds : Nat
  salt : Bytes
  checksum : Bytes

def Stored.write (stored : Stored) : String :=
  String.ofList (scheme.toList ++ natText stored.rounds ++
    '$' :: Base64.encode Base64.dotted stored.salt ++
    '$' :: Base64.encode Base64.dotted stored.checksum)

def hash (crypto : Crypto) (salt : Bytes) (password : LooseText) : Except HashError String :=
  if maxLength < password.length then .error .tooLong
  else
    match password.encode with
    | .error fault => .error (.unencodable fault)
    | .ok plain =>
      let stored : Stored := {
        rounds := defaultRounds
        salt
        checksum := crypto.stretch (utf8 plain) salt defaultRounds }
      .ok stored.write

inductive ParseError where
  | malformed
  /-- The base64 of the salt or of the checksum breaks off. -/
  | encoding (error : Base64.DecodeError)
  deriving DecidableEq

def readField (text : List Char) : Except ParseError Bytes :=
  if text.any (fun c => 0x80 ≤ c.toNat) || text.length % 4 = 1 then .error .malformed
  else
    let padding := List.replicate ((4 - text.length % 4) % 4) '='
    let plain := text.map fun c => if c = '.' then '+' else c
    (Base64.decodeTolerant Base64.standard (plain ++ padding)).mapError .encoding

/-- Reads the count of rounds. It has no leading zeros. -/
def readRounds (text : List Char) : Except ParseError Int :=
  if text.head? = some '0' && text ≠ ['0'] then .error .malformed
  else (readInteger text).mapError fun _ => .malformed

/-- Reads the fields behind the scheme. A hash without checksum is refused. -/
def Stored.ofFields : List (List Char) → Except ParseError Stored
  | [rounds, salt, checksum] => do
    let rounds ← readRounds rounds
    let salt ← readField salt
    let checksum ← readField checksum
    if rounds < 1 ∨ maxRounds < rounds ∨ maxSaltSize < salt.length ∨
        checksum.length ≠ checksumSize then
      throw .malformed
    return { rounds := rounds.toNat, salt, checksum }
  | [rounds, salt] => do
    let _ ← readRounds rounds
    let _ ← readField salt
    throw .malformed
  | _ => .error .malformed

def Stored.parse (text : String) : Except ParseError Stored :=
  if !text.startsWith scheme then .error .malformed
  else ofFields (pieces '$' (text.toList.drop scheme.length))

inductive VerifyError where
  /-- The base64 of the salt or of the checksum breaks off. -/
  | encoding (error : Base64.DecodeError)
  | tooManyRounds
  deriving DecidableEq

def VerifyError.message : VerifyError → String
  | .encoding error => error.message
  | .tooManyRounds => "iteration value is too great."

/-- Does a password match a stored text? A text whose base64 breaks off is reported, and so is one
that asks for too many rounds; a password that cannot be encoded matches nothing. -/
def verify (crypto : Crypto) (password : LooseText) (stored : String) : Except VerifyError Bool :=
  if maxLength < password.length then .ok false
  else
    match Stored.parse stored, password.encode with
    | .ok hash, .ok plain =>
      if maxStretch < hash.rounds then .error .tooManyRounds
      else .ok (crypto.stretch (utf8 plain) hash.salt hash.rounds = hash.checksum)
    | .ok _, .error _ => .ok false
    | .error .malformed, _ => .ok false
    | .error (.encoding error), _ => .error (.encoding error)

end Roster.Password
