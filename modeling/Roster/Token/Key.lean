import Roster.Json.Reader
import Roster.Digest.Hmac

/-!
# Signing keys and algorithms

A secret for a keyed digest must not be empty and must not look like a public or private key of
another kind, nor like a JSON document of a key. Besides the keyed digests only the algorithm
`none` is known, which signs nothing and verifies nothing.
-/

namespace Roster

inductive KeyError where
  | empty
  | asymmetric
  | keyDocument
  | notNone
  deriving DecidableEq

def KeyError.message : KeyError → String
  | .empty => "HMAC key must not be empty."
  | .asymmetric =>
    "The specified key is an asymmetric key or x509 certificate and should not be used as an " ++
      "HMAC secret."
  | .keyDocument =>
    "The specified key looks like a JWK and should not be used directly as an HMAC secret. " ++
      "Load it via PyJWK / HMACAlgorithm.from_jwk first."
  | .notNone => "When alg = \"none\", key value must be None."

inductive Algorithm where
  | mac (variant : MacVariant)
  | none
  /-- An algorithm with key pairs; it is known by name only. -/
  | asymmetric (name : String)
  | unknown
  deriving DecidableEq

def Algorithm.asymmetricNames : List String :=
  ["RS256", "RS384", "RS512", "ES256", "ES256K", "ES384", "ES521", "ES512", "PS256", "PS384",
    "PS512", "EdDSA"]

def Algorithm.ofName (name : String) : Algorithm :=
  if name = "HS256" then .mac .hs256
  else if name = "HS384" then .mac .hs384
  else if name = "HS512" then .mac .hs512
  else if name = "none" then .none
  else if asymmetricNames.contains name then .asymmetric name
  else .unknown

namespace SecretShape

def sshFormats : List String :=
  ["ssh-ed25519", "ssh-rsa", "ssh-dss", "ecdsa-sha2-nistp256", "ecdsa-sha2-nistp384",
    "ecdsa-sha2-nistp521"]

def isSshKey (secret : List Char) : Bool :=
  sshFormats.any fun format => format.toList.isPrefixOf secret

def armourTitles : List String :=
  ["CERTIFICATE", "TRUSTED CERTIFICATE", "PRIVATE KEY", "PUBLIC KEY", "ENCRYPTED PRIVATE KEY",
    "OPENSSH PRIVATE KEY", "DSA PRIVATE KEY", "RSA PRIVATE KEY", "RSA PUBLIC KEY",
    "EC PRIVATE KEY", "DH PARAMETERS", "NEW CERTIFICATE REQUEST", "CERTIFICATE REQUEST",
    "SSH2 PUBLIC KEY", "SSH2 ENCRYPTED PRIVATE KEY", "X509 CRL"]

def after? (beginning : String) (text : List Char) : Option (List Char) :=
  if beginning.toList.isPrefixOf text then some (text.drop beginning.length) else none

/-- The fifth mark of an armour line: a hyphen or a space. -/
def mark? : List Char → Option (List Char)
  | '-' :: rest => some rest
  | ' ' :: rest => some rest
  | _ => none

def armourLine? (word title : String) (text : List Char) : Option (List Char) := do
  let opened ← after? "----" text
  let marked ← mark? opened
  let worded ← after? word marked
  let titled ← after? title worded
  let closed ← mark? titled
  after? "----" closed

def beginning : String := "BEGIN "
def ending : String := "END "

def beginningLength (title : String) : Nat :=
  5 + beginning.length + title.length + 5

/-- Is the title armoured in the text? A line that ends a block belongs to the last line before it
that begins one, and something has to stand between the two. `togo` is the number of characters,
from here, in front of the first place for the line that ends the block. -/
def armours (title : String) (togo : Option Nat) : List Char → Bool
  | [] => false
  | c :: rest =>
    if (armourLine? beginning title (c :: rest)).isSome then
      armours title (some (beginningLength title)) rest
    else
      (togo = some 0 && (armourLine? ending title (c :: rest)).isSome) ||
        armours title (togo.map (· - 1)) rest

def isArmoured (text : List Char) : Bool :=
  armourTitles.any fun title => armours title none text

def keyType : LooseText := "kty"

mutual

/-- Does an object in the document name the type of a key? Of several fields with one name only
the last one is looked into. -/
def namesKeyType : Json → Bool
  | .list items => someNamesKeyType items
  | .object fields => fieldNamesKeyType fields
  | _ => false

def someNamesKeyType : List Json → Bool
  | [] => false
  | item :: rest => namesKeyType item || someNamesKeyType rest

def fieldNamesKeyType : List (LooseText × Json) → Bool
  | [] => false
  | (name, value) :: rest =>
    name = keyType || (namesKeyType value && !rest.any (·.1 = name)) || fieldNamesKeyType rest

end

def tokensNameField : List Json.Placed → Bool
  | first :: second :: rest =>
    (match first.token, second.token with
      | .text _, .mark ':' => true
      | _, _ => false) || tokensNameField (second :: rest)
  | _ => false

/-- Is the secret a key document? One that is nested too deeply to be read counts as one when it
has fields at all. -/
def isKeyDocument (secret : String) : Bool :=
  match decodeDocument? (utf8 secret) with
  | none => false
  | some text =>
    match Json.read text Json.anyInteger with
    | .ok document => namesKeyType document
    | .error (.tooDeep _) => tokensNameField (Json.tokens text)
    | .error _ => false

end SecretShape

def macKey (secret : String) : Except KeyError Bytes :=
  if secret.isEmpty then .error .empty
  else if SecretShape.isArmoured secret.toList || SecretShape.isSshKey secret.toList then
    .error .asymmetric
  else if SecretShape.isKeyDocument secret then .error .keyDocument
  else .ok (utf8 secret)

end Roster
