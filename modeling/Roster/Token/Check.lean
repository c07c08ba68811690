import Roster.Token.Signer
import Roster.Json.Display
import Roster.Payload.Form

/-!
# Checking tokens

A token is taken apart, its header is examined, its signature is compared, and then the claims of
its payload are checked in a fixed order: the times of issue, of first use and of expiry, the
issuer, the audience, the subject, the token's identifier. Last comes the user's name. The times
are whole seconds.
-/

namespace Roster

inductive TimeClaim where
  | issuedAt
  | notBefore
  | expiry
  deriving DecidableEq

namespace TimeClaim

def name : TimeClaim → String
  | .issuedAt => "iat"
  | .notBefore => "nbf"
  | .expiry => "exp"

def title : TimeClaim → String
  | .issuedAt => "Issued At claim (iat)"
  | .notBefore => "Not Before claim (nbf)"
  | .expiry => "Expiration Time claim (exp)"

end TimeClaim

inductive Invalid where
  | tooFewParts
  | headerEncoding
  | headerNotJson
  | headerNotObject
  | payloadEncoding
  | signatureEncoding
  | keyIdNotText
  | criticalNotList
  | criticalNotTexts
  | unsupportedCritical (name : LooseText)
  | missingCritical (name : LooseText)
  | detachedWithPayload
  | detachedNotCritical
  | detachedPayloadMissing
  | algorithmMissing
  | algorithmNotAllowed
  | algorithmUnsupported
  | wrongSignature
  | payloadNotJson
  | payloadNotObject
  | timeNotInteger (claim : TimeClaim)
  | notYetValid (claim : TimeClaim)
  | issuerMissing
  | issuerNotText
  | wrongIssuer
  | audiencePresent
  | subjectNotText
  | tokenIdNotText
  deriving DecidableEq

def Invalid.message : Invalid → LooseText
  | .tooFewParts => "Not enough segments"
  | .headerEncoding => "Invalid header padding"
  | .headerNotJson => "Invalid header string"
  | .headerNotObject => "Invalid header string: must be a json object"
  | .payloadEncoding => "Invalid payload padding"
  | .signatureEncoding => "Invalid crypto padding"
  | .keyIdNotText => "Key ID header parameter must be a string"
  | .criticalNotList => "Invalid 'crit' header: must be a non-empty list"
  | .criticalNotTexts => "Invalid 'crit' header: values must be strings"
  | .unsupportedCritical name =>
    LooseText.ofString "Unsupported critical extension: " ++ name
  | .missingCritical name =>
    LooseText.ofString "Critical extension '" ++ name ++
      LooseText.ofString "' is missing from headers"
  | .detachedWithPayload => "Payload segment must be empty when 'b64' is false."
  | .detachedNotCritical => "The 'b64' header parameter requires 'b64' to be listed in 'crit'."
  | .detachedPayloadMissing =>
    LooseText.ofString <|
      "It is required that you pass in a value for the \"detached_payload\" argument to decode " ++
        "a message having the b64 header set to false."
  | .algorithmMissing => "Algorithm not specified"
  | .algorithmNotAllowed => "The specified alg value is not allowed"
  | .algorithmUnsupported => "Algorithm not supported"
  | .wrongSignature => "Signature verification failed"
  | .payloadNotJson => "Invalid payload string"
  | .payloadNotObject => "Invalid payload string: must be a json object"
  | .timeNotInteger claim => LooseText.ofString (claim.title ++ " must be an integer.")
  | .notYetValid claim =>
    LooseText.ofString ("The token is not yet valid (" ++ claim.name ++ ")")
  | .issuerMissing => "Token is missing the \"iss\" claim"
  | .issuerNotText => "Payload Issuer (iss) must be a string"
  | .wrongIssuer => "Invalid issuer"
  | .audiencePresent => "Invalid audience"
  | .subjectNotText => "Subject must be a string"
  | .tokenIdNotText => "JWT ID must be a string"

inductive CheckError where
  | invalid (reason : Invalid)
  | expired
  /-- The payload names no user. -/
  | anonymous
  /-- The user's name is no text, but the value that is shown, of the kind that the word names. -/
  | nameNotText (shown kind : String)
  | key (error : KeyError)
  /-- The token itself is no text of characters. -/
  | unencodable (fault : Unencodable)
  deriving DecidableEq

/-- The failures that are reported as a failed authentication, with their message. -/
def CheckError.rejection? : CheckError → Option LooseText
  | .invalid reason => some (LooseText.ofString "invalid token, " ++ reason.message)
  | .expired => some "token expired"
  | .anonymous => some "invalid token payload"
  | .nameNotText .. | .key _ | .unencodable _ => none

def CheckError.message : CheckError → LooseText
  | .nameNotText shown kind =>
    Payload.Cause.notText.report Payload.tokenHolderName "username" (Json.shorten shown) kind
  | .key error => error.message
  | .unencodable fault => fault.message
  | error => error.rejection?.getD []

structure AcceptedToken where
  username : LooseText
  token : String
  deriving DecidableEq

namespace Signer

/-- The parts of a token, decoded as far as the signature needs. -/
structure Parts where
  signed : List Char
  header : Json.Fields
  payload : Bytes
  signature : Bytes

def invalid {α : Type} (reason : Invalid) : Except CheckError α :=
  .error (.invalid reason)

def readDocument (bytes : Bytes) (notJson notObject : Invalid) :
    Except CheckError (Json.Fields) :=
  match decodeDocument? bytes with
  | none => invalid notJson
  | some text =>
    match Json.read text with
    | .error _ => invalid notJson
    | .ok (.object fields) => .ok fields
    | .ok _ => invalid notObject

def decodePart (text : List Char) (reason : Invalid) : Except CheckError Bytes :=
  match Base64.decode? Base64.urlSafe text with
  | some bytes => .ok bytes
  | none => invalid reason

/-- Is the payload sent apart from the token? -/
def isDetached (header : Json.Fields) : Bool :=
  match Json.lastField? "b64" header with
  | some (.bool false) => true
  | _ => false

/-- Takes a token apart: at its last dot, and what comes before at its first. -/
def takeApart (token : String) : Except CheckError Parts :=
  match cutLast? '.' token.toList with
  | none => invalid .tooFewParts
  | some (signed, signature) =>
    match cutFirst? '.' signed with
    | none => invalid .tooFewParts
    | some (header, payload) => do
      let headerBytes ← decodePart header .headerEncoding
      let header ← readDocument headerBytes .headerNotJson .headerNotObject
      if isDetached header && !payload.isEmpty then invalid .detachedWithPayload
      let payloadBytes ← decodePart payload .payloadEncoding
      let signature ← decodePart signature .signatureEncoding
      return { signed, header, payload := payloadBytes, signature }

def supportedExtensions : List LooseText := ["b64"]

def checkExtensions (header : Json.Fields) : List Json → Except CheckError Unit
  | [] => .ok ()
  | .text name :: rest =>
    if !supportedExtensions.contains name then invalid (.unsupportedCritical name)
    else if (Json.lastField? name header).isNone then invalid (.missingCritical name)
    else checkExtensions header rest
  | _ :: _ => invalid .criticalNotTexts

def checkHeader (parts : Parts) : Except CheckError Unit := do
  match Json.lastField? "kid" parts.header with
  | none | some (.text _) => pure ()
  | some _ => invalid .keyIdNotText
  match Json.lastField? "crit" parts.header with
  | none => pure ()
  | some (.list (first :: rest)) => checkExtensions parts.header (first :: rest)
  | some _ => invalid .criticalNotList
  if isDetached parts.header then
    -- the only extension that can be listed as critical is this one
    if (Json.lastField? "crit" parts.header).isNone then invalid .detachedNotCritical
    else invalid .detachedPayloadMissing

def checkSignature (signer : Signer) (parts : Parts) : Except CheckError Unit :=
  match Json.lastField? "alg" parts.header with
  | none => invalid .algorithmMissing
  | some (.text name) =>
    if name.isEmpty || name ≠ LooseText.ofString signer.algorithm then
      invalid .algorithmNotAllowed
    else
      match Algorithm.ofName signer.algorithm with
      | .mac variant =>
        match macKey signer.secret with
        | .error error => .error (.key error)
        | .ok key =>
          if signer.crypto.mac variant key (utf8 (String.ofList parts.signed)) = parts.signature
          then .ok ()
          else invalid .wrongSignature
      | .none =>
        if signer.secret.isEmpty then invalid .wrongSignature else .error (.key .notNone)
      | .asymmetric _ | .unknown => invalid .algorithmUnsupported
  | some _ => invalid .algorithmNotAllowed

def claimInteger? : Json → Option Int
  | .int value => some value
  | .bool value => some (if value then 1 else 0)
  | .real value => value.truncate?
  | .text value => value.chars?.bind fun text => (readInteger text).toOption
  | _ => none

def claimTime (claim : TimeClaim) (payload : Json.Fields) :
    Except CheckError (Option Int) :=
  match Json.lastField? claim.name payload with
  | none => .ok none
  | some value =>
    match claimInteger? value with
    | some time => .ok (some time)
    | none => invalid (.timeNotInteger claim)

def checkNotEarly (claim : TimeClaim) (payload : Json.Fields) (now : Int) :
    Except CheckError Unit := do
  match ← claimTime claim payload with
  | some time => if now < time then invalid (.notYetValid claim)
  | none => pure ()

def checkNotExpired (payload : Json.Fields) (now : Int) : Except CheckError Unit := do
  match ← claimTime .expiry payload with
  | some time => if time ≤ now then throw .expired
  | none => pure ()

def checkIssuer (signer : Signer) (payload : Json.Fields) : Except CheckError Unit :=
  match Json.lastField? "iss" payload with
  | none => invalid .issuerMissing
  | some (.text issuer) =>
    if issuer = LooseText.ofString signer.issuer then .ok () else invalid .wrongIssuer
  | some _ => invalid .issuerNotText

/-- No audience is served, so a token that names one is refused. -/
def checkAudience (payload : Json.Fields) : Except CheckError Unit :=
  match Json.lastField? "aud" payload with
  | none => .ok ()
  | some value => if value.holds then invalid .audiencePresent else .ok ()

def checkTextClaim (name : String) (reason : Invalid) (payload : Json.Fields) :
    Except CheckError Unit :=
  match Json.lastField? name payload with
  | none | some (.text _) => .ok ()
  | some _ => invalid reason

def checkClaims (signer : Signer) (payload : Json.Fields) (now : Int) :
    Except CheckError Unit := do
  checkNotEarly .issuedAt payload now
  checkNotEarly .notBefore payload now
  checkNotExpired payload now
  signer.checkIssuer payload
  checkAudience payload
  checkTextClaim "sub" .subjectNotText payload
  checkTextClaim "jti" .tokenIdNotText payload

def usernameOf (payload : Json.Fields) : Except CheckError LooseText :=
  match Json.lastField? "username" payload with
  | none => .error .anonymous
  | some value =>
    if value.holds then
      match value with
      | .text username => .ok username
      | _ => .error (.nameNotText value.display value.kindWord)
    else .error .anonymous

def check (signer : Signer) (token : String) (now : Moment) :
    Except CheckError AcceptedToken := do
  let parts ← takeApart token
  checkHeader parts
  signer.checkSignature parts
  let payload ← readDocument parts.payload .payloadNotJson .payloadNotObject
  signer.checkClaims payload now.second
  let username ← usernameOf payload
  return { username, token }

/-- Checks a text that need not be one of characters. Nothing is taken apart before the whole text
is encoded. -/
def checkText (signer : Signer) (text : LooseText) (now : Moment) :
    Except CheckError AcceptedToken := do
  let token ← text.encode.mapError .unencodable
  signer.check token now

end Signer

end Roster
