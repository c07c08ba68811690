import Roster.Text.Lower
import Roster.Text.Quoted
import Roster.Number.Reading
import Roster.Json.Value

/-!
# Settings

The settings are read from environment variables, each with a default. Outside the development
environment the default signing secret is refused unless it is allowed explicitly, and the version
has to start with a `v`.
-/

namespace Roster

inductive SettingsError where
  | notInteger (text : String)
  | tooManyDigits (count : Nat)
  | defaultSecret
  | badVersion
  deriving DecidableEq

def shownWidth : Nat := 200

def SettingsError.message : SettingsError → String
  | .notInteger text =>
    "invalid literal for int() with base 10: " ++
      String.ofList ((Quoted.quote text).toList.take shownWidth)
  | .tooManyDigits count => tooManyDigitsMessage count
  | .defaultSecret => "JWT_SECRET must be set to a non-default value in non-dev environments"
  | .badVersion => "APP_VERSION must start with 'v'"

structure Settings where
  environment : String
  name : String
  version : String
  debug : Bool
  port : Int
  logPath : String
  /-- Without an address the store is a local file. -/
  databaseUrl : Option String
  tablePrefix : String
  tokenSecret : String
  tokenAlgorithm : String
  tokenHours : Int
  allowInsecureToken : Bool
  allowedOrigins : List String
  allowedMethods : List String
  allowedHeaders : List String
  brokers : List String
  securityProtocol : String
  brokerUser : String
  brokerPassword : String
  topic : String
  group : String

namespace Settings

def variableNames : List String := [
  "ENV", "APP_NAME", "APP_VERSION", "APP_DEBUG", "HTTP_PORT", "LOG_PATH", "DATABASE_URL",
  "DB_PREFIX", "JWT_SECRET", "JWT_ALGORITHM", "JWT_EXPIRE_HOURS", "ALLOW_INSECURE_JWT",
  "ALLOW_ORIGINS", "ALLOW_METHODS", "ALLOW_HEADERS", "KAFKA_BROKERS", "KAFKA_SECURITY_PROTOCOL",
  "KAFKA_USERNAME", "KAFKA_PASSWORD", "KAFKA_TOPIC_EXAMPLE", "KAFKA_GROUP_ID"]

/-- The trimmed items of a comma-separated list, blank ones left out. -/
def splitList (raw : String) : List String :=
  (((pieces ',' raw.toList).map trim).filter (!·.isEmpty)).map String.ofList

def defaultSecret : String := "change_me_for_prod"

def readSetting (text : String) : Except SettingsError Int :=
  match readInteger text.toList with
  | .ok number => .ok number
  | .error .malformed => .error (.notInteger text)
  | .error (.tooManyDigits count) => .error (.tooManyDigits count)

def ofEnvironment (assigned : List (String × String)) : Except SettingsError Settings := do
  let lookup (name default : String) : String := (assigned.lookup name).getD default
  let port ← readSetting (lookup "HTTP_PORT" "8080")
  let tokenHours ← readSetting (lookup "JWT_EXPIRE_HOURS" "1")
  let settings : Settings := {
    environment := lower (lookup "ENV" "dev")
    name := lookup "APP_NAME" "usercrud"
    version := lookup "APP_VERSION" "v1"
    debug := lower (lookup "APP_DEBUG" "false") = "true"
    port
    logPath := lookup "LOG_PATH" ""
    databaseUrl := assigned.lookup "DATABASE_URL"
    tablePrefix := lookup "DB_PREFIX" ""
    tokenSecret := lookup "JWT_SECRET" defaultSecret
    tokenAlgorithm := lookup "JWT_ALGORITHM" "HS256"
    tokenHours
    allowInsecureToken := lower (lookup "ALLOW_INSECURE_JWT" "false") = "true"
    allowedOrigins := splitList (lookup "ALLOW_ORIGINS" "*")
    allowedMethods := splitList (lookup "ALLOW_METHODS" "*")
    allowedHeaders := splitList (lookup "ALLOW_HEADERS" "*")
    brokers := splitList (lookup "KAFKA_BROKERS" "")
    securityProtocol := lookup "KAFKA_SECURITY_PROTOCOL" "PLAINTEXT"
    brokerUser := lookup "KAFKA_USERNAME" ""
    brokerPassword := lookup "KAFKA_PASSWORD" ""
    topic := lookup "KAFKA_TOPIC_EXAMPLE" "example"
    group := lookup "KAFKA_GROUP_ID" "usercrud-worker" }
  if settings.environment ≠ "dev" ∧ ¬settings.allowInsecureToken ∧
      settings.tokenSecret = defaultSecret then
    throw .defaultSecret
  if !settings.version.startsWith "v" then throw .badVersion
  return settings

def isProduction (settings : Settings) : Bool :=
  settings.environment = "production"

/-- Only the file store takes an argument. -/
def connectionArguments (settings : Settings) : Json.Fields :=
  match settings.databaseUrl with
  | some url => if url.startsWith "sqlite" then [("check_same_thread", .bool false)] else []
  | none => [("check_same_thread", .bool false)]

def brokerLogin (settings : Settings) : Json.Fields :=
  if settings.brokerUser.isEmpty then []
  else
    [("sasl.mechanisms", .text "PLAIN"), ("sasl.username", .text settings.brokerUser),
      ("sasl.password", .text settings.brokerPassword)]

def clientConfiguration (settings : Settings) : Json.Fields :=
  ("bootstrap.servers", .text (String.intercalate "," settings.brokers)) ::
    ("security.protocol", .text settings.securityProtocol) :: settings.brokerLogin

def producerConfiguration (settings : Settings) : Option (Json.Fields) :=
  if settings.brokers.isEmpty then none else some settings.clientConfiguration

/-- What the consumer is configured with besides: nothing is committed automatically. -/
def groupConfiguration (settings : Settings) : Json.Fields :=
  [("group.id", .text settings.group), ("auto.offset.reset", .text "earliest"),
    ("enable.auto.commit", .bool false)]

def consumerConfiguration (settings : Settings) : Json.Fields :=
  settings.clientConfiguration ++ settings.groupConfiguration

def listenAddress (settings : Settings) : String × Int :=
  ("0.0.0.0", settings.port)

end Settings

end Roster
