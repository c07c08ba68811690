import Roster.Web.Route
import Roster.Web.Report
import Roster.Web.CrossOrigin
import Roster.Web.Location
import Roster.Json.Writer
import Roster.User.Session
import Roster.Campaign.Registry

/-!
# The server

A request passes three layers. The outer one returns the identifier of the request, the middle one
answers preflight requests and confirms origins, and the inner one resolves the path and serves the
endpoint. A crash leaves all layers, so its report has neither an identifier nor an origin.

An endpoint reads the body first. Then come the parameters of a list and the user behind the token,
and only then is the body checked against its form and the service called.
-/

namespace Roster.Web

structure Server where
  service : Service
  /-- Are causes shown to clients? -/
  debug : Bool := false
  freshId : String
  /-- The host that clients are sent to when they name none. -/
  host : String

abbrev Handling (α : Type) := ExceptT Halt (StateM State) α

namespace Handling

variable {α : Type}

def halt (reason : Halt) : Handling α :=
  throw reason

def call (call : Call α) : Handling α := do
  let (outcome, state) := call.after (← get)
  set state
  match outcome with
  | .ok value => return value
  | .error failure => halt (.failure failure)

def body (request : Request) : Handling Body :=
  match Body.read request with
  | .ok body => return body
  | .error fault => halt (.body fault)

def form (check : Json.Fields → Payload.Checked α) (body : Body) : Handling α :=
  match body.form check with
  | .ok value => return value
  | .error problems => halt (.invalid problems)

def listing (request : Request) : Handling Listing.Request :=
  match Listing.Request.parse request.parameters with
  | .ok parameters => return parameters
  | .error error =>
    if error.isQueryFault then halt (.failure (.refused (.badQuery error)))
    else halt (.failure (.crashed (.listing error)))

end Handling

/-- The token in an authorization header: what follows the scheme, if that is `bearer`. -/
def bearerToken? (request : Request) : Option String :=
  match cutFirst? ' ' ((request.header? "authorization").getD "").toList with
  | some (scheme, rest) =>
    let token := trim rest
    if scheme.map Char.toLower = "bearer".toList && !token.isEmpty then some (String.ofList token)
    else none
  | none => none

def success (fields : Json.Fields) : Json :=
  .object (("response_code", .int 200) :: fields)

def dataAnswer (data : Json) : Json :=
  success [("response_message", .text "success"), ("data", data)]

def pageAnswer {α : Type} (write : α → Json) (page : Page α) : Json :=
  success [
    ("response_message", .text "success"),
    ("pagination", .object [
      ("page", .int page.window.page), ("page_size", .int page.window.pageSize),
      ("total_page", .int page.pageCount), ("total_data_per_page", .int page.items.length),
      ("total_data", .int page.total)]),
    ("data", .list (page.items.map write))]

def deletedAnswer (id : String) : Json :=
  success [("response_message", .text (LooseText.ofString (id ++ " has been deleted")))]

def writeUser (user : UserView) : Json :=
  .object [("id", .text user.id), ("username", .text user.username), ("email", .text user.email)]

def writeLogin (answer : LoginAnswer) : Json :=
  .object [("username", .text answer.username), ("token", .text answer.token)]

def writeCampaign (campaign : Campaign) : Json :=
  .object [("id", .text campaign.id), ("name", .text campaign.name), ("year", .int campaign.year),
    ("description", (campaign.description.map fun text => Json.text text).getD .null)]

namespace Server

def authenticate (server : Server) (now : Moment) (request : Request) : Handling Unit := do
  let _ ← Handling.call (Users.current server.service now (bearerToken? request))

def serve (server : Server) (now : Moment) (request : Request) : Endpoint → Handling Json
  | .register => do
    let body ← Handling.body request
    let credentials ← Handling.form Credentials.ofFields body
    let user ← Handling.call (Users.create server.service credentials)
    return dataAnswer (writeUser user)
  | .login => do
    let body ← Handling.body request
    let credentials ← Handling.form Credentials.ofFields body
    let answer ← Handling.call (Users.login server.service now credentials)
    return dataAnswer (writeLogin answer)
  | .createUser => do
    let body ← Handling.body request
    server.authenticate now request
    let credentials ← Handling.form Credentials.ofFields body
    let user ← Handling.call (Users.create server.service credentials)
    return dataAnswer (writeUser user)
  | .listUsers => do
    let parameters ← Handling.listing request
    server.authenticate now request
    let page ← Handling.call (Users.list server.service parameters)
    return pageAnswer writeUser page
  | .findUser id => do
    server.authenticate now request
    let user ← Handling.call (Users.findOne id)
    return dataAnswer (writeUser user)
  | .updateUser id => do
    let body ← Handling.body request
    server.authenticate now request
    let credentials ← Handling.form Credentials.ofFields body
    let user ← Handling.call (Users.update server.service id credentials)
    return dataAnswer (writeUser user)
  | .deleteUser id => do
    server.authenticate now request
    Handling.call (Users.delete id)
    return deletedAnswer id
  | .createCampaign => do
    let body ← Handling.body request
    let draft ← Handling.form CampaignDraft.ofFields body
    let campaign ← Handling.call (Campaigns.create server.service draft)
    return dataAnswer (writeCampaign campaign)
  | .listCampaigns => do
    let parameters ← Handling.listing request
    let page ← Handling.call (Campaigns.list server.service parameters)
    return pageAnswer writeCampaign page
  | .findCampaign id => do
    let campaign ← Handling.call (Campaigns.findOne id)
    return dataAnswer (writeCampaign campaign)
  | .updateCampaign id => do
    let body ← Handling.body request
    let draft ← Handling.form CampaignDraft.ofFields body
    let campaign ← Handling.call (Campaigns.update id draft)
    return dataAnswer (writeCampaign campaign)
  | .deleteCampaign id => do
    Handling.call (Campaigns.delete id)
    return deletedAnswer id
  | .health => return .object [("status", .text "ok")]

/-- An answer whose text can be encoded, or the crash when it cannot. -/
def sendable (answer : Answer) : Except Halt Answer :=
  match answer.content with
  | .text _ => .ok answer
  | .json value =>
    match (Json.write Json.plainStyle value).encode with
    | .ok _ => .ok answer
    | .error fault => .error (.failure (.crashed (.answering fault)))

/-- The inner layer. A crash has no answer here. -/
def route (server : Server) (now : Moment) (request : Request) (state : State) :
    Except Halt Answer × State :=
  match resolve request.method request.path with
  | .endpoint endpoint =>
    match (ExceptT.run (server.serve now request endpoint)).run state with
    | (.ok value, state) => (sendable (.ofJson 200 value), state)
    | (.error reason, state) =>
      (if reason.isCrash then .error reason else sendable (reason.answer server.debug), state)
  | .wrongMethod allowed =>
    (.ok ((Answer.detail 405 "Method Not Allowed").withHeader "allow" allowed), state)
  | .moved path =>
    let location := Location.ofPath server.host request path
    (.ok { status := 307, headers := [("location", location)], content := .text "" }, state)
  | .nowhere => (.ok (.detail 404 "Not Found"), state)

def routeAcrossOrigins (server : Server) (now : Moment) (request : Request) (state : State) :
    Except Halt Answer × State :=
  match CrossOrigin.preflight? request with
  | some (origin, method) => (.ok (CrossOrigin.preflight request origin method), state)
  | none =>
    let (outcome, state) := server.route now request state
    (outcome.map (CrossOrigin.confirm request), state)

def requestId (server : Server) (request : Request) : String :=
  (request.header? "x-request-id").getD server.freshId

def respond (server : Server) (now : Moment) (request : Request) (state : State) : Answer × State :=
  match server.routeAcrossOrigins now request state with
  | (.ok answer, state) =>
    (answer.withHeader "x-request-id" (server.requestId request), state)
  | (.error reason, state) => (reason.answer server.debug, state)

end Server

end Roster.Web
