import Roster.Web.Message

/-!
# Routes

Every route joins a method and a place with an endpoint. The first route that fits both wins; when
only the place of a route fits, the method is wrong; and when the path would fit some route without
the slashes at its end, or with one more, the client is sent there.
-/

namespace Roster.Web

inductive Endpoint where
  | register
  | login
  | createUser
  | listUsers
  | findUser (id : String)
  | updateUser (id : String)
  | deleteUser (id : String)
  | createCampaign
  | listCampaigns
  | findCampaign (id : String)
  | updateCampaign (id : String)
  | deleteCampaign (id : String)
  | health
  deriving DecidableEq

/-- Where a route lies: at one path, or anywhere directly below one. -/
inductive Place where
  | exactly (path : String)
  | below (path : String)

/-- The last segment of a path that lies at the place; at a fixed path it is empty. A line feed
after a fixed path is tolerated. -/
def Place.segment? (place : Place) (path : String) : Option String :=
  match place with
  | .exactly fixed => if path = fixed ∨ path = fixed ++ "\n" then some "" else none
  | .below parent =>
    let start := parent.toList ++ ['/']
    let segment := path.toList.drop start.length
    if start.isPrefixOf path.toList && !segment.isEmpty && !segment.contains '/' then
      some (String.ofList segment)
    else none

structure Route where
  method : String
  place : Place
  /-- The endpoint, which may take the last segment as an identifier. -/
  endpoint : String → Endpoint

def routes : List Route := [
  ⟨"POST", .exactly "/auth/register", fun _ => .register⟩,
  ⟨"POST", .exactly "/auth/login", fun _ => .login⟩,
  ⟨"POST", .exactly "/users", fun _ => .createUser⟩,
  ⟨"GET", .exactly "/users", fun _ => .listUsers⟩,
  ⟨"GET", .below "/users", .findUser⟩,
  ⟨"PUT", .below "/users", .updateUser⟩,
  ⟨"DELETE", .below "/users", .deleteUser⟩,
  ⟨"POST", .exactly "/campaign", fun _ => .createCampaign⟩,
  ⟨"GET", .exactly "/campaign/select", fun _ => .listCampaigns⟩,
  ⟨"GET", .below "/campaign", .findCampaign⟩,
  ⟨"PUT", .below "/campaign", .updateCampaign⟩,
  ⟨"DELETE", .below "/campaign", .deleteCampaign⟩,
  ⟨"GET", .exactly "/health", fun _ => .health⟩]

inductive Destination where
  | endpoint (endpoint : Endpoint)
  | wrongMethod (allowed : String)
  /-- The same place with other slashes at its end. -/
  | moved (path : String)
  | nowhere
  deriving DecidableEq

/-- The path with its final slashes removed, or without any, with one added. -/
def otherSlashes (path : String) : String :=
  let reversed := path.toList.reverse
  if reversed.head? = some '/' then String.ofList (reversed.dropWhile (· = '/')).reverse
  else path ++ "/"

def resolve (method path : String) : Destination :=
  let fitting := routes.filterMap fun route =>
    (route.place.segment? path).map fun segment => (route, segment)
  match fitting.find? (·.1.method = method), fitting with
  | some (route, segment), _ => .endpoint (route.endpoint segment)
  | none, (route, _) :: _ => .wrongMethod route.method
  | none, [] =>
    let other := otherSlashes path
    if path ≠ "/" ∧ routes.any fun route => (route.place.segment? other).isSome then .moved other
    else .nowhere

end Roster.Web
