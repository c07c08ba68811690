import Roster.User.Registry

/-!
# The user behind a token

A request is made by the user whom its token names. The name is looked for exactly as written,
first among the usernames and then among the emails, so a token is worth nothing once nobody has
the name any more.
-/

namespace Roster.Users

/-- The user who has a login name, exactly as written. -/
def holder? (name : LooseText) (users : Table User) : Except StoreError (Option User) := do
  let wanted ← users.bindText name
  match ← users.findCell? LoginColumn.username.cell (.text wanted) with
  | some user => return some user
  | none => users.findCell? LoginColumn.email.cell (.text wanted)

/-- The user who makes a request with a token, or with none. -/
def current (service : Service) (now : Moment) (token : Option String) : Call User := do
  match token with
  | none => Call.refuse (.unauthenticated .noToken)
  | some token =>
    match service.signer.check token now with
    | .error error =>
      match error.rejection? with
      | some message => Call.refuse (.unauthenticated (.rejected message))
      | none => Call.crash (.checking error)
    | .ok accepted =>
      match holder? accepted.username (← get).users with
      | .ok (some user) => return user
      | .ok none => Call.refuse (.unauthenticated .unknownUser)
      | .error error => Call.crash (.store error)

end Roster.Users
