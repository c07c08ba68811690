import Roster.Proofs.User.Calls
import Roster.Proofs.Campaign.Calls
import Roster.Proofs.Web.Guarded
import Mathlib.Tactic

/-!
# Requests as calls

A request reads its body, its parameters and its token before it calls the service, and it calls
the service at most once.  So whatever becomes of a request, the state is as before, or as the one
call leaves it that the endpoint makes of the request.
-/

namespace Roster

/-- A call of either registry. -/
inductive ServiceCall where
  | users (call : UserCall)
  | campaigns (call : CampaignCall)

/-- The state that a call leaves, whatever comes of it. -/
def ServiceCall.leave (service : Service) (call : ServiceCall) (state : State) : State :=
  match call with
  | .users call => ((call.run service).after state).2
  | .campaigns call => ((call.run service).after state).2

theorem Call.after_bind_pure_snd {α β : Type} (call : Call α) (answer : α → β) (state : State) :
    ((call >>= fun value => pure (answer value)).after state).2 = (call.after state).2 := by
  rw [after_bind]
  rcases call.after state with ⟨outcome, after⟩
  cases outcome with
  | ok value => rfl
  | error failure => rfl

namespace Users

theorem readsOnly_current (service : Service) (now : Moment) (token : Option String) :
    Call.ReadsOnly (current service now token) := by
  unfold current
  cases token with
  | none => exact Call.readsOnly_refuse _
  | some token =>
      simp only
      cases service.signer.check token now with
      | error error =>
          simp only
          cases error.rejection? with
          | none => exact Call.readsOnly_crash _
          | some message => exact Call.readsOnly_refuse _
      | ok accepted =>
          intro state
          simp only [Call.after_bind, Call.after_get]
          cases holder? accepted.username state.users with
          | error error => rfl
          | ok found =>
              cases found with
              | none => rfl
              | some user => rfl

end Users

namespace Web

/-! ## The call of an endpoint -/

def Request.form? {α : Type} (check : Json.Fields → Payload.Checked α) (request : Request) :
    Option α :=
  (Body.read request).toOption.bind fun body => (body.form check).toOption

def Endpoint.call? (now : Moment) (request : Request) : Endpoint → Option ServiceCall
  | .register | .createUser =>
      (request.form? Credentials.ofFields).map fun credentials => .users (.create credentials)
  | .login =>
      (request.form? Credentials.ofFields).map fun credentials => .users (.login now credentials)
  | .updateUser id =>
      (request.form? Credentials.ofFields).map fun credentials => .users (.update id credentials)
  | .deleteUser id => some (.users (.delete id))
  | .findUser id => some (.users (.findOne id))
  | .listUsers =>
      (Listing.Request.parse request.parameters).toOption.map fun listing => .users (.list listing)
  | .createCampaign =>
      (request.form? CampaignDraft.ofFields).map fun draft => .campaigns (.create draft)
  | .updateCampaign id =>
      (request.form? CampaignDraft.ofFields).map fun draft => .campaigns (.update id draft)
  | .deleteCampaign id => some (.campaigns (.delete id))
  | .findCampaign id => some (.campaigns (.findOne id))
  | .listCampaigns =>
      (Listing.Request.parse request.parameters).toOption.map
        fun listing => .campaigns (.list listing)
  | .health => none

/-- The call that a request is for, if its path leads to an endpoint that makes one of it. -/
def Request.call? (now : Moment) (request : Request) : Option ServiceCall :=
  match resolve request.method request.path with
  | .endpoint endpoint => endpoint.call? now request
  | _ => none

/-! ## What a handling does -/

namespace Handling

variable {α β : Type} {first : Handling α} {next : α → Handling β} {service : Service}
  {value? : Option α} {call? : Option ServiceCall}

/-- The handling leaves the state as it is, and can only give the value. -/
def Reads (handling : Handling α) (value? : Option α) : Prop :=
  ∀ state, ((ExceptT.run handling).run state).2 = state ∧
    ∀ value, ((ExceptT.run handling).run state).1 = .ok value → value? = some value

/-- The handling leaves the state as it is, or as the call does. -/
def AtMost (service : Service) (handling : Handling α) (call? : Option ServiceCall) : Prop :=
  ∀ state, ((ExceptT.run handling).run state).2 = state ∨
    ∃ call, call? = some call ∧
      ((ExceptT.run handling).run state).2 = call.leave service state

theorem Reads.bind (hfirst : Reads first value?)
    (hnext : ∀ value, value? = some value → AtMost service (next value) call?) :
    AtMost service (first >>= next) call? := by
  intro state
  obtain ⟨hstate, hvalue⟩ := hfirst state
  rw [run_bind]
  rcases hrun : (ExceptT.run first).run state with ⟨outcome, middle⟩
  rw [hrun] at hstate hvalue
  obtain rfl : middle = state := hstate
  cases outcome with
  | ok value => exact hnext value (hvalue value rfl) middle
  | error reason => exact .inl rfl

theorem Yields.reads {ε : Type} {outcome : Except ε α} {reason : ε → Halt}
    (hyields : Yields first (outcome.mapError reason)) : Reads first outcome.toOption := by
  intro state
  rw [hyields state]
  refine ⟨rfl, ?_⟩
  intro value hvalue
  cases outcome with
  | ok given =>
      cases hvalue
      rfl
  | error error => cases hvalue

theorem reads_body (request : Request) : Reads (body request) (Body.read request).toOption :=
  (yields_body request).reads

theorem reads_form (check : Json.Fields → Payload.Checked α) (body : Body) :
    Reads (form check body) (body.form check).toOption :=
  (yields_form check body).reads

theorem reads_listing (request : Request) :
    Reads (listing request) (Listing.Request.parse request.parameters).toOption :=
  (yields_listing request).reads

theorem atMost_pure (value : α) : AtMost service (pure value) call? := by
  intro state
  exact .inl rfl

/-- A handling that makes the call and then only words its answer. -/
theorem atMost_call {γ : Type} {call : Call α} {done : ServiceCall} (answer : α → β)
    (result : α → γ)
    (hdone : ∀ state, done.leave service state =
      ((call >>= fun value => pure (result value)).after state).2) :
    AtMost service (Handling.call call >>= fun value => pure (answer value)) (some done) := by
  intro state
  refine .inr ⟨done, rfl, ?_⟩
  rw [run_bind, run_call, hdone state, Call.after_bind_pure_snd]
  rcases call.after state with ⟨outcome, after⟩
  cases outcome with
  | ok value => rfl
  | error failure => rfl

/-- A handling that makes a call of a form, once the body has been read. -/
theorem atMost_form {request : Request} {body : Body} {check : Json.Fields → Payload.Checked α}
    {done : α → ServiceCall} (hbody : (Body.read request).toOption = some body)
    (hnext : ∀ value, AtMost service (next value) (some (done value))) :
    AtMost service (form check body >>= next) ((request.form? check).map done) := by
  refine (reads_form check body).bind fun value hvalue => ?_
  have hform : request.form? check = some value := by
    unfold Request.form?
    rw [hbody, Option.bind_some, hvalue]
  rw [hform]
  exact hnext value

end Handling

namespace Server

open Web.Handling Call

variable {server : Server} {now : Moment} {request : Request}

theorem reads_authenticate (server : Server) (now : Moment) (request : Request) :
    Reads (server.authenticate now request) (some ()) := by
  intro state
  have hcurrent := Users.readsOnly_current server.service now (bearerToken? request) state
  refine ⟨?_, fun _ _ => rfl⟩
  unfold authenticate
  rw [run_bind, run_call, hcurrent]
  cases ((Users.current server.service now (bearerToken? request)).after state).1 with
  | ok user => rfl
  | error failure => rfl

/-- An endpoint makes at most its call, whatever becomes of the request. -/
theorem atMost_serve (server : Server) (now : Moment) (request : Request) (endpoint : Endpoint) :
    AtMost server.service (server.serve now request endpoint) (endpoint.call? now request) := by
  cases endpoint with
  | register =>
      refine (reads_body request).bind fun body hbody => atMost_form hbody fun credentials => ?_
      exact atMost_call _ UserAnswer.user fun _ => rfl
  | login =>
      refine (reads_body request).bind fun body hbody => atMost_form hbody fun credentials => ?_
      exact atMost_call _ UserAnswer.token fun _ => rfl
  | createUser =>
      refine (reads_body request).bind fun body hbody => ?_
      refine (reads_authenticate server now request).bind fun _ _ => ?_
      refine atMost_form hbody fun credentials => ?_
      exact atMost_call _ UserAnswer.user fun _ => rfl
  | listUsers =>
      refine (reads_listing request).bind fun listing hlisting => ?_
      refine (reads_authenticate server now request).bind fun _ _ => ?_
      rw [Endpoint.call?, hlisting]
      exact atMost_call _ UserAnswer.page fun _ => rfl
  | findUser id =>
      refine (reads_authenticate server now request).bind fun _ _ => ?_
      exact atMost_call _ UserAnswer.user fun _ => rfl
  | updateUser id =>
      refine (reads_body request).bind fun body hbody => ?_
      refine (reads_authenticate server now request).bind fun _ _ => ?_
      refine atMost_form hbody fun credentials => ?_
      exact atMost_call _ UserAnswer.user fun _ => rfl
  | deleteUser id =>
      refine (reads_authenticate server now request).bind fun _ _ => ?_
      exact atMost_call _ (fun _ => UserAnswer.deleted) fun _ => rfl
  | createCampaign =>
      refine (reads_body request).bind fun body hbody => atMost_form hbody fun draft => ?_
      exact atMost_call _ CampaignAnswer.campaign fun _ => rfl
  | listCampaigns =>
      refine (reads_listing request).bind fun listing hlisting => ?_
      rw [Endpoint.call?, hlisting]
      exact atMost_call _ CampaignAnswer.page fun _ => rfl
  | findCampaign id => exact atMost_call _ CampaignAnswer.campaign fun _ => rfl
  | updateCampaign id =>
      refine (reads_body request).bind fun body hbody => atMost_form hbody fun draft => ?_
      exact atMost_call _ CampaignAnswer.campaign fun _ => rfl
  | deleteCampaign id =>
      exact atMost_call _ (fun _ => CampaignAnswer.deleted) fun _ => rfl
  | health => exact atMost_pure _

/-- A request leaves the state as it is, or as the call leaves it that the request is for. -/
theorem respond_state (server : Server) (now : Moment) (request : Request) (state : State) :
    (server.respond now request state).2 = state ∨
      ∃ call, request.call? now = some call ∧
        (server.respond now request state).2 = call.leave server.service state := by
  rw [respond_eq]
  unfold routeAcrossOrigins
  cases CrossOrigin.preflight? request with
  | some origin => exact .inl rfl
  | none =>
      simp only
      unfold route Request.call?
      cases resolve request.method request.path with
      | endpoint endpoint =>
          have hserve := atMost_serve server now request endpoint state
          simp only
          rcases hrun : (ExceptT.run (server.serve now request endpoint)).run state with
            ⟨outcome, after⟩
          rw [hrun] at hserve
          cases outcome with
          | ok value => exact hserve
          | error reason => exact hserve
      | wrongMethod allowed => exact .inl rfl
      | moved path => exact .inl rfl
      | nowhere => exact .inl rfl

end Server
end Web
end Roster
