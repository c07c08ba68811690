import Roster.Proofs.Service.Crashes
import Roster.Proofs.Service.Wording
import Roster.Proofs.Web.Requests
import Mathlib.Tactic

/-!
# Requests that crash

A request that leads to an endpoint crashes in one of three steps.  A number in the parameters of a
list can have too many digits; the token can be more than the service copes with, or be rejected
with a message that cannot be sent; and the call that the request is for can crash.  Every other
outcome has an answer that can be sent, be it a success, a refusal or a report on the body.
-/

namespace Roster

open Call

/-- The failure is a crash, or a refusal with a message that cannot be encoded. -/
def Failure.Escapes : Failure → Prop
  | .refused refusal => ¬ refusal.message.IsPlain
  | .crashed _ => True

theorem Failure.IsWorded.escapes_iff {failure : Failure} (hworded : failure.IsWorded) :
    failure.Escapes ↔ ∃ crash, failure = .crashed crash := by
  cases failure with
  | refused refusal => exact iff_of_false (fun h => h (hworded refusal rfl)) nofun
  | crashed crash => exact iff_of_true trivial ⟨crash, rfl⟩

def ServiceCall.CrashesWith (service : Service) (call : ServiceCall) (state : State)
    (crash : Crash) : Prop :=
  match call with
  | .users call => (call.run service).CrashesWith state crash
  | .campaigns call => (call.run service).CrashesWith state crash

/-- There is a call, and it crashes. -/
def ServiceCall.Breaks (service : Service) (state : State) (call? : Option ServiceCall) : Prop :=
  ∃ call crash, call? = some call ∧ call.CrashesWith service state crash

namespace Web

/-! ## Where a request crashes -/

def Endpoint.IsList : Endpoint → Prop
  | .listUsers | .listCampaigns => True
  | _ => False

/-- What the endpoint reads before it looks at the token can be read. -/
def Endpoint.IsRead (request : Request) : Endpoint → Prop
  | .createUser | .updateUser _ => ∃ body, Body.read request = .ok body
  | .listUsers => ∃ listing, Listing.Request.parse request.parameters = .ok listing
  | _ => True

namespace Server

variable (server : Server) (now : Moment) (request : Request) (state : State)

/-- The token of the request is that of a user. -/
def Admits : Prop :=
  ∃ user, (Users.current server.service now (bearerToken? request)).after state =
    (.ok user, state)

/-- Looking for the user behind the token ends in a failure that has no answer. -/
def Stumbles : Prop :=
  ∃ failure, (Users.current server.service now (bearerToken? request)).after state =
    (.error failure, state) ∧ failure.Escapes

end Server

/-- The three steps in which an endpoint can crash. -/
inductive Endpoint.Crashes (server : Server) (now : Moment) (request : Request) (state : State)
    (endpoint : Endpoint) : Prop where
  | parameters (count : Nat) (hlists : endpoint.IsList)
      (hparse : Listing.Request.parse request.parameters = .error (.tooManyDigits count))
  | token (hguarded : endpoint.IsGuarded) (hread : endpoint.IsRead request)
      (hstumbles : server.Stumbles now request state)
  | call (hadmits : endpoint.IsGuarded → server.Admits now request state)
      (hbreaks : ServiceCall.Breaks server.service state (endpoint.call? now request))

/-- The request crashes: it is no preflight request, and leads to an endpoint that crashes. -/
def Request.Crashes (server : Server) (now : Moment) (state : State) (request : Request) : Prop :=
  CrossOrigin.preflight? request = none ∧
    ∃ endpoint, resolve request.method request.path = .endpoint endpoint ∧
      endpoint.Crashes server now request state

/-! ## Answers that can be sent -/

def Content.IsPlain : Content → Prop
  | .json value => value.IsPlain
  | .text _ => True

theorem sendable_of_isPlain {answer : Answer} (hplain : answer.content.IsPlain) :
    Server.sendable answer = .ok answer := by
  unfold Server.sendable
  split
  next => rfl
  next value hcontent =>
    rw [hcontent] at hplain
    obtain ⟨text, htext⟩ := LooseText.isPlain_iff_encode.mp hplain
    rw [htext]

theorem sendable_of_not_isPlain {answer : Answer} (hplain : ¬ answer.content.IsPlain) :
    ∃ crash, Server.sendable answer = .error (.failure (.crashed crash)) := by
  unfold Server.sendable
  split
  next text hcontent =>
    rw [hcontent] at hplain
    exact absurd trivial hplain
  next value hcontent =>
    rw [hcontent] at hplain
    split
    next text htext => exact absurd (LooseText.isPlain_iff_encode.mpr ⟨text, htext⟩) hplain
    next fault _ => exact ⟨_, rfl⟩

/-- The handling was ended for a reason that no answer is sent for. -/
def Halt.Escapes : Halt → Prop
  | .failure cause => cause.Escapes
  | _ => False

theorem Halt.isPlain_answer_iff {reason : Halt} (hanswered : reason.isCrash = false)
    (debug : Bool) : (reason.answer debug).content.IsPlain ↔ ¬ reason.Escapes := by
  cases reason with
  | body fault =>
      cases fault with
      | malformed offset =>
          simp [answer, invalidBody, report, Answer.ofJson, Content.IsPlain, Escapes]
      | unreadable =>
          simp [answer, Answer.detail, Answer.ofJson, Content.IsPlain, Escapes]
  | invalid problems =>
      simp [answer, invalidBody, report, Answer.ofJson, Content.IsPlain, Escapes]
  | failure cause =>
      cases cause with
      | crashed crash => cases hanswered
      | refused refusal =>
          have hdetails : Json.IsPlain (if debug && refusal.isStorage then
              .text StoreError.database.message else .null) := by
            split_ifs
            · simp
            · simp
          simpa [answer, report, Answer.ofJson, Content.IsPlain, Escapes, Failure.Escapes]
            using fun _ => hdetails

/-! ## Handlings that are lost -/

namespace Handling

variable {α β : Type} {first : Handling α} {next : α → Handling β} {state : State}

/-- The handling is ended in the state, and no answer is sent for it. -/
def Loses (handling : Handling α) (state : State) : Prop :=
  ∃ reason, ((ExceptT.run handling).run state).1 = .error reason ∧ reason.Escapes

/-- The first step ends the handling without an answer, or the rest does. -/
theorem loses_bind_iff {ε : Type} {outcome : Except ε α} {reason : ε → Halt} {middle : State}
    (hfirst : (ExceptT.run first).run state = (outcome.mapError reason, middle)) :
    Loses (first >>= next) state ↔
      (∃ error, outcome = .error error ∧ (reason error).Escapes) ∨
        ∃ value, outcome = .ok value ∧ Loses (next value) middle := by
  unfold Loses
  rw [run_bind, hfirst]
  cases outcome with
  | ok value => simp [Except.mapError]
  | error error => simp [Except.mapError]

theorem not_loses_pure (value : α) : ¬ Loses (pure value) state := by
  rintro ⟨reason, hreason, -⟩
  cases hreason

theorem loses_body_bind_iff {request : Request} {next : Body → Handling β} :
    Loses (body request >>= next) state ↔
      ∃ value, Body.read request = .ok value ∧ Loses (next value) state := by
  simp [loses_bind_iff (yields_body request state), Halt.Escapes]

theorem loses_form_bind_iff {check : Json.Fields → Payload.Checked α} {body : Body} :
    Loses (form check body >>= next) state ↔
      ∃ value, body.form check = .ok value ∧ Loses (next value) state := by
  simp [loses_bind_iff (yields_form check body state), Halt.Escapes]

/-- Of the errors in the parameters of a list, only one is no refusal. -/
theorem escapes_ofListingError_iff {error : Listing.Error} :
    (ofListingError error).Escapes ↔ ∃ count, error = .tooManyDigits count := by
  cases error with
  | tooManyDigits count =>
      simp [ofListingError, Listing.Error.isQueryFault, Halt.Escapes, Failure.Escapes]
  | _ =>
      simp [ofListingError, Listing.Error.isQueryFault, Halt.Escapes, Failure.Escapes,
        Refusal.isPlain_message]

theorem loses_listing_bind_iff {request : Request} {next : Listing.Request → Handling β} :
    Loses (listing request >>= next) state ↔
      (∃ count, Listing.Request.parse request.parameters = .error (.tooManyDigits count)) ∨
        ∃ value, Listing.Request.parse request.parameters = .ok value ∧
          Loses (next value) state := by
  rw [loses_bind_iff (yields_listing request state)]
  apply or_congr_left
  constructor
  · rintro ⟨error, hparse, hescapes⟩
    obtain ⟨count, rfl⟩ := escapes_ofListingError_iff.mp hescapes
    exact ⟨count, hparse⟩
  · rintro ⟨count, hparse⟩
    exact ⟨_, hparse, escapes_ofListingError_iff.mpr ⟨count, rfl⟩⟩

theorem crashesWith_answer_iff {call : Call α} {answer : α → β} {crash : Crash} :
    CrashesWith (call >>= fun value => pure (answer value)) state crash ↔
      CrashesWith call state crash := by
  rw [crashesWith_bind_iff, or_iff_left]
  rintro ⟨value, middle, -, hcrash⟩
  exact (answers_pure _).not_crashesWith hcrash

variable {service : Service} {request : Request} {done : α → ServiceCall}
  {check : Json.Fields → Payload.Checked α}

/-- A handling that makes a call and then only words its answer is lost when the call crashes. -/
theorem loses_call_iff {γ : Type} {call : Call α} {done : ServiceCall} (hworded : Worded call)
    (answer : α → β) (result : α → γ)
    (hdone : ∀ crash, done.CrashesWith service state crash =
      (call >>= fun value => pure (result value)).CrashesWith state crash) :
    Loses (Handling.call call >>= fun value => pure (answer value)) state ↔
      ServiceCall.Breaks service state (some done) := by
  have hbreaks : ServiceCall.Breaks service state (some done) ↔
      ∃ crash, call.CrashesWith state crash := by
    simp only [ServiceCall.Breaks, Option.some.injEq, exists_and_left, exists_eq_left', hdone,
      crashesWith_answer_iff]
  rw [hbreaks, loses_bind_iff (run_call call state)]
  unfold CrashesWith
  constructor
  · rintro (⟨failure, hfailure, hescapes⟩ | ⟨value, -, hloses⟩)
    · obtain ⟨crash, rfl⟩ := (hworded state failure hfailure).escapes_iff.mp hescapes
      exact ⟨crash, hfailure⟩
    · exact absurd hloses (not_loses_pure _)
  · rintro ⟨crash, hcrash⟩
    exact .inl ⟨.crashed crash, hcrash, trivial⟩

theorem not_breaks_none : ¬ ServiceCall.Breaks service state none := by
  rintro ⟨call, crash, hcall, -⟩
  cases hcall

/-- A handling that makes a call of a form, once the body has been read. -/
theorem loses_form_iff {body : Body} (hread : Body.read request = .ok body)
    (hnext : ∀ value, Loses (next value) state ↔
      ServiceCall.Breaks service state (some (done value))) :
    Loses (form check body >>= next) state ↔
      ServiceCall.Breaks service state ((request.form? check).map done) := by
  rw [loses_form_bind_iff]
  unfold Request.form?
  rw [hread]
  cases hform : body.form check with
  | ok value => simp [Except.toOption, hform, hnext]
  | error problems => simp [Except.toOption, hform, not_breaks_none]

theorem form?_of_unread {fault : BodyFault} (hread : Body.read request = .error fault) :
    request.form? check = none := by
  unfold Request.form?
  rw [hread]
  rfl

theorem loses_body_iff {next : Body → Handling β}
    (hnext : ∀ body, Body.read request = .ok body → (Loses (next body) state ↔
      ServiceCall.Breaks service state ((request.form? check).map done))) :
    Loses (body request >>= next) state ↔
      ServiceCall.Breaks service state ((request.form? check).map done) := by
  rw [loses_body_bind_iff]
  cases hread : Body.read request with
  | ok body => simp [hnext body hread]
  | error fault => simp [form?_of_unread hread, not_breaks_none]

theorem loses_listing_iff {next : Listing.Request → Handling β}
    {done : Listing.Request → ServiceCall}
    (hnext : ∀ listing, Loses (next listing) state ↔
      ServiceCall.Breaks service state (some (done listing))) :
    Loses (listing request >>= next) state ↔
      (∃ count, Listing.Request.parse request.parameters = .error (.tooManyDigits count)) ∨
        ServiceCall.Breaks service state
          ((Listing.Request.parse request.parameters).toOption.map done) := by
  rw [loses_listing_bind_iff]
  cases Listing.Request.parse request.parameters with
  | ok listing => simp [Except.toOption, hnext]
  | error error => simp [Except.toOption, not_breaks_none]

end Handling

/-! ## Endpoints that crash -/

namespace Server

open Web.Handling

variable {server : Server} {now : Moment} {request : Request} {state : State}

theorem loses_authenticate_bind_iff {β : Type} {next : Unit → Handling β} :
    Loses (server.authenticate now request >>= next) state ↔
      server.Stumbles now request state ∨
        server.Admits now request state ∧ Loses (next ()) state := by
  have hstate := Users.readsOnly_current server.service now (bearerToken? request) state
  unfold authenticate Stumbles Admits
  simp only [bind_assoc, pure_bind]
  rw [loses_bind_iff (run_call _ state)]
  rcases hcurrent : (Users.current server.service now (bearerToken? request)).after state with
    ⟨outcome, after⟩
  rw [hcurrent] at hstate
  obtain rfl : after = state := hstate
  simp [Halt.Escapes]

/-- A guarded handling that reads nothing before it looks at the token. -/
theorem loses_guarded_iff {β : Type} {next : Unit → Handling β} {call? : Option ServiceCall}
    (hnext : Loses (next ()) state ↔ ServiceCall.Breaks server.service state call?) :
    Loses (server.authenticate now request >>= next) state ↔
      server.Stumbles now request state ∨
        server.Admits now request state ∧ ServiceCall.Breaks server.service state call? := by
  rw [loses_authenticate_bind_iff, hnext]

theorem loses_guarded_body_iff {α β : Type} {next : Body → Unit → Handling β}
    {check : Json.Fields → Payload.Checked α} {done : α → ServiceCall}
    (hnext : ∀ body, Body.read request = .ok body → (Loses (next body ()) state ↔
      ServiceCall.Breaks server.service state ((request.form? check).map done))) :
    Loses (body request >>= fun body => server.authenticate now request >>= next body) state ↔
      (∃ body, Body.read request = .ok body) ∧ server.Stumbles now request state ∨
        server.Admits now request state ∧
          ServiceCall.Breaks server.service state ((request.form? check).map done) := by
  rw [loses_body_bind_iff]
  cases hread : Body.read request with
  | ok body => simp [loses_authenticate_bind_iff, hnext body hread]
  | error fault => simp [form?_of_unread hread, not_breaks_none]

theorem loses_guarded_listing_iff {β : Type} {next : Listing.Request → Unit → Handling β}
    {done : Listing.Request → ServiceCall}
    (hnext : ∀ listing, Loses (next listing ()) state ↔
      ServiceCall.Breaks server.service state (some (done listing))) :
    Loses (listing request >>= fun listing =>
        server.authenticate now request >>= next listing) state ↔
      (∃ count, Listing.Request.parse request.parameters = .error (.tooManyDigits count)) ∨
        (∃ listing, Listing.Request.parse request.parameters = .ok listing) ∧
            server.Stumbles now request state ∨
          server.Admits now request state ∧
            ServiceCall.Breaks server.service state
              ((Listing.Request.parse request.parameters).toOption.map done) := by
  rw [loses_listing_bind_iff]
  cases Listing.Request.parse request.parameters with
  | ok listing => simp [Except.toOption, loses_authenticate_bind_iff, hnext]
  | error error => simp [Except.toOption, not_breaks_none]

end Server

theorem Endpoint.crashes_iff {server : Server} {now : Moment} {request : Request} {state : State}
    {endpoint : Endpoint} :
    endpoint.Crashes server now request state ↔
      (endpoint.IsList ∧
        ∃ count, Listing.Request.parse request.parameters = .error (.tooManyDigits count)) ∨
      (endpoint.IsGuarded ∧ endpoint.IsRead request ∧ server.Stumbles now request state) ∨
      ((endpoint.IsGuarded → server.Admits now request state) ∧
        ServiceCall.Breaks server.service state (endpoint.call? now request)) := by
  constructor
  · rintro (⟨count, hlists, hparse⟩ | ⟨hguarded, hread, hstumbles⟩ | ⟨hadmits, hbreaks⟩)
    · exact .inl ⟨hlists, count, hparse⟩
    · exact .inr (.inl ⟨hguarded, hread, hstumbles⟩)
    · exact .inr (.inr ⟨hadmits, hbreaks⟩)
  · rintro (⟨hlists, count, hparse⟩ | ⟨hguarded, hread, hstumbles⟩ | ⟨hadmits, hbreaks⟩)
    · exact .parameters count hlists hparse
    · exact .token hguarded hread hstumbles
    · exact .call hadmits hbreaks

namespace Server

open Web.Handling

variable {server : Server} {now : Moment} {request : Request} {state : State}

theorem loses_serve_iff {endpoint : Endpoint} :
    Loses (server.serve now request endpoint) state ↔
      endpoint.Crashes server now request state := by
  rw [Endpoint.crashes_iff]
  cases endpoint with
  | register =>
      simp only [Endpoint.IsList, Endpoint.IsGuarded, false_and, false_or, false_imp_iff, true_and]
      refine loses_body_iff fun body hread => loses_form_iff hread fun credentials => ?_
      exact loses_call_iff (Users.worded_create _ _) _ UserAnswer.user fun _ => rfl
  | login =>
      simp only [Endpoint.IsList, Endpoint.IsGuarded, false_and, false_or, false_imp_iff, true_and]
      refine loses_body_iff fun body hread => loses_form_iff hread fun credentials => ?_
      exact loses_call_iff (Users.worded_login _ _ _) _ UserAnswer.token fun _ => rfl
  | createUser =>
      simp only [Endpoint.IsList, Endpoint.IsGuarded, false_and, false_or, true_imp_iff, true_and]
      refine loses_guarded_body_iff fun body hread => loses_form_iff hread fun credentials => ?_
      exact loses_call_iff (Users.worded_create _ _) _ UserAnswer.user fun _ => rfl
  | listUsers =>
      simp only [Endpoint.IsList, Endpoint.IsGuarded, Endpoint.IsRead, Endpoint.call?,
        true_imp_iff, true_and]
      refine loses_guarded_listing_iff fun listing => ?_
      exact loses_call_iff (Users.worded_list _ _) _ UserAnswer.page fun _ => rfl
  | findUser id =>
      simp only [Endpoint.IsList, Endpoint.IsGuarded, Endpoint.IsRead, false_and, false_or,
        true_imp_iff, true_and]
      refine loses_guarded_iff ?_
      exact loses_call_iff (Users.worded_findOne _) _ UserAnswer.user fun _ => rfl
  | updateUser id =>
      simp only [Endpoint.IsList, Endpoint.IsGuarded, false_and, false_or, true_imp_iff, true_and]
      refine loses_guarded_body_iff fun body hread => loses_form_iff hread fun credentials => ?_
      exact loses_call_iff (Users.worded_update _ _ _) _ UserAnswer.user fun _ => rfl
  | deleteUser id =>
      simp only [Endpoint.IsList, Endpoint.IsGuarded, Endpoint.IsRead, false_and, false_or,
        true_imp_iff, true_and]
      refine loses_guarded_iff ?_
      exact loses_call_iff (Users.worded_delete _) _ (fun _ => UserAnswer.deleted) fun _ => rfl
  | createCampaign =>
      simp only [Endpoint.IsList, Endpoint.IsGuarded, false_and, false_or, false_imp_iff, true_and]
      refine loses_body_iff fun body hread => loses_form_iff hread fun draft => ?_
      exact loses_call_iff (Campaigns.worded_create _ _) _ CampaignAnswer.campaign fun _ => rfl
  | listCampaigns =>
      simp only [Endpoint.IsList, Endpoint.IsGuarded, Endpoint.call?, false_and, false_or,
        false_imp_iff, true_and]
      refine loses_listing_iff fun listing => ?_
      exact loses_call_iff (Call.worded_ask _ _ _) _ CampaignAnswer.page fun _ => rfl
  | findCampaign id =>
      simp only [Endpoint.IsList, Endpoint.IsGuarded, Endpoint.call?, false_and, false_or,
        false_imp_iff, true_and]
      exact loses_call_iff (Campaigns.worded_findOne _) _ CampaignAnswer.campaign fun _ => rfl
  | updateCampaign id =>
      simp only [Endpoint.IsList, Endpoint.IsGuarded, false_and, false_or, false_imp_iff, true_and]
      refine loses_body_iff fun body hread => loses_form_iff hread fun draft => ?_
      exact loses_call_iff (Campaigns.worded_update _ _) _ CampaignAnswer.campaign fun _ => rfl
  | deleteCampaign id =>
      simp only [Endpoint.IsList, Endpoint.IsGuarded, Endpoint.call?, false_and, false_or,
        false_imp_iff, true_and]
      exact loses_call_iff (Campaigns.worded_delete _) _ (fun _ => CampaignAnswer.deleted)
        fun _ => rfl
  | health =>
      simp only [Endpoint.IsList, Endpoint.IsGuarded, false_and, false_or, false_imp_iff, true_and]
      exact iff_of_false (not_loses_pure _) not_breaks_none

end Server

/-! ## Answers of endpoints -/

theorem isPlain_dataAnswer {data : Json} (hdata : data.IsPlain) : (dataAnswer data).IsPlain := by
  simp [dataAnswer, success, hdata]

theorem isPlain_pageAnswer {α : Type} {write : α → Json} (hwrite : ∀ item, (write item).IsPlain)
    (page : Page α) : (pageAnswer write page).IsPlain := by
  simp [pageAnswer, success, hwrite]

theorem isPlain_deletedAnswer (id : String) : (deletedAnswer id).IsPlain := by
  simp [deletedAnswer, success]

theorem isPlain_writeUser (user : UserView) : (writeUser user).IsPlain := by
  simp [writeUser]

theorem isPlain_writeLogin (answer : LoginAnswer) : (writeLogin answer).IsPlain := by
  simp [writeLogin]

theorem isPlain_writeCampaign (campaign : Campaign) : (writeCampaign campaign).IsPlain := by
  unfold writeCampaign
  cases campaign.description with
  | none => simp
  | some text => simp

namespace Handling

variable {α β : Type} {first : Handling α} {next : α → Handling β} {good : β → Prop}

/-- Whatever value the handling gives is good. -/
def Gives (good : α → Prop) (handling : Handling α) : Prop :=
  ∀ state value, ((ExceptT.run handling).run state).1 = .ok value → good value

theorem gives_pure {good : α → Prop} {value : α} (hgood : good value) :
    Gives good (pure value : Handling α) := by
  intro state other hother
  cases hother
  exact hgood

theorem Gives.bind (hnext : ∀ value, Gives good (next value)) : Gives good (first >>= next) := by
  intro state result hresult
  rw [run_bind] at hresult
  rcases hfirst : (ExceptT.run first).run state with ⟨outcome, middle⟩
  rw [hfirst] at hresult
  cases outcome with
  | ok value => exact hnext value middle result hresult
  | error reason => cases hresult

end Handling

namespace Server

open Web.Handling

variable {server : Server} {now : Moment} {request : Request} {state : State}

/-- What an endpoint answers has been stored or computed by the service, so it can be sent. -/
theorem gives_serve (endpoint : Endpoint) :
    Gives Json.IsPlain (server.serve now request endpoint) := by
  have huser : ∀ user, Gives Json.IsPlain (pure (dataAnswer (writeUser user))) :=
    fun user => gives_pure (isPlain_dataAnswer (isPlain_writeUser user))
  have hcampaign : ∀ campaign, Gives Json.IsPlain (pure (dataAnswer (writeCampaign campaign))) :=
    fun campaign => gives_pure (isPlain_dataAnswer (isPlain_writeCampaign campaign))
  cases endpoint with
  | register => exact .bind fun _ => .bind fun _ => .bind huser
  | login =>
      refine .bind fun _ => .bind fun _ => .bind fun answer => ?_
      exact gives_pure (isPlain_dataAnswer (isPlain_writeLogin answer))
  | createUser => exact .bind fun _ => .bind fun _ => .bind fun _ => .bind huser
  | listUsers =>
      refine .bind fun _ => .bind fun _ => .bind fun page => ?_
      exact gives_pure (isPlain_pageAnswer isPlain_writeUser page)
  | findUser id => exact .bind fun _ => .bind huser
  | updateUser id => exact .bind fun _ => .bind fun _ => .bind fun _ => .bind huser
  | deleteUser id =>
      exact .bind fun _ => .bind fun _ => gives_pure (isPlain_deletedAnswer id)
  | createCampaign => exact .bind fun _ => .bind fun _ => .bind hcampaign
  | listCampaigns =>
      refine .bind fun _ => .bind fun page => ?_
      exact gives_pure (isPlain_pageAnswer isPlain_writeCampaign page)
  | findCampaign id => exact .bind hcampaign
  | updateCampaign id => exact .bind fun _ => .bind fun _ => .bind hcampaign
  | deleteCampaign id => exact .bind fun _ => gives_pure (isPlain_deletedAnswer id)
  | health => exact gives_pure (by simp)

/-- How an inner layer comes out: with an answer, or with a crash when the request crashes. -/
inductive Settles (crashes : Prop) : Except Halt Answer → Prop where
  | answered (answer : Answer) (hserved : ¬ crashes) : Settles crashes (.ok answer)
  | crashed (crash : Crash) (hcrashes : crashes) :
      Settles crashes (.error (.failure (.crashed crash)))

theorem settles_reason {reason : Halt} (debug : Bool) :
    Settles reason.Escapes
      (if reason.isCrash then .error reason else sendable (reason.answer debug)) := by
  cases hcrash : reason.isCrash with
  | true =>
      cases reason with
      | failure failure =>
          cases failure with
          | crashed crash => exact .crashed crash trivial
          | refused refusal => cases hcrash
      | _ => cases hcrash
  | false =>
      simp only [Bool.false_eq_true, if_false]
      by_cases hescapes : reason.Escapes
      · have hbroken : ¬ (reason.answer debug).content.IsPlain :=
          fun hplain => (Halt.isPlain_answer_iff hcrash debug).mp hplain hescapes
        obtain ⟨crash, hsendable⟩ := sendable_of_not_isPlain hbroken
        rw [hsendable]
        exact .crashed crash hescapes
      · rw [sendable_of_isPlain ((Halt.isPlain_answer_iff hcrash debug).mpr hescapes)]
        exact .answered _ hescapes

theorem settles_route (server : Server) (now : Moment) (request : Request) (state : State) :
    Settles (∃ endpoint, resolve request.method request.path = .endpoint endpoint ∧
        endpoint.Crashes server now request state)
      (server.route now request state).1 := by
  unfold route
  cases hresolve : resolve request.method request.path with
  | endpoint endpoint =>
      have hcrashes : (∃ other, Destination.endpoint endpoint = .endpoint other ∧
          other.Crashes server now request state) ↔
            Loses (server.serve now request endpoint) state := by
        simp [loses_serve_iff]
      rw [hcrashes]
      unfold Loses
      rcases hrun : (ExceptT.run (server.serve now request endpoint)).run state with
        ⟨outcome, after⟩
      simp only [hrun]
      cases outcome with
      | ok value =>
          have hplain : (Answer.ofJson 200 value).content.IsPlain :=
            gives_serve endpoint state value (by rw [hrun])
          change Settles _ (sendable (Answer.ofJson 200 value))
          rw [sendable_of_isPlain hplain]
          exact .answered _ nofun
      | error reason => simpa using settles_reason server.debug
  | wrongMethod allowed => exact .answered _ (by simp)
  | moved path => exact .answered _ (by simp)
  | nowhere => exact .answered _ (by simp)

end Server

end Web
end Roster
