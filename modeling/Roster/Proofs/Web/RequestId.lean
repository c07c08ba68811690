import Roster.Proofs.Web.Crashes
import Mathlib.Tactic

/-!
# Identifiers of requests

The outer layer returns the identifier of a request with every answer that comes from the layers
within: answers of endpoints, reports of refusals and of bad bodies, answers about paths, methods
and origins.  A crash leaves the outer layer too, and its report returns nothing.  So an identifier
comes back exactly when the request does not crash.
-/

namespace Roster.Web

/-- The answer has one header for the identifier of a request, and it is this identifier. -/
def Answer.Returns (id : String) (answer : Answer) : Prop :=
  answer.headers.filter (·.1 = "x-request-id") = [("x-request-id", id)]

theorem Answer.returns_withHeader (id : String) (answer : Answer) :
    (answer.withHeader "x-request-id" id).Returns id := by
  simp [Returns, withHeader, List.filter_append, List.filter_filter]

theorem Answer.not_returns_report (id : String) (status : Nat) (message : LooseText)
    (details : Json) : ¬ (report status message details).Returns id := by
  simp [Returns, report, ofJson]

namespace Server

theorem Settles.map {crashes : Prop} {outcome : Except Halt Answer}
    (hsettles : Settles crashes outcome) (change : Answer → Answer) :
    Settles crashes (outcome.map change) := by
  cases hsettles with
  | answered answer hserved => exact .answered _ hserved
  | crashed crash hcrashes => exact .crashed crash hcrashes

theorem settles_routeAcrossOrigins (server : Server) (now : Moment) (request : Request)
    (state : State) :
    Settles (request.Crashes server now state)
      (server.routeAcrossOrigins now request state).1 := by
  unfold routeAcrossOrigins Request.Crashes
  cases hpreflight : CrossOrigin.preflight? request with
  | some asked => exact .answered _ (by simp)
  | none =>
      simp only [true_and]
      exact (settles_route server now request state).map (CrossOrigin.confirm request)

/-- A request gets its identifier back, in one header, if and only if it does not crash.  A crash
is answered with a report that has no such header. -/
theorem request_id_returned_iff
    (server : Server) (now : Moment) (request : Request) (state : State) (id : String)
    (hid : request.header? "x-request-id" = some id) :
    ((server.respond now request state).1.Returns id ↔ ¬ request.Crashes server now state) ∧
      (request.Crashes server now state →
        ∃ details, (server.respond now request state).1 = report 500 halted details) := by
  have hrequestId : server.requestId request = id := by
    unfold requestId
    rw [hid]
    rfl
  have hsettles := settles_routeAcrossOrigins server now request state
  rw [respond_eq, hrequestId]
  cases houtcome : (server.routeAcrossOrigins now request state).1 with
  | ok answer =>
      rw [houtcome] at hsettles
      cases hsettles with
      | answered _ hserved =>
          exact ⟨iff_of_true (Answer.returns_withHeader id answer) hserved,
            fun hcrashes => absurd hcrashes hserved⟩
  | error reason =>
      rw [houtcome] at hsettles
      cases hsettles with
      | crashed crash hcrashes =>
          exact ⟨iff_of_false (Answer.not_returns_report id _ _ _) (not_not_intro hcrashes),
            fun _ => ⟨_, rfl⟩⟩

def healthCheck : Request where
  method := "GET"
  target := "/health"
  headers := [("x-request-id", "42")]

theorem not_crashes_healthCheck (server : Server) (now : Moment) (state : State) :
    ¬ healthCheck.Crashes server now state := by
  have hresolve : resolve healthCheck.method healthCheck.path = .endpoint .health := by
    decide +kernel
  rintro ⟨-, endpoint, hendpoint, hcrashes⟩
  rw [hresolve] at hendpoint
  cases hendpoint
  cases hcrashes with
  | parameters count hlists _ => exact hlists
  | token hguarded _ _ => exact hguarded
  | call _ hbreaks => exact Handling.not_breaks_none hbreaks

theorem request_id_returned_iff_health_check :
    healthCheck.header? "x-request-id" = some "42" ∧
      (exampleServer.respond 0 healthCheck {}).1.Returns "42" := by
  have hid : healthCheck.header? "x-request-id" = some "42" := rfl
  exact ⟨hid, (request_id_returned_iff exampleServer 0 healthCheck {} "42" hid).1.mpr
    (not_crashes_healthCheck exampleServer 0 {})⟩

/-- A campaign with a year that does not fit 64 bits. -/
def farFuture : Request where
  method := "POST"
  target := "/campaign"
  headers := [("content-type", "application/json"), ("x-request-id", "42")]
  body := utf8 "\x7b\"name\": \"summer\", \"year\": 9223372036854775808\x7d"

/-- The report of the crash has no identifier. -/
theorem far_future_loses_request_id :
    farFuture.header? "x-request-id" = some "42" ∧
      (exampleServer.respond 0 farFuture {}).1.header? "x-request-id" = none ∧
      ¬ (exampleServer.respond 0 farFuture {}).1.Returns "42" := by
  have hheaders : (exampleServer.respond 0 farFuture {}).1.headers =
      [("content-type", "application/json")] := by
    decide +kernel
  refine ⟨rfl, ?_, ?_⟩
  · rw [Answer.header?, hheaders]
    rfl
  · rw [Answer.Returns, hheaders]
    decide

end Server
end Roster.Web
