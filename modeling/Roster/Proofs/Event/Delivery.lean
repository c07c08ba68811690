import Roster.Proofs.Event.Redelivery
import Roster.Proofs.Event.Wire

/-!
# From the producer to the consumer

The producer hands every event to the broker as a key and a value.  Wherever the values arrive in
their order, decoding them gives the events back, and a consumer that polls them handles and
reports each event once, whatever empty polls and broker errors come in between.
-/

namespace Roster
namespace Consumer

variable {topic : String} {result : Option Delivery} {delivery : Delivery} {state : State}
  {event : Event} {events : List Event}

/-! ## Reading what arrives -/

/-- The consumer has handled exactly the events, and has reported them in their order. -/
structure Caught (events : List Event) (state : State) : Prop where
  handled : state.handled = events.length
  reported : state.logs.filter (·.level = .info) = events.map received

theorem caught_subscribed (topic : String) :
    Caught [] { calls := [.subscribe [topic]] } where
  handled := rfl
  reported := rfl

theorem Caught.step_skipped (hcaught : Caught events state)
    (hskipped : message? result = none) :
    Caught events (step topic decodingHandler state result) := by
  cases result with
  | none => exact ⟨hcaught.handled, hcaught.reported⟩
  | some delivery =>
      cases herror : delivery.brokerError with
      | none => simp [message?, herror] at hskipped
      | some error =>
          refine ⟨?_, ?_⟩
          · simp [step, herror, hcaught.handled]
          · simp [step, herror, brokerFailed, hcaught.reported]

theorem Caught.step_message (hcaught : Caught events state)
    (hmessage : message? result = some delivery)
    (hevent : (decode delivery.value).1 = .ok event) :
    Caught (events ++ [event]) (step topic decodingHandler state result) := by
  obtain ⟨rfl, hfine⟩ : result = some delivery ∧ delivery.brokerError = none := by
    simpa [message?] using hmessage
  have hdecode : decode delivery.value = (.ok event, [received event]) := by
    unfold decode at hevent ⊢
    cases hread : Event.ofBytes delivery.value with
    | ok found =>
        rw [hread] at hevent
        cases hevent
        rfl
    | error problems =>
        rw [hread] at hevent
        cases hevent
  refine ⟨?_, ?_⟩
  · simp [step, hfine, decodingHandler, hdecode, hcaught.handled]
  · have hlevel : (received event).level = .info := rfl
    simp [step, hfine, decodingHandler, hdecode, hlevel, hcaught.reported]

theorem Caught.foldl {polls : List (Option Delivery)} {before : List Event}
    (hcaught : Caught before state)
    (hreadable : List.Forall₂ (fun delivery event => (decode delivery.value).1 = .ok event)
      (messages polls) events) :
    Caught (before ++ events) (polls.foldl (step topic decodingHandler) state) := by
  induction polls generalizing before events state with
  | nil =>
      cases hreadable
      simpa using hcaught
  | cons result polls hpolls =>
      cases hmessage : message? result with
      | none =>
          rw [messages, List.filterMap_cons_none hmessage] at hreadable
          exact hpolls (hcaught.step_skipped hmessage) hreadable
      | some delivery =>
          rw [messages, List.filterMap_cons_some hmessage] at hreadable
          obtain ⟨event, others, hevent, hothers, rfl⟩ := List.forall₂_cons_left_iff.mp hreadable
          simpa using hpolls (hcaught.step_message hmessage hevent) hothers

theorem caught_run {polls : List (Option Delivery)}
    (hreadable : List.Forall₂ (fun delivery event => (decode delivery.value).1 = .ok event)
      (messages polls) events) :
    Caught events (run topic decodingHandler false polls) := by
  have hpolled : Caught ([] ++ events)
      (polls.foldl (step topic decodingHandler) { calls := [.subscribe [topic]] }) :=
    (caught_subscribed topic).foldl hreadable
  exact ⟨hpolled.handled, hpolled.reported⟩

end Consumer

/-! ## Reading what was sent -/

namespace Producer

variable {events : List Event}

def record (event : Event) : Bytes × Bytes :=
  (utf8 event.id, utf8 event.document)

theorem calls_send (topic : String) (reply : BrokerReply) (events : List Event) :
    (send topic reply events).calls =
      (events.map record).map (fun (key, value) => .produce topic key value) ++ [.flush] := by
  simp [send, record, produceCall, Function.comp_def]

/-- Every event is produced once and in its order, and the values that are produced decode into
the events. -/
theorem sent_events_read_back (topic : String) (reply : BrokerReply) (events : List Event)
    (hyears : ∀ event ∈ events, fitsInt64 event.year) :
    ∃ records : List (Bytes × Bytes),
      (send topic reply events).calls =
        records.map (fun (key, value) => .produce topic key value) ++ [.flush] ∧
      records.map Prod.fst = events.map (fun event => utf8 event.id) ∧
      records.mapM (fun (_, value) => (Consumer.decode (some value)).1) = .ok events := by
  refine ⟨events.map record, calls_send topic reply events, by simp [record], ?_⟩
  rw [Outcome.mapM_eq_ok_iff, List.forall₂_map_left_iff, List.forall₂_same]
  intro event hevent
  exact congrArg Prod.fst (Consumer.decode_document (hyears event hevent))

def awkward : List Event :=
  [⟨"\"1\\", "n\u0000\n\t\u001f/", -9223372036854775808, "created"⟩,
    ⟨"", "\u007f\u2028é𝄞", 9223372036854775807, "\x7b\"id\":1,\x7d"⟩]

theorem sent_events_read_back_awkward :
    (∀ event ∈ awkward, fitsInt64 event.year = true) ∧
      ∃ records : List (Bytes × Bytes),
        (send "example" {} awkward).calls =
          records.map (fun (key, value) => .produce "example" key value) ++ [.flush] ∧
        records.map Prod.fst = awkward.map (fun event => utf8 event.id) ∧
        records.mapM (fun (_, value) => (Consumer.decode (some value)).1) = .ok awkward := by
  have hyears : ∀ event ∈ awkward, fitsInt64 event.year = true := by decide
  exact ⟨hyears, sent_events_read_back "example" {} awkward hyears⟩

/-- A consumer that polls the values in their order handles and reports every event. -/
theorem sent_events_handled {topic : String} {polls : List (Option Delivery)}
    (hyears : ∀ event ∈ events, fitsInt64 event.year)
    (hpolls : (Consumer.messages polls).map (·.value) =
      events.map fun event => some (record event).2) :
    Consumer.Caught events (Consumer.run topic Consumer.decodingHandler false polls) := by
  apply Consumer.caught_run
  have hvalues : List.Forall₂ (fun value event => (Consumer.decode value).1 = .ok event)
      ((Consumer.messages polls).map (·.value)) events := by
    rw [hpolls, List.forall₂_map_left_iff, List.forall₂_same]
    intro event hevent
    rw [record, Consumer.decode_document (hyears event hevent)]
  exact List.forall₂_map_left_iff.mp hvalues

end Producer
end Roster
