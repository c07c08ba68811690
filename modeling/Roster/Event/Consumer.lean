import Roster.Event.Message
import Roster.Log

/-!
# Consuming events

The consumer polls a topic until it is told to stop. A delivery with a broker error is logged and
dropped. Any other delivery goes to a handler; when the handler succeeds the delivery is committed
at once, and when it fails the consumer goes on without a commit.
-/

namespace Roster

structure Delivery where
  brokerError : Option String := none
  value : Option Bytes := none

/-- What the consumer tells the broker client. Polls and commits count the polls from 0. -/
inductive ConsumerCall where
  | subscribe (topics : List String)
  | poll (index : Nat)
  | commit (index : Nat)
  | close
  deriving DecidableEq

structure Handling where
  succeeded : Bool
  logs : List Log.Record := []

/-- A handler sees how many deliveries it was called for before. -/
abbrev Handler := Nat → Delivery → Handling

namespace Consumer

def logger : String := "usercrud.messaging"

def brokerFailed (topic error : String) : Log.Record :=
  ⟨.error, logger, "consumer error on " ++ topic ++ ": " ++ error⟩

def handlerFailed (topic : String) : Log.Record :=
  ⟨.error, logger, "handler failed for message on " ++ topic⟩

def unreadable : Log.Record :=
  ⟨.error, logger, "error unmarshalling example event"⟩

def received (event : Event) : Log.Record :=
  ⟨.info, logger, "received example event " ++ event.logText⟩

def decode (value : Option Bytes) : Payload.Checked Event × List Log.Record :=
  match Event.ofBytes value with
  | .ok event => (.ok event, [received event])
  | .error problems => (.error problems, [unreadable])

def decodingHandler : Handler := fun _ delivery =>
  match decode delivery.value with
  | (.ok _, logs) => { succeeded := true, logs }
  | (.error _, logs) => { succeeded := false, logs }

/-- The state of the loop: counts of polls, of handler calls and of handled deliveries, and all
that was done so far. -/
structure State where
  polls : Nat := 0
  handlerCalls : Nat := 0
  handled : Nat := 0
  calls : List ConsumerCall := []
  logs : List Log.Record := []

def step (topic : String) (handler : Handler) (state : State) (result : Option Delivery) : State :=
  let index := state.polls
  let polled := { state with polls := index + 1, calls := state.calls ++ [.poll index] }
  match result with
  | none => polled
  | some delivery =>
    match delivery.brokerError with
    | some error => { polled with logs := polled.logs ++ [brokerFailed topic error] }
    | none =>
      let handling := handler state.handlerCalls delivery
      let tried := {
        polled with
        handlerCalls := state.handlerCalls + 1
        logs := polled.logs ++ handling.logs }
      if handling.succeeded then
        { tried with handled := state.handled + 1, calls := tried.calls ++ [.commit index] }
      else { tried with logs := tried.logs ++ [handlerFailed topic] }

/-- A whole run. The last poll is the one during which the stop signal arrives; when the consumer
is stopped from the start it never polls. -/
def run (topic : String) (handler : Handler) (stopped : Bool) (polls : List (Option Delivery)) :
    State :=
  let subscribed : State := { calls := [.subscribe [topic]] }
  let final := if stopped then subscribed else polls.foldl (step topic handler) subscribed
  { final with calls := final.calls ++ [.close] }

end Consumer

end Roster
