import Roster.Event.Message
import Roster.Log

/-!
# Sending events

Events are handed to the broker client one by one, each under its identifier, and then the client
is flushed once. Failed deliveries and events left in the queue are logged. The client itself is
assumed to take every event and to come back from every flush.
-/

namespace Roster

inductive ProducerCall where
  | produce (topic : String) (key value : Bytes)
  | flush
  deriving DecidableEq

/-- What the broker answers: an error for some of the events, and how many are left. -/
structure BrokerReply where
  deliveryErrors : List (Option String) := []
  remaining : Int := 0

structure Sending where
  calls : List ProducerCall
  logs : List Log.Record
  remaining : Int

namespace Producer

def logger : String := "usercrud.messaging"

def produceCall (topic : String) (event : Event) : ProducerCall :=
  .produce topic (utf8 event.id) (utf8 event.document)

def deliveryFailed (topic error : String) : Log.Record :=
  ⟨.error, logger, "delivery failed topic=" ++ topic ++ " error=" ++ error⟩

def stillQueued (topic : String) (remaining : Int) : Log.Record :=
  ⟨.warning, logger,
    intText remaining ++ " message(s) still queued for topic " ++ topic ++ " after flush"⟩

def send (topic : String) (reply : BrokerReply) (events : List Event) : Sending where
  calls := events.map (produceCall topic) ++ [.flush]
  logs :=
    ((reply.deliveryErrors.take events.length).filterMap id).map (deliveryFailed topic) ++
      if reply.remaining = 0 then [] else [stillQueued topic reply.remaining]
  remaining := reply.remaining

end Producer

end Roster
