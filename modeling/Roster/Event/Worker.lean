import Roster.Event.Consumer
import Roster.Settings

/-!
# The worker

The worker consumes events until a stop signal arrives. Without brokers it has nothing to do and
reports a failure.
-/

namespace Roster

structure WorkerRun where
  exitCode : Nat
  calls : List ConsumerCall
  logs : List Log.Record

namespace Worker

def logger : String := "usercrud.worker"

def info (message : String) : Log.Record :=
  ⟨.info, logger, message⟩

/-- Runs the worker over the deliveries that arrive before the signal. The poll during which the
signal arrives brings nothing. -/
def run (settings : Settings) (deliveries : List (Option Delivery)) (signal : String) :
    WorkerRun :=
  if settings.brokers.isEmpty then
    { exitCode := 1
      calls := []
      logs := [⟨.error, logger, "KAFKA_BROKERS is not set, worker has nothing to consume"⟩] }
  else
    let consumed :=
      Consumer.run settings.topic Consumer.decodingHandler false (deliveries ++ [none])
    { exitCode := 0
      calls := consumed.calls
      logs :=
        info ("worker is running, topic=" ++ settings.topic ++ " group=" ++ settings.group) ::
          consumed.logs ++
          [info ("got stop signal " ++ signal ++ ", shutting down worker gracefully"),
            info ("worker stopped after " ++ toString consumed.handled ++ " message(s)")] }

end Worker

end Roster
