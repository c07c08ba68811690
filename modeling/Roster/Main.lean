import Roster.Event.Worker

/-!
# The command line

`worker` consumes the events on the standard input, one a line, and prints what it logs. `address`
prints where the server listens. The settings come from the environment.
-/

namespace Roster.CommandLine

def readEnvironment : IO (List (String × String)) :=
  Settings.variableNames.filterMapM fun name => do
    return (← IO.getEnv name).map (name, ·)

partial def readLines (input : IO.FS.Stream) (lines : List String) : IO (List String) := do
  let line ← input.getLine
  if line.isEmpty then return lines.reverse
  readLines input (line.trimAsciiEnd.toString :: lines)

def runWorker (settings : Settings) : IO UInt32 := do
  let lines ← readLines (← IO.getStdin) []
  let deliveries := lines.map fun line => some { value := some (utf8 line) : Delivery }
  let run := Worker.run settings deliveries "SIGTERM"
  for record in run.logs do
    IO.print (record.line "worker")
  return UInt32.ofNat run.exitCode

end Roster.CommandLine

open Roster CommandLine in
def main (arguments : List String) : IO UInt32 := do
  match Settings.ofEnvironment (← readEnvironment) with
  | .error error =>
    IO.eprintln error.message
    return 1
  | .ok settings =>
    match arguments with
    | ["worker"] => runWorker settings
    | ["address"] =>
      let (host, port) := settings.listenAddress
      IO.println (host ++ ":" ++ intText port)
      return 0
    | _ =>
      IO.eprintln "usage: roster worker|address"
      return 2
