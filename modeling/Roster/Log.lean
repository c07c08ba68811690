import Roster.Text.Pieces

/-!
# Logging

Records go to the standard output and, when a directory is configured, to the file `app.log` in
it. A record below the threshold goes nowhere. Setting up anew replaces the threshold and the
sinks; files keep what they hold.
-/

namespace Roster.Log

inductive Level where
  | debug
  | info
  | warning
  | error
  | critical
  deriving DecidableEq

def Level.name : Level → String
  | .debug => "DEBUG"
  | .info => "INFO"
  | .warning => "WARNING"
  | .error => "ERROR"
  | .critical => "CRITICAL"

def Level.rank : Level → Nat
  | .debug => 10
  | .info => 20
  | .warning => 30
  | .error => 40
  | .critical => 50

structure Record where
  level : Level
  logger : String
  message : String
  deriving DecidableEq

/-- The name that a logger is shown under. The one without a name is the root of all others. -/
def Record.loggerName (record : Record) : String :=
  if record.logger.isEmpty then "root" else record.logger

def Record.line (place : String) (record : Record) : String :=
  record.level.name ++ " " ++ record.loggerName ++ " " ++ place ++ " " ++ record.message ++ "\n"

/-- The least level that is logged: in production warnings, else information or all. -/
def leastLevel (environment : String) (debug : Bool) : Level :=
  if environment = "production" then .warning
  else if debug then .debug
  else .info

structure Sinks where
  threshold : Level := .warning
  count : Nat := 0
  file : Option String := none
  stdout : List Record := []
  files : List (String × List Record) := []

/-- Appends records to a file, which is created if it does not exist. -/
def appendTo (path : String) (records : List Record) :
    List (String × List Record) → List (String × List Record)
  | [] => [(path, records)]
  | (other, held) :: rest =>
    if other = path then (other, held ++ records) :: rest
    else (other, held) :: appendTo path records rest

def Sinks.log (sinks : Sinks) (record : Record) : Sinks :=
  if record.level.rank < sinks.threshold.rank || sinks.count = 0 then sinks
  else
    { sinks with
      stdout := sinks.stdout ++ [record]
      files := match sinks.file with
        | some path => appendTo path [record] sinks.files
        | none => sinks.files }

/-- A path without empty parts and without parts that stay where they are. -/
def tidyPath (path : String) : String :=
  let parts := (pieces '/' path.toList).filter fun part => part ≠ [] && part ≠ ['.']
  let body := String.ofList (joinPieces '/' parts)
  if path.startsWith "/" then "/" ++ body
  else if body.isEmpty then "."
  else body

/-- The parts of a path of which those that lead back have taken away the part before; `kept`
holds the parts before, nearest first. -/
def resolveParts (kept : List (List Char)) : List (List Char) → List (List Char)
  | [] => kept.reverse
  | part :: rest =>
    let next :=
      if part = ['.', '.'] then
        match kept with
        | [] => [part]
        | last :: outer =>
          -- nothing lies above the root, whose part is empty
          if last.isEmpty then kept else if last = part then part :: kept else outer
      else part :: kept
    resolveParts next rest

def resolvePath (path : String) : String :=
  String.ofList (joinPieces '/' (resolveParts [] (pieces '/' path.toList)))

/-- Sets the sinks up and says so. `directory` is the log directory, if there is one. -/
def Sinks.setUp (sinks : Sinks) (environment : String) (debug : Bool) (directory : Option String) :
    Sinks :=
  let spelt := directory.map fun path => tidyPath path ++ "/app.log"
  let file := spelt.map resolvePath
  let fresh : Sinks := {
    threshold := leastLevel environment debug
    count := if file.isSome then 2 else 1
    file
    stdout := []
    files := match file with
      | some path => appendTo path [] sinks.files
      | none => sinks.files }
  let message :=
    match spelt with
    | some path => "logging to stdout and " ++ path
    | none => "logging to stdout only, set LOG_PATH to also log to a file"
  fresh.log ⟨.info, "usercrud", message⟩

end Roster.Log
