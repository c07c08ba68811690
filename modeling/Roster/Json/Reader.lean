import Roster.Json.Token

/-!
# Reading JSON

The reader is a machine that takes one token at a time. It keeps the open lists and objects on a
stack and knows what may come next, so a fault has the offset of the first character that cannot
stand at its place. The tolerant reading of request bodies and tokens refuses very long integers
and deep nesting, unless it is asked to take integers of any length. The strict reading of events
also refuses unpaired surrogates, very long real numbers and all but shallow nesting.
-/

namespace Roster.Json

inductive Problem where
  | expectingValue
  | expectingName
  | expectingColon
  | expectingComma
  | extraData
  | unexpectedByteOrderMark
  | text (problem : TextProblem)
  deriving DecidableEq

def Problem.message : Problem → String
  | .expectingValue => "Expecting value"
  | .expectingName => "Expecting property name enclosed in double quotes"
  | .expectingColon => "Expecting ':' delimiter"
  | .expectingComma => "Expecting ',' delimiter"
  | .extraData => "Extra data"
  | .unexpectedByteOrderMark => "Unexpected UTF-8 BOM (decode using utf-8-sig)"
  | .text .unterminated => "Unterminated string starting at"
  | .text .controlCharacter => "Invalid control character at"
  | .text .badEscape => "Invalid \\escape"
  | .text .badUnicodeEscape => "Invalid \\uXXXX escape"

inductive Container where
  | list
  | object
  deriving DecidableEq

def Container.word : Container → String
  | .list => "array"
  | .object => "object"

inductive Fault where
  | malformed (problem : Problem) (offset : Nat)
  | tooManyDigits (count : Nat)
  | tooDeep (container : Container)
  deriving DecidableEq

/-- A list or an object that is still open; its contents are kept newest first. -/
inductive Frame where
  | list (items : List Json)
  | object (fields : Fields) (name : LooseText)

def Frame.container : Frame → Container
  | .list _ => .list
  | .object .. => .object

inductive Expecting where
  | value
  /-- A value, or the end of the list just opened. -/
  | firstItem
  | name
  /-- A name, or the end of the object just opened. -/
  | firstName
  | colon
  | separator
  | nothing (document : Json)

structure Machine where
  stack : List Frame := []
  expecting : Expecting := .value

def Machine.put (stack : List Frame) (value : Json) : Machine :=
  match stack with
  | [] => { stack := [], expecting := .nothing value }
  | .list items :: outer => { stack := .list (value :: items) :: outer, expecting := .separator }
  | .object fields name :: outer =>
    { stack := .object ((name, value) :: fields) name :: outer, expecting := .separator }

def Frame.close : Frame → Json
  | .list items => .list items.reverse
  | .object fields _ => .object fields.reverse

def unexpected (problem : Problem) (placed : Placed) : Except Fault Machine :=
  .error (.malformed problem placed.offset)

inductive Depth where
  /-- So many lists and objects may be open at once. -/
  | opened (count : Nat)
  /-- So many lists and objects that hold something may be open at once. -/
  | filled (count : Nat)

structure Limits where
  depth : Depth
  longIntegers : Bool := false

def Token.container? : Token → Option Container
  | .mark '[' => some .list
  | .mark '\x7b' => some .object
  | _ => none

/-- The list or object that is one too many when a value starts with the token. -/
def Depth.excess? (depth : Depth) (stack : List Frame) (token : Token) : Option Container :=
  match depth with
  | .opened count => if count ≤ stack.length then token.container? else none
  | .filled count => if count < stack.length then stack.head?.map Frame.container else none

def startValue (limits : Limits) (stack : List Frame) (placed : Placed) : Except Fault Machine :=
  match limits.depth.excess? stack placed.token with
  | some container => .error (.tooDeep container)
  | none =>
    match placed.token with
    | .mark '[' => .ok { stack := .list [] :: stack, expecting := .firstItem }
    | .mark '\x7b' => .ok { stack := .object [] [] :: stack, expecting := .firstName }
    | .constant value => .ok (.put stack value)
    | .text value => .ok (.put stack (.text value))
    | .real _ value => .ok (.put stack (.real value))
    | .longInteger negative digits =>
      if limits.longIntegers then .ok (.put stack (.int (applySign negative (decimalValue digits))))
      else .error (.tooManyDigits digits.length)
    | .faultyText problem offset => .error (.malformed (.text problem) offset)
    | _ => unexpected .expectingValue placed

def startName (stack : List Frame) (placed : Placed) : Except Fault Machine :=
  match placed.token, stack with
  | .text name, .object fields _ :: outer =>
    .ok { stack := .object fields name :: outer, expecting := .colon }
  | .faultyText problem offset, _ => .error (.malformed (.text problem) offset)
  | _, _ => unexpected .expectingName placed

def Machine.step (limits : Limits) (machine : Machine) (placed : Placed) : Except Fault Machine :=
  match machine.expecting with
  | .value => startValue limits machine.stack placed
  | .firstItem =>
    match placed.token, machine.stack with
    | .mark ']', frame :: outer => .ok (.put outer frame.close)
    | _, stack => startValue limits stack placed
  | .name => startName machine.stack placed
  | .firstName =>
    match placed.token, machine.stack with
    | .mark '\x7d', frame :: outer => .ok (.put outer frame.close)
    | _, stack => startName stack placed
  | .colon =>
    match placed.token with
    | .mark ':' => .ok { machine with expecting := .value }
    | _ => unexpected .expectingColon placed
  | .separator =>
    match placed.token, machine.stack with
    | .mark ',', .list _ :: _ => .ok { machine with expecting := .value }
    | .mark ',', .object .. :: _ => .ok { machine with expecting := .name }
    | .mark ']', .list items :: outer => .ok (.put outer (Frame.list items).close)
    | .mark '\x7d', .object fields name :: outer =>
      .ok (.put outer (Frame.object fields name).close)
    | _, _ => unexpected .expectingComma placed
  | .nothing _ => unexpected .extraData placed

def Machine.finish (machine : Machine) (offset : Nat) : Except Fault Json :=
  match machine.expecting with
  | .nothing document => .ok document
  | .value | .firstItem => .error (.malformed .expectingValue offset)
  | .name | .firstName => .error (.malformed .expectingName offset)
  | .colon => .error (.malformed .expectingColon offset)
  | .separator => .error (.malformed .expectingComma offset)

def Machine.run (limits : Limits) (length : Nat) (machine : Machine) :
    List Placed → Except Fault Json
  | [] => machine.finish length
  | placed :: rest =>
    match machine.step limits placed with
    | .ok next => next.run limits length rest
    | .error fault => .error fault

def tolerant : Limits where
  depth := .opened 990

def anyInteger : Limits :=
  { tolerant with longIntegers := true }

def strict : Limits where
  depth := .filled 200

def read (text : LooseText) (limits : Limits := tolerant) : Except Fault Json :=
  Machine.run limits text.length {} (tokens text)

/-- The tolerant reading of a text, in which a byte order mark has no place. -/
def readText (text : LooseText) : Except Fault Json :=
  if text.head?.any fun point => point.code = 0xFEFF then
    .error (.malformed .unexpectedByteOrderMark 0)
  else read text

def Token.isStrict : Token → Bool
  | .text value => value.all CodePoint.isChar
  | .real digits _ => digits ≤ maxIntegerDigits
  | _ => true

/-- The strict reading, which tells no cause of a failure. -/
def readStrict? (text : LooseText) : Option Json :=
  let found := tokens text
  if found.all fun placed => placed.token.isStrict then
    (Machine.run strict text.length {} found).toOption
  else none

/-- The line and the column of an offset, both from 1. -/
def position (text : LooseText) (offset : Nat) : Nat × Nat :=
  let before := text.take offset
  (before.count (.char '\n') + 1, (before.reverse.takeWhile (· ≠ .char '\n')).length + 1)

def Fault.message (text : LooseText) : Fault → String
  | .malformed problem offset =>
    let (line, column) := position text offset
    problem.message ++ ": line " ++ toString line ++ " column " ++ toString column ++ " (char " ++
      toString offset ++ ")"
  | .tooManyDigits count => tooManyDigitsMessage count
  | .tooDeep container =>
    "maximum recursion depth exceeded while decoding a JSON " ++ container.word ++
      " from a unicode string"

end Roster.Json
