import Roster.Json.Value
import Roster.Number.Reading
import Roster.Text.Encoding

/-!
# JSON tokens

A document is cut into tokens, each with the offset of its first character. What cannot be cut
becomes a token too: whether it is an error depends on what may stand at its place.
-/

namespace Roster.Json

inductive TextProblem where
  | unterminated
  | controlCharacter
  | badEscape
  | badUnicodeEscape
  deriving DecidableEq

inductive Token where
  | mark (c : Char)
  | constant (value : Json)
  | text (value : LooseText)
  /-- A real number with this many digits before its point. -/
  | real (digits : Nat) (value : Double)
  /-- An integer of more digits than most readings take. -/
  | longInteger (negative : Bool) (digits : List Char)
  | faultyText (problem : TextProblem) (offset : Nat)
  | stray

structure Placed where
  offset : Nat
  token : Token

def isSpace (c : Char) : Bool :=
  c = ' ' || c = '\t' || c = '\n' || c = '\r'

/-- A piece of a text: a code point as it is, or a unit of UTF-16 given by an escape. -/
inductive Piece where
  | plain (point : CodePoint)
  | unit (code : Nat)

/-- The text of pieces. Two surrogates are one code point only when both are escaped. -/
def joinPieces : List Piece → LooseText
  | [] => []
  | .plain point :: rest => point :: joinPieces rest
  | .unit high :: .unit low :: rest =>
    if isHighSurrogate high && isLowSurrogate low then .ofPair high low :: joinPieces rest
    else .ofNat high :: joinPieces (.unit low :: rest)
  | .unit code :: rest => .ofNat code :: joinPieces rest

def hexUnit? (digits : LooseText) : Option Nat :=
  (digits.mapM fun (point : CodePoint) => point.char?.bind hexDigit?).map (natOfDigits 16)

def simpleEscape? (point : CodePoint) : Option Char :=
  match point with
  | .char '"' => some '"'
  | .char '\\' => some '\\'
  | .char '/' => some '/'
  | .char 'b' => some '\x08'
  | .char 'f' => some '\x0c'
  | .char 'n' => some '\n'
  | .char 'r' => some '\r'
  | .char 't' => some '\t'
  | _ => none

inductive Scan where
  | done (pieces : List Piece) (width : Nat)
  | fault (problem : TextProblem) (offset : Nat)

/-- Scans a text up to its closing quote. `start` is the place of the opening quote, `width` the
number of code points passed since, that quote included; `seen` holds the pieces, newest first. -/
def scanText (start : Nat) (seen : List Piece) (width : Nat) : LooseText → Scan
  | [] => .fault .unterminated start
  | .char '"' :: _ => .done seen.reverse (width + 1)
  | [.char '\\'] => .fault .unterminated start
  | .char '\\' :: .char 'u' :: a :: b :: c :: d :: next :: rest =>
    match hexUnit? [a, b, c, d] with
    | some code => scanText start (.unit code :: seen) (width + 6) (next :: rest)
    | none => .fault .badUnicodeEscape (start + width + 1)
  | .char '\\' :: .char 'u' :: _ => .fault .badUnicodeEscape (start + width + 1)
  | .char '\\' :: letter :: rest =>
    match simpleEscape? letter with
    | some c => scanText start (.plain (.char c) :: seen) (width + 2) rest
    | none => .fault .badEscape (start + width)
  | point :: rest =>
    if point.code < 0x20 then .fault .controlCharacter (start + width)
    else scanText start (.plain point :: seen) (width + 1) rest

def textToken (offset : Nat) (afterQuote : LooseText) : Token × Nat :=
  match scanText offset [] 1 afterQuote with
  | .fault problem place => (.faultyText problem place, 1)
  | .done found width => (.text (joinPieces found), width)

structure NumberParts where
  negative : Bool
  whole : List Char
  fraction : Option (List Char)
  exponent : Option (Bool × List Char)
  width : Nat

/-- The digits after a point, if a point and a digit come first. -/
def fractionPart? : List Char → Option (List Char)
  | '.' :: rest =>
    let digits := rest.takeWhile Char.isDigit
    if digits.isEmpty then none else some digits
  | _ => none

/-- Sign, digits and width of an exponent, if a complete one comes first. -/
def exponentPart? : List Char → Option (Bool × List Char × Nat)
  | mark :: rest =>
    if mark = 'e' || mark = 'E' then
      let (negative, body) := splitSign rest
      let digits := body.takeWhile Char.isDigit
      if digits.isEmpty then none
      else some (negative, digits, 1 + (rest.length - body.length) + digits.length)
    else none
  | [] => none

/-- Cuts the longest number off a text. -/
def numberParts? (text : List Char) : Option NumberParts :=
  let (negative, body) :=
    match text with
    | '-' :: rest => (true, rest)
    | _ => (false, text)
  let run := body.takeWhile Char.isDigit
  let whole := if run.head? = some '0' then ['0'] else run
  if whole.isEmpty then none
  else
    let signWidth := if negative then 1 else 0
    let afterWhole := body.drop whole.length
    let fraction := fractionPart? afterWhole
    let fractionWidth := (fraction.map fun digits => digits.length + 1).getD 0
    let exponent := exponentPart? (afterWhole.drop fractionWidth)
    let exponentWidth := (exponent.map fun part => part.2.2).getD 0
    some {
      negative, whole, fraction
      exponent := exponent.map fun part => (part.1, part.2.1)
      width := signWidth + whole.length + fractionWidth + exponentWidth }

def decimalValue (digits : List Char) : Nat :=
  natOfDigits 10 (digits.map fun c => c.toNat - 0x30)

def NumberParts.token (parts : NumberParts) : Token :=
  match parts.fraction, parts.exponent with
  | none, none =>
    if maxIntegerDigits < parts.whole.length then .longInteger parts.negative parts.whole
    else .constant (.int (applySign parts.negative (decimalValue parts.whole)))
  | fraction, exponent =>
    let places := fraction.getD []
    let power : Int := (exponent.map fun part => applySign part.1 (decimalValue part.2)).getD 0
    .real parts.whole.length (Double.ofDecimal parts.negative (decimalValue (parts.whole ++ places))
      (power - places.length))

def words : List (LooseText × Json) :=
  [("null", .null), ("true", .bool true), ("false", .bool false), ("NaN", .real .nan),
    ("Infinity", .real (.infinite false)), ("-Infinity", .real (.infinite true))]

def numberLike : LooseText → List Char
  | .char c :: rest => if c.isDigit || "+-.eE".toList.contains c then c :: numberLike rest else []
  | _ => []

def firstToken (offset : Nat) (point : CodePoint) (rest : LooseText) : Token × Nat :=
  match point with
  | .surrogate _ => (.stray, 1)
  | .char c =>
    if "[]\x7b\x7d,:".toList.contains c then (.mark c, 1)
    else if c = '"' then textToken offset rest
    else
      match words.find? fun word => word.1.isPrefixOf (point :: rest) with
      | some (word, value) => (.constant value, word.length)
      | none =>
        match numberParts? (numberLike (point :: rest)) with
        | some parts => (parts.token, parts.width)
        | none => (.stray, 1)

/-- Cuts a text into tokens; `done` holds those already found, newest first. -/
def tokensFrom (offset : Nat) (done : List Placed) (text : LooseText) : List Placed :=
  match text with
  | [] => done.reverse
  | point :: rest =>
    if point.char?.any isSpace then tokensFrom (offset + 1) done rest
    else
      let (token, width) := firstToken offset point rest
      tokensFrom (offset + width) (⟨offset, token⟩ :: done) (rest.drop (width - 1))
termination_by text.length
decreasing_by
  · simp
  · simp only [List.length_drop, List.length_cons]; omega

def tokens (text : LooseText) : List Placed :=
  tokensFrom 0 [] text

end Roster.Json
