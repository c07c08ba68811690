import Roster.Number.Extended
import Roster.Number.Reading

/-!
# Numerals

A numeral is a text that a table takes for a number: a sign, digits with a point before, among or
after them, and an exponent, with ASCII blanks around all of it. Only the first eighteen or
nineteen digits count. A machine of extended width multiplies or divides them by a power of ten, so
the double that is found can differ from the nearest one in its last bit.
-/

namespace Roster

structure Numeral where
  negative : Bool
  whole : List Nat
  fraction : Option (List Nat)
  exponent : Option (Bool × List Nat)

namespace Numeral

def isBlank (c : Char) : Bool :=
  c = ' ' || ('\t' ≤ c && c ≤ '\r')

def leadingRun (text : List Char) : List Nat × List Char :=
  ((text.takeWhile Char.isDigit).map fun c => c.toNat - 0x30, text.dropWhile Char.isDigit)

def readFraction : List Char → Option (List Nat) × List Char
  | '.' :: rest => ((leadingRun rest).1, (leadingRun rest).2)
  | text => (none, text)

/-- Reads the exponent that is all of a text. An empty text has none. -/
def readExponent? : List Char → Option (Option (Bool × List Nat))
  | [] => some none
  | mark :: rest =>
    let (negative, body) := splitSign rest
    let (digits, rest) := leadingRun body
    if (mark = 'e' || mark = 'E') && !digits.isEmpty && rest.isEmpty then
      some (some (negative, digits))
    else none

def read? (text : List Char) : Option Numeral := do
  let (negative, body) := splitSign (trimBy isBlank text)
  let (whole, rest) := leadingRun body
  let (fraction, rest) := readFraction rest
  let exponent ← readExponent? rest
  if whole.isEmpty && (fraction.getD []).isEmpty then none
  else return { negative, whole, fraction, exponent }

def isWhole (numeral : Numeral) : Bool :=
  numeral.fraction.isNone && numeral.exponent.isNone

def integer (numeral : Numeral) : Int :=
  applySign numeral.negative (natOfDigits 10 numeral.whole)

/-- No digit counts after a significand has reached this. -/
def fullSignificand : Nat := 922337203685477579

/-- Appends digits to a significand until it is full; the second part counts those that are left
out. -/
def gather (significand : Nat) : List Nat → Nat × Nat
  | [] => (significand, 0)
  | digit :: rest =>
    if significand < fullSignificand then gather (significand * 10 + digit) rest
    else (significand, rest.length + 1)

/-- The number that the digits of an exponent denote, cut off far beyond all doubles. -/
def exponentValue (digits : List Nat) : Nat :=
  digits.foldl (fun value digit => if value < 10000 then value * 10 + digit else 10000) 0

/-- Moves a power of ten into a significand as far as it stays below the greatest integer. -/
def raised : (power significand : Nat) → Nat × Nat
  | 0, significand => (0, significand)
  | power + 1, significand =>
    if significand < maxInt64.toNat / 10 then raised power (significand * 10)
    else (power + 1, significand)

def reduced : (power significand : Nat) → Nat × Nat
  | 0, significand => (0, significand)
  | power + 1, significand =>
    if significand % 10 = 0 then reduced power (significand / 10) else (power + 1, significand)

/-- A power of ten, found by squaring. `square` is the power that the last bit of the exponent
stands for. -/
def powerFrom (found square : Extended) : (steps exponent : Nat) → Extended
  | 0, _ => found
  | steps + 1, exponent =>
    let found := if exponent % 2 = 1 then found.mul square else found
    if exponent / 2 = 0 then found else powerFrom found (square.mul square) steps (exponent / 2)

def powerOfTen (exponent : Nat) : Extended :=
  powerFrom ⟨1, 0⟩ ⟨10, 0⟩ 64 exponent

def nearest (negative divides : Bool) (a b : Extended) : Double :=
  let (p, q) := a.fraction
  let (r, s) := b.fraction
  if divides then Double.ofQuotient negative (p * s) (q * r)
  else Double.ofQuotient negative (p * r) (q * s)

def twiceRounded (negative divides : Bool) (a b : Extended) : Double :=
  nearest negative false (if divides then a.div b else a.mul b) ⟨1, 0⟩

/-- A significand multiplied or divided by a power of ten. Beyond the powers that a double can hold
this takes two steps. -/
def scaled (negative divides : Bool) (significand power : Nat) : Double :=
  if power ≤ 307 then twiceRounded negative divides ⟨significand, 0⟩ (powerOfTen power)
  else if power < 342 then
    match twiceRounded negative divides ⟨significand, 0⟩ (powerOfTen (power - 308)) with
    | .finite _ significand exponent =>
      nearest negative divides ⟨significand, exponent⟩ (Extended.constant 1 308)
    | other => other
  else if divides then Double.zero negative
  else .infinite negative

def double (numeral : Numeral) : Double :=
  let fraction := numeral.fraction.getD []
  let (whole, skipped) := gather 0 numeral.whole
  let (significand, unused) := gather whole fraction
  let written : Int :=
    (numeral.exponent.map fun part => applySign part.1 (exponentValue part.2)).getD 0
  let exponent := written + skipped - (fraction.length - unused : Nat)
  if significand = 0 then Double.zero numeral.negative
  else if 0 ≤ exponent then
    let (power, significand) := raised exponent.toNat significand
    scaled numeral.negative false significand power
  else
    let (power, significand) := reduced (-exponent).toNat significand
    scaled numeral.negative true significand power

end Numeral

end Roster
