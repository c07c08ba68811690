import Roster.Text.Pieces
import Roster.Text.Digit

/-!
# Hosts

The host that a request names is a registered name or an address in brackets, and a port may follow
it. An address has eight groups of hexadecimal digits. A gap, written as two colons, stands for one
or more groups of zeros, and the last two groups may be written as four decimal numbers. Main
definition: `isHost`.
-/

namespace Roster.Web.Host

def isUnreserved (c : Char) : Bool :=
  c.isAlphanum || "-._~".toList.contains c

def isDelimiter (c : Char) : Bool :=
  "!$&'()*+,;=".toList.contains c

/-- Is a text a registered name? A percent sign is taken whatever follows it. -/
def isName (text : List Char) : Bool :=
  !text.isEmpty && text.all fun c => isUnreserved c || isDelimiter c || c = '%'

def decimal (text : List Char) : Nat :=
  natOfDigits 10 (text.map fun c => c.toNat - 0x30)

/-- Is a text a decimal number of one byte, without zeros in front? -/
def isByte (text : List Char) : Bool :=
  !text.isEmpty && text.all Char.isDigit && (text.length = 1 || text.head? ≠ some '0') &&
    decimal text ≤ 255

def isDecimalAddress (text : List Char) : Bool :=
  (pieces '.' text).length = 4 && (pieces '.' text).all isByte

def isGroup (text : List Char) : Bool :=
  !text.isEmpty && text.length ≤ 4 && text.all (hexDigit? · |>.isSome)

/-- The number of groups that the parts of an address stand for. The last part may be an address of
decimal numbers, which stands for two. -/
def groupCount? : List (List Char) → Option Nat
  | [] => some 0
  | [last] => if isGroup last then some 1 else if isDecimalAddress last then some 2 else none
  | part :: rest => if isGroup part then (groupCount? rest).map (· + 1) else none

def cutGap? : List Char → Option (List Char × List Char)
  | [] => none
  | ':' :: ':' :: rest => some ([], rest)
  | c :: rest => (cutGap? rest).map fun (before, after) => (c :: before, after)

def parts (text : List Char) : List (List Char) :=
  if text.isEmpty then [] else pieces ':' text

def isGroupAddress (text : List Char) : Bool :=
  match cutGap? text with
  | none => groupCount? (parts text) = some 8
  | some (before, after) =>
    (parts before).all isGroup &&
      (groupCount? (parts after)).any fun count => (parts before).length + count < 8

/-- Is a text an address of a later kind? It starts with the number of its kind. -/
def isLaterAddress (text : List Char) : Bool :=
  match text with
  | 'v' :: versioned =>
    match cutFirst? '.' versioned with
    | some (version, address) =>
      !version.isEmpty && version.all (hexDigit? · |>.isSome) && !address.isEmpty &&
        address.all fun c => isUnreserved c || isDelimiter c || c = ':'
    | none => false
  | _ => false

def isBareHost (text : List Char) : Bool :=
  match text with
  | '[' :: rest =>
    match cutLast? ']' rest with
    | some (address, []) => isGroupAddress address || isLaterAddress address
    | _ => false
  | _ => isName text

def maxPort : Nat := 65535

def isPort (text : List Char) : Bool :=
  !text.isEmpty && text.all Char.isDigit && decimal text ≤ maxPort

def isHost (text : List Char) : Bool :=
  isBareHost text ||
    match cutLast? ':' text with
    | some (host, port) => isBareHost host && isPort port
    | none => false

end Roster.Web.Host
