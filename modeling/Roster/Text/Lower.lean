import Roster.Text.CaseTable
import Roster.Text.CodePoint

/-!
# Lower case

Two lower-casings. The ASCII one folds the letters A to Z; names in the store are compared under
it. The full one follows Unicode: the dotted capital I becomes two characters, and a capital sigma
becomes a final sigma where it ends a word.
-/

namespace Roster

def asciiLowerChar (c : Char) : Char :=
  if 'A' ≤ c ∧ c ≤ 'Z' then Char.ofNat (c.toNat + 0x20) else c

def asciiLower (text : String) : String :=
  String.ofList (text.toList.map asciiLowerChar)

/-- A cased letter decides whether a sigma beside it is final. -/
def isCased (c : Char) : Bool :=
  CaseTable.within CaseTable.casedRanges c.toNat

def isCaseIgnorable (c : Char) : Bool :=
  CaseTable.within CaseTable.ignorableRanges c.toNat

def lowerChar (c : Char) : List Char :=
  if c.toNat < 0x80 then [asciiLowerChar c]
  else if c.toNat == 0x130 then [Char.ofNat 0x69, Char.ofNat 0x307]
  else
    match CaseTable.lowerRuns.find? (·.contains c.toNat) with
    | some run => [Char.ofNat (run.target + (c.toNat - run.first))]
    | none => [c]

/-- Does the text begin with a cased letter, ignorable characters aside? -/
def startsCased (text : List Char) : Bool :=
  match text.dropWhile isCaseIgnorable with
  | [] => false
  | c :: _ => isCased c

/-- Lower-cases the rest of a text; `before` holds the characters already passed, nearest first. -/
def lowerFrom (before : List Char) : List Char → List Char
  | [] => []
  | c :: rest =>
    let lowered :=
      if c.toNat == 0x3A3 then
        if startsCased before && !startsCased rest then [Char.ofNat 0x3C2] else [Char.ofNat 0x3C3]
      else lowerChar c
    lowered ++ lowerFrom (c :: before) rest

def lower (text : String) : String :=
  String.ofList (lowerFrom [] text.toList)

namespace LooseText

/-- Lower-cases the runs of characters between surrogates; `run` holds the characters of the
current run, nearest first. -/
def lowerRuns (run : List Char) : LooseText → LooseText
  | [] => ofChars (lowerFrom [] run.reverse)
  | .char c :: rest => lowerRuns (c :: run) rest
  | point :: rest => ofChars (lowerFrom [] run.reverse) ++ point :: lowerRuns [] rest

/-- Unicode lower case. A surrogate is no letter, so each run of characters is lower-cased by
itself. -/
def lower (text : LooseText) : LooseText :=
  lowerRuns [] text

theorem lowerRuns_ofChars (run text : List Char) :
    lowerRuns run (ofChars text) = ofChars (lowerFrom [] (run.reverse ++ text)) := by
  induction text generalizing run with
  | nil => simp [ofChars, lowerRuns]
  | cons c rest ih =>
    show lowerRuns (c :: run) (ofChars rest) = _
    rw [ih]
    simp

theorem lower_ofString (text : String) : lower (ofString text) = ofString (Roster.lower text) := by
  simp [lower, ofString, Roster.lower, lowerRuns_ofChars]

end LooseText

end Roster
