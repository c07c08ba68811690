import Roster.Text.Lower

/-!
# Patterns

In a pattern `%` stands for any run of characters and `_` for any single one. ASCII letters match
in either case. A pattern and a text end at their first null character, if they have one.
-/

namespace Roster.Pattern

/-- Does a character of a pattern, other than `%`, stand for a character of the text? -/
def fits (wanted c : Char) : Bool :=
  wanted = '_' || asciiLowerChar wanted = asciiLowerChar c

/-- From the answers for the rest of a pattern, one for each tail of the text, the answers for the
pattern with a `%` in front. -/
def afterAny : List Bool → List Bool
  | [] => []
  | answer :: later =>
    let rest := afterAny later
    (answer || rest.headD false) :: rest

def afterOne (wanted : Char) : List Char → List Bool → List Bool
  | c :: text, _ :: later =>
    (fits wanted c && later.headD false) :: afterOne wanted text later
  | _, _ => [false]

/-- Does a pattern match a tail of a text? One answer for each tail, the whole text first. -/
def tails : List Char → List Char → List Bool
  | [], text => text.map (fun _ => false) ++ [true]
  | '%' :: pattern, text => afterAny (tails pattern text)
  | c :: pattern, text => afterOne c text (tails pattern text)

/-- The part of a text that patterns see. -/
def visible (text : String) : List Char :=
  text.toList.takeWhile (· ≠ '\x00')

def isMatch (pattern text : String) : Bool :=
  (tails (visible pattern) (visible text)).headD false

end Roster.Pattern
