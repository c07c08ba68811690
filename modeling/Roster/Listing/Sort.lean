import Roster.Listing.Error
import Roster.Text.Pieces

/-!
# Sort keys

A sort text is a list of tokens `column:direction` joined by commas. A token counts when a colon
stands between two word characters; others are skipped. The last counting token wins.
-/

namespace Roster.Listing

inductive Direction where
  | ascending
  | descending
  deriving DecidableEq

def Direction.name : Direction → String
  | .ascending => "asc"
  | .descending => "desc"

def Direction.ofName (name : String) : Except Error Direction :=
  if name = "asc" then .ok .ascending
  else if name = "desc" then .ok .descending
  else .error (.invalid name)

structure SortKey where
  column : String
  direction : Direction
  deriving DecidableEq

namespace SortKey

/-- The key with two given names. Without either name nothing is sorted, and every name but `asc`
sorts downwards. -/
def ofNames (column direction : String) : Option SortKey :=
  if column.isEmpty || direction.isEmpty then none
  else some { column, direction := if direction = "asc" then .ascending else .descending }

/-- Does a colon stand between two word characters? -/
def counts : List Char → Bool
  | before :: ':' :: after :: rest =>
    (isWord before && isWord after) || counts (':' :: after :: rest)
  | _ :: rest => counts rest
  | [] => false

def ofToken (token : List Char) : Except Error SortKey :=
  match pieces ':' token with
  | [column, direction] => do
    let direction ← Direction.ofName (String.ofList direction)
    return { column := String.ofList column, direction }
  | _ => .error (.invalid "sort")

/-- Takes the tokens in order; `current` is the key of the last one that counted. -/
def parseTokens (current : Option SortKey) : List (List Char) → Except Error (Option SortKey)
  | [] => .ok current
  | token :: rest =>
    if counts token then do
      let key ← ofToken token
      parseTokens (some key) rest
    else parseTokens current rest

def parse (raw : Option String) : Except Error (Option SortKey) :=
  parseTokens none (pieces ',' (raw.getD "").toList)

end SortKey

end Roster.Listing
