import Roster.Listing.Error
import Roster.Text.Pieces

/-!
# Filters

A filter text is a list of tokens `column:value:operator` joined by bars. A token counts when a
word character stands directly before one colon and another directly after a later colon, with
something between the two colons; others are skipped. Every counting token must be well formed.
-/

namespace Roster.Listing

inductive Relation where
  | equal
  | less
  | greater
  | atMost
  | atLeast
  | oneOf
  | like
  | is
  | noneOf
  /-- A relation that no operator stands for; it is refused when the filter is applied. -/
  | unknown (symbol : String)
  deriving DecidableEq

namespace Relation

def symbol : Relation → String
  | .equal => "="
  | .less => "<"
  | .greater => ">"
  | .atMost => "<="
  | .atLeast => ">="
  | .oneOf => "in"
  | .like => "like"
  | .is => "is"
  | .noneOf => "not in"
  | .unknown symbol => symbol

def operators : List (String × Relation) :=
  [("eq", .equal), ("lt", .less), ("gt", .greater), ("lte", .atMost), ("gte", .atLeast),
    ("in", .oneOf), ("like", .like), ("is", .is), ("not", .noneOf)]

def ofOperator (name : String) : Except Error Relation :=
  match operators.find? (·.1 == name) with
  | some (_, relation) => .ok relation
  | none => .error (.invalid name)

def operator? (relation : Relation) : Option String :=
  (operators.find? (·.2 == relation)).map (·.1)

def ofSymbol (symbol : String) : Relation :=
  match operators.find? (·.2.symbol == symbol) with
  | some (_, relation) => relation
  | none => .unknown symbol

end Relation

structure Filter where
  column : String
  value : String
  relation : Relation
  deriving DecidableEq

namespace Filter

/-- Does a word character stand directly after some colon? -/
def endsInWord : List Char → Bool
  | ':' :: after :: rest => isWord after || endsInWord (after :: rest)
  | _ :: rest => endsInWord rest
  | [] => false

/-- Does the token look like `column:value:operator` anywhere? -/
def counts : List Char → Bool
  | before :: ':' :: rest =>
    (isWord before && endsInWord (rest.drop 1)) || counts (':' :: rest)
  | _ :: rest => counts rest
  | [] => false

def ofToken (token : List Char) : Except Error Filter :=
  match pieces ':' token with
  | [column, value, operator] => do
    let relation ← Relation.ofOperator (String.ofList operator)
    return { column := String.ofList column, value := String.ofList value, relation }
  | _ => .error (.invalid (String.ofList token))

def parse (raw : Option String) : Except Error (List Filter) :=
  ((pieces '|' (raw.getD "").toList).filter counts).mapM ofToken

/-- The token that a filter is written as; a relation without a name has none. -/
def token? (filter : Filter) : Option (List Char) :=
  filter.relation.operator?.map fun operator =>
    filter.column.toList ++ ':' :: filter.value.toList ++ ':' :: operator.toList

def write? (filters : List Filter) : Option String :=
  (filters.mapM token?).map fun tokens => String.ofList (joinPieces '|' tokens)

end Filter

end Roster.Listing
