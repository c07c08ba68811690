import Roster.Listing.Filter
import Roster.Table.Kind
import Roster.Table.Pattern

/-!
# Conditions

A filter on a column becomes a condition on the cells of that column. The value of the filter is
read according to what the column holds; a value that cannot be read is refused, and so is an
unknown relation. Main definition: `Condition.holds`, which keeps no row in which a comparison has
no answer.
-/

namespace Roster

inductive Condition where
  | equal (value : Cell)
  | less (value : Cell)
  | greater (value : Cell)
  | atMost (value : Cell)
  | atLeast (value : Cell)
  | oneOf (values : List Cell)
  | noneOf (values : List Cell)
  | like (pattern : String)
  /-- The cell holds the value, or is empty when the value is. -/
  | is (value : Cell)
  deriving DecidableEq

namespace Condition

/-- Is the condition true of a cell? An empty list excludes nothing, not even an empty cell. -/
def holds : Condition → Cell → Bool
  | .equal value, cell => cell.same value
  | .less value, cell => cell.compare? value = some .lt
  | .greater value, cell => cell.compare? value = some .gt
  | .atMost value, cell => ((cell.compare? value).map Ordering.isLE).getD false
  | .atLeast value, cell => ((cell.compare? value).map Ordering.isGE).getD false
  | .oneOf values, cell => values.any fun value => cell.same value
  | .noneOf values, cell =>
    values.all fun value => ((cell.compare? value).map Ordering.isNe).getD false
  | .like pattern, cell => (cell.text?.map (Pattern.isMatch pattern)).getD false
  | .is value, cell => if value.isNull then cell.isNull else cell.same value

def ordering (kind : Kind) (condition : Cell → Condition) (value : String) :
    Except StoreError Condition := do
  let cell ← kind.read value
  if kind = .truth then .error .unordered else .ok (condition cell)

def readItems (kind : Kind) (value : String) : Except StoreError (List Cell) :=
  (((pieces ',' value.toList).filter fun item => !(trim item).isEmpty).map String.ofList).mapM
    kind.read

def ofRelation (kind : Kind) (relation : Listing.Relation) (value : String) :
    Except StoreError Condition :=
  match relation with
  | .equal => (kind.read value).map .equal
  | .less => ordering kind .less value
  | .greater => ordering kind .greater value
  | .atMost => ordering kind .atMost value
  | .atLeast => ordering kind .atLeast value
  | .oneOf => (readItems kind value).map .oneOf
  | .noneOf => (readItems kind value).map .noneOf
  | .like => .ok (.like value)
  | .is =>
    if Kind.word value = "null" then .ok (.is .null)
    else if Kind.word value = "true" then .ok (.is (kind.truthCell true))
    else if Kind.word value = "false" then .ok (.is (kind.truthCell false))
    else .error (.invalid value)
  | .unknown symbol => .error (.invalid symbol)

end Condition

end Roster
