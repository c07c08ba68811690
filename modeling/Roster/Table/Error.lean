import Roster.Listing.Error
import Roster.Text.CodePoint

/-!
# Failures of tables

Why an operation on a table fails. A failing statement tells no more than that.
-/

namespace Roster

inductive StoreError where
  /-- The query names a column, a relation or a value that is not acceptable. -/
  | invalid (name : String)
  | unordered
  | database
  /-- An integer needs more than 64 bits. -/
  | outOfRange
  | unencodable (fault : Unencodable)
  deriving DecidableEq

def StoreError.message : StoreError → String
  | .invalid name => (Listing.Error.invalid name).message
  | .unordered =>
    "Only '=', '!=', 'is_()', 'is_not()', 'is_distinct_from()', 'is_not_distinct_from()' " ++
      "operators can be used with None/True/False"
  | .database => "<database error>"
  | .outOfRange => "Python int too large to convert to SQLite INTEGER"
  | .unencodable fault => fault.message

end Roster
