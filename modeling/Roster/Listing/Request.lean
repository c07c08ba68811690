import Roster.Listing.Window
import Roster.Listing.Sort
import Roster.Listing.Filter
import Roster.Text.Query

/-!
# List requests

The four parameters of a list request are read from the pairs of a query, or from a mapping. Of
several values for one name the first counts, and the first fault in the order page, sort, filter
is reported.
-/

namespace Roster.Listing

structure Request where
  window : Window
  sort : Option SortKey
  filters : List Filter
  deriving DecidableEq

/-- Where the parameters are looked up: in the pairs of a query, which can repeat a name, or in a
mapping. -/
inductive Parameters where
  | query (pairs : List (String × String))
  | mapping (value? : String → Option String)

def Parameters.first? : Parameters → String → Option String
  | .query pairs, name => Query.first? pairs name
  | .mapping value?, name => value? name

def Request.ofParameters (parameters : Parameters) : Except Error Request := do
  let window ← Window.parse (parameters.first? "page") (parameters.first? "pageSize")
  let sort ← SortKey.parse (parameters.first? "sort")
  let filters ← Filter.parse (parameters.first? "filter")
  return { window, sort, filters }

def Request.parse (pairs : List (String × String)) : Except Error Request :=
  ofParameters (.query pairs)

end Roster.Listing
