import Roster.Listing.Window
import Roster.Number.Double

/-!
# Page counts

The number of pages is the ceiling of the number of rows over the page size. The quotient is
rounded to a double first, so the count is exact only below 2 ^ 53 rows.
-/

namespace Roster.Listing

/-- The number of pages of `total` rows; `none` when the quotient is beyond the doubles. -/
def pageCount? (total pageSize : Int) : Option Int :=
  if pageSize = unlimited then some (if total = 0 then 0 else 1)
  else if pageSize ≤ 0 then some 0
  else (Double.ofQuotient (total < 0) total.natAbs pageSize.natAbs).ceiling?

def pageCountMessage : String :=
  "integer division result too large for a float"

end Roster.Listing
