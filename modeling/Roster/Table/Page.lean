import Roster.Table.Basic
import Roster.Table.Engine
import Roster.Listing.PageCount
import Roster.Listing.Request

/-!
# Pages

All rows that a query finds, and one window of them. The count of pages and of rows is that of the
whole result, so it is the same on every page. The database engine runs the statements: it decides
which of them run at all, and in what order they bring rows that the sort key does not tell apart.
-/

namespace Roster

structure Page (α : Type) where
  window : Listing.Window
  pageCount : Int
  /-- The number of rows on all pages. -/
  total : Nat
  items : List α

def Page.map {α β : Type} (f : α → β) (page : Page α) : Page β where
  window := page.window
  pageCount := page.pageCount
  total := page.total
  items := page.items.map f

/-- The statement for the rows of a page. Without a limit there is no window. -/
def Query.ofRequest (terms : List (String × Condition)) (request : Listing.Request) : Query :=
  if request.window.pageSize = Listing.unlimited then .rows terms request.sort
  else .window terms request.sort request.window.offset request.window.pageSize

namespace Table

variable {ρ : Type}

/-- The rows that pass the tests, as a select statement brings them. A number that does not fit is
noticed when the statement is prepared already. -/
def run (engine : Engine) (schema : Schema ρ) (query : Query) (tests : List (Test ρ))
    (table : Table ρ) : Except StoreError (List ρ) := do
  table.attempt .select
  if engine.refuses query then .error .database
  else if !query.fits then .error .outOfRange
  else if engine.breaksOff query (table.rows.map schema.shown) then .error .database
  else return (engine.arrivals query schema.shown table.rows).filter (Test.allHold tests)

/-- All rows that pass the filters, in the order of the sort key. -/
def list (engine : Engine) (schema : Schema ρ) (sort : Option Listing.SortKey)
    (filters : List Listing.Filter) (table : Table ρ) : Except StoreError (List ρ) := do
  let tests ← schema.tests filters
  let arrange ← schema.arrangement sort
  let rows ← table.run engine schema (.rows (tests.map Test.term) sort) tests
  return arrange rows

/-- The part of a list inside a window. An offset below zero is none, and so is a negative size. -/
def inside {α : Type} (window : Listing.Window) (items : List α) : List α :=
  let rest := items.drop window.offset.toNat
  if window.pageSize < 0 then rest else rest.take window.pageSize.toNat

/-- Counts the rows, and then fetches those of the window. -/
def page (engine : Engine) (schema : Schema ρ) (request : Listing.Request) (table : Table ρ) :
    Except StoreError (Page ρ) := do
  let tests ← schema.tests request.filters
  let arrange ← schema.arrangement request.sort
  let terms := tests.map Test.term
  let counted ← table.run engine schema (.count terms) tests
  let rows ← table.run engine schema (.ofRequest terms request) tests
  let window := request.window
  let items :=
    if window.pageSize = Listing.unlimited then arrange rows else inside window (arrange rows)
  let pageCount := (Listing.pageCount? counted.length window.pageSize).getD 0
  return { window, pageCount, total := counted.length, items }

end Table

end Roster
