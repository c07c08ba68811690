import Roster.Table.Schema

/-!
# The database engine

Which rows a query finds, and in what order of its sort key, follows from the query alone. The
database engine that runs the statements decides the rest, and the engine is not part of this
library: what is built on it holds for any choice. An engine may refuse to prepare a statement,
because of limits on what a statement may hold; it may break off while it runs one; and it comes to
the rows in an order of its own, which depends on the statement and on whatever the columns that can
be queried hold.

`Engine.standard` is a simple choice. It goes through the rows as they are stored and tries the
conditions of a statement in order on each of them, within limits that SQLite has. A planner like
that of SQLite also uses indices: it tries fewer patterns, and comes to the rows in other orders.
-/

namespace Roster

/-- A select statement: its conditions with the names of their columns, and what is asked about the
rows that meet them. -/
inductive Query where
  | count (terms : List (String × Condition))
  | rows (terms : List (String × Condition)) (sort : Option Listing.SortKey)
  | window (terms : List (String × Condition)) (sort : Option Listing.SortKey)
      (offset limit : Int)

namespace Query

def terms : Query → List (String × Condition)
  | .count terms => terms
  | .rows terms _ => terms
  | .window terms _ _ _ => terms

/-- Do the numbers of the window fit? -/
def fits : Query → Bool
  | .window _ _ offset limit => fitsInt64 offset && fitsInt64 limit
  | _ => true

end Query

structure Engine where
  /-- Is the statement refused when it is prepared? -/
  refuses : Query → Bool
  /-- Does the statement break off on a table that shows these records? -/
  breaksOff : Query → List Record → Bool
  /-- The place at which the engine comes to the stored row with an index. Rows with the same place
  come in the order they are stored in. -/
  place : Query → List Record → Nat → Nat
  /-- A statement that asks for all rows holds nothing that could be limited. -/
  unconditional : ∀ sort records,
    refuses (.rows [] sort) = false ∧ breaksOff (.rows [] sort) records = false

namespace Engine

variable {ρ : Type}

/-- The statement is prepared, and comes to its end on a table that shows these records. -/
def Runs (engine : Engine) (query : Query) (records : List Record) : Prop :=
  engine.refuses query = false ∧ engine.breaksOff query records = false

instance (engine : Engine) (query : Query) (records : List Record) :
    Decidable (engine.Runs query records) :=
  inferInstanceAs (Decidable (_ ∧ _))

/-- The rows of a table in the order in which the engine comes to them. -/
def arrivals (engine : Engine) (query : Query) (shown : ρ → Record) (rows : List ρ) : List ρ :=
  let place := engine.place query (rows.map shown)
  (rows.zipIdx.mergeSort fun a b => place a.2 ≤ place b.2).map (·.1)

/-! ## The limits of SQLite -/

/-- The heights of the terms that stand for a condition in a statement. The name of a column has
two levels. A list without items is written as two terms, and a list that excludes its items as the
negation of one that does not. -/
def heights : Condition → List Nat
  | .oneOf [] => [3, 2]
  | .noneOf [] => [5]
  | .noneOf _ => [4]
  | _ => [3]

/-- The height of the expression that joins the terms of all conditions, from the left. -/
def joinedHeight (conditions : List Condition) : Nat :=
  match conditions.flatMap heights with
  | [] => 0
  | first :: rest => rest.foldl (fun joined height => max joined height + 1) first

def maxHeight : Nat := 1000

/-- The number of values that are given to a statement for a condition. -/
def bindings : Condition → Nat
  | .oneOf values | .noneOf values => values.length
  | .is _ => 0
  | _ => 1

def maxVariables : Nat := 32766

/-- A window has an offset and a limit. -/
def variableCount (query : Query) : Nat :=
  query.terms.foldl (fun count term => count + bindings term.2) 0 +
    match query with
    | .window .. => 2
    | _ => 0

def maxPatternLength : Nat := 50000

def isTooLong : Condition → Bool
  | .like pattern => maxPatternLength < pattern.utf8ByteSize
  | _ => false

/-- Does a pattern that is too long come up when the conditions are tried in order, up to the first
that the record does not meet? -/
def triesTooLong (record : Record) : List (String × Condition) → Bool
  | [] => false
  | (name, condition) :: rest =>
    isTooLong condition || (condition.holds (record.cell name) && triesTooLong record rest)

def standard : Engine where
  refuses query :=
    maxHeight < joinedHeight (query.terms.map (·.2)) || maxVariables < variableCount query
  breaksOff query records := records.any fun record => triesTooLong record query.terms
  place _ _ _ := 0
  unconditional _ records := by simp [Query.terms, joinedHeight, variableCount, triesTooLong]

end Engine

end Roster
