import Roster.Table.Repository
import Roster.Proofs.Table.Rows
import Mathlib.Tactic

/-!
# What sessions leave behind

The operations of a repository come to what the operations on tables say: one that succeeds leaves
the table that it leads to, and one that fails leaves the table as it was.  That nothing is kept of
a failure rests on two facts.  Nothing is stored before the commit, and all that comes after it is
that the row is read once more.  This read fails only if selects fail, and then the operation has
not come as far as its commit, since it looks for the row first.
-/

namespace Roster

open Outcome

variable {ρ ε α β : Type}

/-- What an operation comes to when nothing is kept of one that fails. -/
def Table.settled (table : Table ρ) (result : Except ε (α × Table ρ)) : Except ε α × Table ρ :=
  match result with
  | .ok (value, after) => (.ok value, after)
  | .error error => (.error error, table)

namespace Session

@[simp] theorem table_opened (table : Table ρ) : (opened table).table = table := rfl

@[simp] theorem stored_opened (table : Table ρ) : (opened table).stored = table := rfl

theorem committed_eq (session : Session ρ) : session.committed = opened session.table := rfl

theorem rolledBack_eq (session : Session ρ) : session.rolledBack = opened session.stored := rfl

end Session

/-! ## Steps of the work -/

namespace Work

theorem after_pure (value : α) (session : Session ρ) :
    (pure value : Work ρ ε α).after session = (.ok value, session) := rfl

theorem after_bind (work : Work ρ ε α) (next : α → Work ρ ε β) (session : Session ρ) :
    (work >>= next).after session =
      match work.after session with
      | (.ok value, middle) => (next value).after middle
      | (.error error, middle) => (.error error, middle) := by
  have hbind : (work >>= next).after session =
      (ExceptT.bindCont next (work.after session).1).run (work.after session).2 := rfl
  rw [hbind]
  rcases work.after session with ⟨outcome, middle⟩
  cases outcome with
  | ok value => rfl
  | error error => rfl

theorem after_ofExcept (outcome : Except ε α) (session : Session ρ) :
    (ofExcept outcome : Work ρ ε α).after session = (outcome, session) := by
  cases outcome with
  | ok value => rfl
  | error error => rfl

theorem after_ask (question : Table ρ → Except ε α) (session : Session ρ) :
    (ask question).after session = (question session.table, session) :=
  after_ofExcept (question session.table) session

theorem after_adapt {δ : Type} (change : ε → δ) (work : Work ρ ε α) (session : Session ρ) :
    Work.after (ExceptT.adapt change work) session =
      ((work.after session).1.mapError change, (work.after session).2) := rfl

theorem after_write (statement : Table ρ → Except ε (List ρ)) (session : Session ρ) :
    (write statement).after session =
      match statement session.table with
      | .ok rows => (.ok (), { session with rows })
      | .error error => (.error error, session) := by
  change (ofExcept (statement session.table) >>= fun rows =>
    (modify ({ · with rows }) : Work ρ ε Unit)).after session = _
  rw [after_bind, after_ofExcept]
  cases statement session.table with
  | ok rows => rfl
  | error error => rfl

theorem after_tryCatch (work : Work ρ ε α) (handler : ε → Work ρ ε α) (session : Session ρ) :
    (tryCatch work handler).after session =
      match work.after session with
      | (.ok value, middle) => (.ok value, middle)
      | (.error error, middle) => (handler error).after middle := by
  rcases hwork : work.after session with ⟨outcome, middle⟩
  have hrun : StateT.run work session = (outcome, middle) := hwork
  change Work.after (ExceptT.tryCatch work handler) session = _
  unfold after ExceptT.tryCatch
  rw [ExceptT.run_mk, StateT.run_bind, hrun]
  cases outcome with
  | ok value => rfl
  | error error => rfl

theorem after_committing (work : Work ρ StoreError α) (session : Session ρ) :
    (committing work).after session =
      match work.after session with
      | (.ok value, middle) => (.ok value, middle.committed)
      | (.error error, middle) =>
        (.error error, if error = .database then middle.rolledBack else middle) := by
  unfold committing
  rw [after_tryCatch, after_bind]
  rcases work.after session with ⟨outcome, middle⟩
  cases outcome with
  | ok value => rfl
  | error error =>
      by_cases hdatabase : error = .database
      · subst hdatabase
        rfl
      · simp only [if_neg hdatabase]
        rfl

/-! ## Work that carries out an operation -/

/-- The rows that the session sees become those that the operation leads to, and nothing is stored.
When the operation fails, no row has been written. -/
def Performs (work : Work ρ ε α) (operation : Table ρ → Except ε (α × Table ρ))
    (table : Table ρ) : Prop :=
  work.after (.opened table) =
    match operation table with
    | .ok (value, after) => (.ok value, { stored := table, rows := after.rows })
    | .error error => (.error error, .opened table)

/-- The table that the operation leads to is stored. When the operation fails, nothing is. -/
def Completes (work : Work ρ ε α) (operation : Table ρ → Except ε (α × Table ρ))
    (table : Table ρ) : Prop :=
  work.after (.opened table) =
    match operation table with
    | .ok (value, after) => (.ok value, .opened after)
    | .error error => (.error error, .opened table)

section Carries

variable {operation : Table ρ → Except StoreError (α × Table ρ)} {table : Table ρ}

theorem Completes.onTable {operation : Table ρ → Except ε (α × Table ρ)} {work : Work ρ ε α}
    (hcompletes : Completes work operation table) :
    work.onTable table = table.settled (operation table) := by
  unfold Work.onTable
  rw [hcompletes]
  rcases operation table with error | ⟨value, after⟩
  · rfl
  · rfl

/-- A commit stores what was written, and a session that fails is rolled back to the table that it
was opened on. -/
theorem Performs.committed {work : Work ρ StoreError α} (hperforms : Performs work operation table)
    (hfailing : ∀ value after, operation table = .ok (value, after) →
      after.failing = table.failing) :
    Completes (committing work) operation table := by
  unfold Completes
  rw [after_committing, hperforms]
  cases hoperation : operation table with
  | error error =>
      simp only [Session.rolledBack_eq, Session.stored_opened, ite_self]
  | ok result =>
      obtain ⟨value, after⟩ := result
      have htable : ({ stored := table, rows := after.rows } : Session ρ).table = after := by
        simp only [Session.table, ← hfailing value after hoperation]
      simp only [Session.committed_eq, htable]

/-- Reading the row once more fails only if selects do. -/
theorem Completes.refreshed {work : Work ρ StoreError α}
    (hcompletes : Completes work operation table)
    (hselect : ∀ value after, operation table = .ok (value, after) →
      .select ∉ after.failing) :
    Completes (do let value ← work; refresh; return value) operation table := by
  unfold Completes
  rw [after_bind, hcompletes]
  cases hoperation : operation table with
  | error error => rfl
  | ok result =>
      obtain ⟨value, after⟩ := result
      have hread : after.attempt .select = .ok () :=
        Table.attempt_eq_ok_iff.mpr (hselect value after hoperation)
      change (refresh >>= fun _ => (pure value : Work ρ StoreError α)).after _ = _
      unfold refresh
      rw [after_bind, after_ask, Session.table_opened, hread]
      rfl

end Carries

end Work

/-! ## Operations of a repository -/

namespace Table

variable {schema : Schema ρ} {draft : Draft ρ} {old stored : ρ} {table after : Table ρ}
  {changed : Except StoreError (Option ρ)} {key : String} {found : Bool}

theorem failing_of_replace
    (hreplace : table.replace schema old changed = .ok (stored, after)) :
    after.failing = table.failing := by
  rcases replace_eq_ok hreplace with ⟨-, -, rfl⟩ | ⟨-, rfl⟩
  · rfl
  · rfl

theorem failing_of_put (hput : table.put schema draft = .ok (stored, after)) :
    after.failing = table.failing := by
  rcases put_eq_ok hput with ⟨-, -, rfl⟩ | ⟨old, -, -, hreplace⟩
  · rfl
  · exact failing_of_replace hreplace

/-- The row was looked for before it was stored. -/
theorem select_of_put (hput : table.put schema draft = .ok (stored, after)) :
    .select ∉ after.failing := by
  rw [failing_of_put hput]
  obtain ⟨_, hfind, -⟩ := bind_eq_ok_iff.mp hput
  exact (find?_eq_ok_iff.mp hfind).1

end Table

namespace Repository

open Work

variable {schema : Schema ρ}

theorem flush_performs (old : ρ) (changed : Except StoreError (Option ρ)) (table : Table ρ) :
    Performs (flush schema old changed) (Table.replace schema old changed) table := by
  unfold Performs flush Table.replace
  rw [after_bind, after_ofExcept]
  rcases changed with error | _ | new
  · rfl
  · rfl
  · simp only [ok_bind, after_bind, after_write, Session.table_opened]
    cases table.overwriting schema old new with
    | error error => rfl
    | ok rows => rfl

theorem put_completes (draft : Draft ρ) (table : Table ρ) :
    Completes (Repository.put schema draft) (Table.put schema draft) table := by
  refine Completes.refreshed (Performs.committed ?_ ?_) ?_
  · unfold Performs Table.put
    rw [after_bind, after_ask, Session.table_opened]
    cases table.find? schema draft.key with
    | error error => rfl
    | ok found =>
        cases found with
        | some old => exact flush_performs old (draft.overwritten old) table
        | none =>
            simp only [ok_bind, after_bind, after_ofExcept]
            cases draft.inserted with
            | error error => rfl
            | ok row =>
                simp only [ok_bind, after_write, Session.table_opened]
                cases table.inserting row with
                | error error => rfl
                | ok rows => rfl
  · intro stored after hput
    exact Table.failing_of_put hput
  · intro stored after hput
    exact Table.select_of_put hput

theorem put_onTable (draft : Draft ρ) (table : Table ρ) :
    (Repository.put schema draft).onTable table = table.settled (table.put schema draft) :=
  (put_completes draft table).onTable

/-- A row that is replaced has been looked for before, so selects work. -/
theorem replace_completes (schema : Schema ρ) {table : Table ρ}
    (hselect : .select ∉ table.failing) (old : ρ)
    (changed : Except StoreError (Option ρ)) :
    Completes (Repository.replace schema old changed) (Table.replace schema old changed)
      table := by
  refine Completes.refreshed (Performs.committed (flush_performs old changed table) ?_) ?_
  · intro stored after hreplace
    exact Table.failing_of_replace hreplace
  · intro stored after hreplace
    rwa [Table.failing_of_replace hreplace]

theorem replace_onTable {table : Table ρ} (hselect : .select ∉ table.failing) (old : ρ)
    (changed : Except StoreError (Option ρ)) :
    (Repository.replace schema old changed).onTable table =
      table.settled (table.replace schema old changed) :=
  (replace_completes schema hselect old changed).onTable

theorem delete_completes (key : String) (table : Table ρ) :
    Completes (Repository.delete schema key) (Table.delete schema key) table := by
  unfold Completes Repository.delete Table.delete
  rw [after_bind, after_ask, Session.table_opened]
  cases table.find? schema key with
  | error error => rfl
  | ok found =>
      cases found with
      | none => rfl
      | some row =>
          simp only [ok_bind, after_bind, after_committing, after_write, Session.table_opened]
          cases table.deleting schema key with
          | error error =>
              simp only [Session.rolledBack_eq, Session.stored_opened, ite_self]
              rfl
          | ok rows => rfl

theorem delete_onTable (key : String) (table : Table ρ) :
    (Repository.delete schema key).onTable table = table.settled (table.delete schema key) :=
  (delete_completes key table).onTable

/-! ## Operations on records -/

variable {layout : Layout}

theorem createRecord_onTable (given : Record) (table : Table Record) :
    (createRecord layout given).onTable table = table.settled (layout.create given table) := by
  apply Completes.onTable
  unfold Completes createRecord Layout.create
  by_cases hnull : (given.cell layout.key).isNull = true
  · simp only [hnull, if_true, after_bind, after_ofExcept]
    cases layout.inserted given with
    | error error => rfl
    | ok row => rfl
  · simp only [hnull, Bool.false_eq_true, if_false, after_bind, after_ask, after_ofExcept,
      Session.table_opened]
    cases table.attempt .select with
    | error error => rfl
    | ok done =>
        simp only [ok_bind]
        cases Layout.key? (given.cell layout.key) with
        | error error => rfl
        | ok key =>
            cases key with
            | none => rfl
            | some key => exact put_completes _ table

/-- The row was looked for before, so it can be read once more. -/
theorem assignRecord_onTable (key : Cell) (given : Record) (table : Table Record) :
    (assignRecord layout key given).onTable table =
      table.settled (layout.assign key given table) := by
  apply Completes.onTable
  unfold Completes assignRecord Layout.assign
  simp only [after_bind, after_ask, Session.table_opened]
  cases hfind : layout.find? key table with
  | error error => rfl
  | ok found =>
      cases found with
      | none => rfl
      | some old =>
          cases layout.unknownName? given with
          | some name => rfl
          | none =>
              obtain ⟨_, hattempt, -⟩ := bind_eq_ok_iff.mp hfind
              have hselect := Table.attempt_eq_ok_iff.mp hattempt
              have hreplace := replace_completes layout.schema hselect old
                (layout.revised given old)
              unfold Completes at hreplace
              simp only [Except.mapError, ok_bind, after_bind, after_adapt, hreplace]
              cases Table.replace layout.schema old (layout.revised given old) table with
              | error error => rfl
              | ok result => rfl

theorem deleteRecord_onTable (key : Cell) (table : Table Record) :
    (deleteRecord layout key).onTable table = table.settled (layout.delete key table) := by
  apply Completes.onTable
  unfold Completes deleteRecord Layout.delete
  simp only [after_bind, after_ask, after_ofExcept, Session.table_opened]
  cases table.attempt .select with
  | error error => rfl
  | ok done =>
      simp only [ok_bind]
      cases Layout.key? key with
      | error error => rfl
      | ok key =>
          cases key with
          | none => rfl
          | some key => exact delete_completes key table

end Repository
end Roster
