import Roster.Proofs.Table.Records
import Roster.Proofs.Table.Selection
import Roster.Proofs.Table.Session
import Roster.Proofs.Service.Effect
import Mathlib.Tactic

/-!
# The history of a table

A table is a map from identifiers to rows that keeps the order in which they came.  Every step of a
run is worked off in a session of its own, and has an effect that can be told from the rows before
it: a row comes last or takes the place of the one with its identifier, or a row is dropped, or
nothing happens at all.  So what the table holds under an identifier can be told from the steps
alone: it is the row that was written last, unless it was deleted since.
-/

namespace Roster
namespace Layout

open Outcome

variable {layout : Layout}

/-! ## Steps -/

/-- A step on a table.  What is assigned to a row does not name its key. -/
inductive Step (layout : Layout) where
  | create (given : Record)
  | assign (id : String) (given : Record) (keepsKey : given.lookup layout.key = none)
  | delete (id : String)
  /-- From now on the statements of these kinds fail. -/
  | switch (failing : List Statement)

inductive Answer where
  | wrote (row : Record)
  /-- There is no row to assign to. -/
  | missing
  | deleted (found : Bool)
  | switched

/-- The outcome of a step that is worked off in a session, and the table after it. -/
def Step.run (step : Step layout) (table : Table Record) :
    Except AssignError Answer × Table Record :=
  match step with
  | .create given =>
      let (outcome, after) := (Repository.createRecord layout given).onTable table
      ((outcome.mapError .store).map .wrote, after)
  | .assign id given _ =>
      let (outcome, after) := (Repository.assignRecord layout (.text id) given).onTable table
      (outcome.map fun row? => row?.elim .missing .wrote, after)
  | .delete id =>
      let (outcome, after) := (Repository.deleteRecord layout (.text id)).onTable table
      ((outcome.mapError .store).map .deleted, after)
  | .switch failing => (.ok .switched, { table with failing })

/-- The operation that a step comes to. -/
def Step.perform (table : Table Record) :
    Step layout → Except AssignError (Answer × Table Record)
  | .create given => do
      let (row, after) ← (layout.create given table).mapError .store
      return (.wrote row, after)
  | .assign id given _ => do
      let (row?, after) ← layout.assign (.text id) given table
      return (row?.elim .missing .wrote, after)
  | .delete id => do
      let (found, after) ← (layout.delete (.text id) table).mapError .store
      return (.deleted found, after)
  | .switch failing => .ok (.switched, { table with failing })

/-- Nothing is kept of a step that fails. -/
theorem Step.run_eq (step : Step layout) (table : Table Record) :
    step.run table = table.settled (step.perform table) := by
  unfold run perform
  cases step with
  | create given =>
      simp only [Repository.createRecord_onTable]
      rcases layout.create given table with error | ⟨row, after⟩
      · rfl
      · rfl
  | assign id given keepsKey =>
      simp only [Repository.assignRecord_onTable]
      rcases layout.assign (.text id) given table with error | ⟨row?, after⟩
      · rfl
      · rfl
  | delete id =>
      simp only [Repository.deleteRecord_onTable]
      rcases layout.delete (.text id) table with error | ⟨found, after⟩
      · rfl
      · rfl
  | switch failing => rfl

/-- A row that shows what was given has taken the place of an old one with its identifier. -/
structure Rewrites (layout : Layout) (id : String) (given old row : Record)
    (before after : Table Record) : Prop where
  old_key : layout.schema.key old = id
  row_key : layout.schema.key row = id
  row_shapes : layout.Shapes row
  row_matches : layout.Matches given row
  in_place : before.ReplacesRow old row after

/-- What the outcome of a step says about the table before and after it. -/
def Step.Effect (before after : Table Record) :
    Step layout → Except AssignError Answer → Prop
  | _, .error _ => after = before
  | .create given, .ok (.wrote row) =>
      ∃ id, key? (given.cell layout.key) = .ok (some id) ∧
        ((∃ old, layout.Rewrites id given old row before after) ∨
          (∀ old ∈ before.rows, layout.schema.key old ≠ id) ∧
            layout.schema.key row = id ∧ layout.Shapes row ∧ layout.Matches given row ∧
            after = before.withRows (before.rows ++ [row]))
  | .assign id given _, .ok (.wrote row) =>
      ∃ old, layout.Rewrites id given old row before after ∧
        ∀ name, given.lookup name = none → row.cell name = old.cell name
  | .assign id _ _, .ok .missing =>
      (∀ old ∈ before.rows, layout.schema.key old ≠ id) ∧ after = before
  | .delete id, .ok (.deleted found) =>
      (found = true ↔ ∃ row ∈ before.rows, layout.schema.key row = id) ∧
        after = before.withRows (before.rows.filter fun row => layout.schema.key row ≠ id)
  | .switch failing, .ok .switched => after = { before with failing }
  | _, .ok _ => False

variable {before after table : Table Record}

theorem rewrites_overwrite {id : String} {given row old : Record}
    (hkept : layout.WellKept table) (hold : old ∈ table.rows) (hid : layout.schema.key old = id)
    (hrow : layout.schema.key row = id) (hshapes : layout.Shapes row)
    (hmatches : layout.Matches given row) :
    layout.Rewrites id given old row table
      { table with rows := Table.overwrite layout.schema row table.rows } := by
  obtain ⟨front, back, hsplit, hafter⟩ :=
    Table.overwrite_split hkept.distinct hold (hrow.trans hid.symm)
  exact ⟨hid, hrow, hshapes, hmatches, front, back, hsplit, Table.eq_withRows rfl hafter⟩

theorem Step.effect_of_ok (hlayout : layout.Keyed) (hkept : layout.WellKept before)
    {step : Step layout} {answer : Answer} (hstep : step.perform before = .ok (answer, after)) :
    step.Effect before after (.ok answer) := by
  cases step with
  | create given =>
      obtain ⟨⟨row, after⟩, hcreate, hrest⟩ := bind_eq_ok_iff.mp hstep
      obtain ⟨rfl, rfl⟩ := Prod.mk.inj (pure_eq_ok_iff.mp hrest)
      obtain ⟨id, hid, hrow, hshapes, hmatches, ⟨hnew, rfl⟩ | ⟨⟨old, hold, hkey⟩, rfl⟩⟩ :=
        create_eq_ok hlayout hkept (mapError_eq_ok_iff.mp hcreate)
      · exact ⟨id, hid, .inr ⟨hnew, hrow, hshapes, hmatches, rfl⟩⟩
      · exact ⟨id, hid, .inl ⟨old, rewrites_overwrite hkept hold hkey hrow hshapes hmatches⟩⟩
  | assign id given keepsKey =>
      obtain ⟨⟨row?, after⟩, hassign, hrest⟩ := bind_eq_ok_iff.mp hstep
      obtain ⟨rfl, rfl⟩ := Prod.mk.inj (pure_eq_ok_iff.mp hrest)
      rcases assign_eq_ok hlayout hkept keepsKey hassign with
        ⟨habsent, rfl, rfl⟩ | ⟨old, hold, row, hkey, rfl, hrow, hshapes, hmatches, hleft, rfl⟩
      · exact ⟨habsent, rfl⟩
      · exact ⟨old, rewrites_overwrite hkept hold hkey hrow hshapes hmatches, hleft⟩
  | delete id =>
      obtain ⟨⟨found, after⟩, hdelete, hrest⟩ := bind_eq_ok_iff.mp hstep
      obtain ⟨rfl, rfl⟩ := Prod.mk.inj (pure_eq_ok_iff.mp hrest)
      exact delete_eq_ok (mapError_eq_ok_iff.mp hdelete)
  | switch failing =>
      obtain ⟨rfl, rfl⟩ := Prod.mk.inj (Except.ok.inj hstep)
      rfl

theorem Step.effect_error {step : Step layout} {error : AssignError} :
    step.Effect before after (.error error) ↔ after = before := by
  cases step <;> rfl

theorem Step.effect_run (hlayout : layout.Keyed) (hkept : layout.WellKept before)
    (step : Step layout) : step.Effect before (step.run before).2 (step.run before).1 := by
  rw [step.run_eq]
  cases hstep : step.perform before with
  | ok result => exact effect_of_ok hlayout hkept hstep
  | error error => exact effect_error.mpr rfl

/-! ## Runs -/

/-- A table, and the steps that led to it with their outcomes, the last step first. -/
structure Ledger (layout : Layout) where
  table : Table Record := {}
  past : List (Step layout × Except AssignError Answer) := []

def Ledger.next (ledger : Ledger layout) (step : Step layout) : Ledger layout where
  table := (step.run ledger.table).2
  past := (step, (step.run ledger.table).1) :: ledger.past

def Ledger.ofSteps (steps : List (Step layout)) : Ledger layout :=
  steps.foldl Ledger.next {}

/-- The row that was last written under an identifier, if it was not deleted since. -/
def lastWritten? (layout : Layout) (id : String) :
    List (Step layout × Except AssignError Answer) → Option Record
  | [] => none
  | (_, .ok (.wrote row)) :: older =>
      if layout.schema.key row = id then some row else lastWritten? layout id older
  | (.delete gone, .ok (.deleted true)) :: older =>
      if gone = id then none else lastWritten? layout id older
  | _ :: older => lastWritten? layout id older

/-- The table holds under each identifier what its past says. -/
structure Ledger.Recalls (ledger : Ledger layout) : Prop where
  kept : layout.WellKept ledger.table
  recalls : ∀ id, ledger.table.rows.find? (fun row => layout.schema.key row = id) =
    lastWritten? layout id ledger.past

theorem lastWritten?_error (step : Step layout) (error : AssignError) (id : String)
    (older : List (Step layout × Except AssignError Answer)) :
    layout.lastWritten? id ((step, .error error) :: older) = layout.lastWritten? id older := by
  cases step <;> rfl

theorem recalls_empty : Ledger.Recalls ({} : Ledger layout) where
  kept := ⟨List.nodup_nil, fun row hrow => by cases hrow⟩
  recalls := fun _ => rfl

section Recalls

variable {ledger : Ledger layout} {row old : Record} {id : String}

theorem find?_replacesRow (hkept : layout.WellKept before)
    (hkey : layout.schema.key row = layout.schema.key old)
    (hreplaces : before.ReplacesRow old row after) (id : String) :
    after.rows.find? (fun other => layout.schema.key other = id) =
      if layout.schema.key row = id then some row
      else before.rows.find? fun other => layout.schema.key other = id := by
  obtain ⟨front, back, hsplit, rfl⟩ := hreplaces
  change (front ++ row :: back).find? _ = _
  rw [hsplit, List.find?_append, List.find?_append, List.find?_cons, List.find?_cons, ← hkey]
  split_ifs with hid
  · have hdistinct := hkept.distinct
    rw [hsplit, List.map_append, List.nodup_append] at hdistinct
    have hfront : front.find? (fun other => layout.schema.key other = id) = none := by
      rw [List.find?_eq_none]
      intro other hother
      have hdifferent := hdistinct.2.2 _ (List.mem_map_of_mem hother) _
        (List.mem_map_of_mem List.mem_cons_self)
      rw [← hkey, hid] at hdifferent
      simpa using hdifferent
    simp [hfront, hid]
  · simp [hid]

theorem WellKept.replacesRow (hkept : layout.WellKept before) (hshapes : layout.Shapes row)
    (hkey : layout.schema.key row = layout.schema.key old)
    (hreplaces : before.ReplacesRow old row after) : layout.WellKept after := by
  obtain ⟨front, back, hsplit, rfl⟩ := hreplaces
  constructor
  · have hdistinct := hkept.distinct
    rw [hsplit, List.map_append, List.map_cons] at hdistinct
    change ((front ++ row :: back).map _).Nodup
    rwa [List.map_append, List.map_cons, hkey]
  · intro other hother
    have hother : other ∈ front ++ row :: back := hother
    have hrest : ∀ found ∈ front ++ back, layout.Shapes found := by
      intro found hfound
      refine hkept.shaped found ?_
      rw [hsplit]
      exact (List.sublist_cons_self old back).append_left front |>.subset hfound
    rcases List.mem_append.mp hother with hother | hother
    · exact hrest other (List.mem_append_left _ hother)
    · rcases List.mem_cons.mp hother with rfl | hother
      · exact hshapes
      · exact hrest other (List.mem_append_right _ hother)

theorem WellKept.append (hkept : layout.WellKept before) (hshapes : layout.Shapes row)
    (hnew : ∀ old ∈ before.rows, layout.schema.key old ≠ layout.schema.key row) :
    layout.WellKept (before.withRows (before.rows ++ [row])) where
  distinct := Table.nodup_keys_append layout.schema hkept.distinct hnew
  shaped := by
    intro other hother
    rcases List.mem_append.mp hother with hother | hother
    · exact hkept.shaped other hother
    · rwa [List.mem_singleton.mp hother]

theorem WellKept.filter (hkept : layout.WellKept before) (keeps : Record → Bool) :
    layout.WellKept (before.withRows (before.rows.filter keeps)) where
  distinct := hkept.distinct.sublist (List.filter_sublist.map _)
  shaped := fun row hrow => hkept.shaped row (List.mem_of_mem_filter hrow)

/-- What is remembered after a step that has left the rows as they were. -/
theorem Ledger.Recalls.unchanged (hrecalls : ledger.Recalls) {failing : List Statement}
    {entry : Step layout × Except AssignError Answer}
    (hentry : ∀ id, layout.lastWritten? id (entry :: ledger.past) =
      layout.lastWritten? id ledger.past) :
    Ledger.Recalls ⟨{ ledger.table with failing }, entry :: ledger.past⟩ where
  kept := ⟨hrecalls.kept.distinct, hrecalls.kept.shaped⟩
  recalls := fun id => (hrecalls.recalls id).trans (hentry id).symm

/-- The written row is what is remembered of its identifier from then on. -/
theorem Ledger.Recalls.rewrites (hrecalls : ledger.Recalls) {given : Record} (step : Step layout)
    (hrewrites : layout.Rewrites id given old row ledger.table after) :
    Ledger.Recalls ⟨after, (step, .ok (.wrote row)) :: ledger.past⟩ := by
  have hkey := hrewrites.row_key.trans hrewrites.old_key.symm
  constructor
  · exact hrecalls.kept.replacesRow hrewrites.row_shapes hkey hrewrites.in_place
  · intro wanted
    rw [find?_replacesRow hrecalls.kept hkey hrewrites.in_place wanted, hrecalls.recalls wanted]
    rfl

theorem Ledger.Recalls.appends (hrecalls : ledger.Recalls) (step : Step layout)
    (hshapes : layout.Shapes row)
    (hnew : ∀ old ∈ ledger.table.rows, layout.schema.key old ≠ layout.schema.key row) :
    Ledger.Recalls ⟨ledger.table.withRows (ledger.table.rows ++ [row]),
      (step, .ok (.wrote row)) :: ledger.past⟩ where
  kept := hrecalls.kept.append hshapes hnew
  recalls := by
    intro wanted
    refine (Table.find?_append_row layout.schema hnew wanted).trans ?_
    rw [hrecalls.recalls wanted]
    rfl

theorem Ledger.Recalls.deletes (hrecalls : ledger.Recalls) {found : Bool}
    (hfound : found = true ↔ ∃ row ∈ ledger.table.rows, layout.schema.key row = id) :
    Ledger.Recalls ⟨ledger.table.withRows
        (ledger.table.rows.filter fun row => layout.schema.key row ≠ id),
      (.delete id, .ok (.deleted found)) :: ledger.past⟩ where
  kept := hrecalls.kept.filter _
  recalls := by
    intro wanted
    refine (Table.find?_filter_key layout.schema id wanted _).trans ?_
    rw [hrecalls.recalls wanted]
    cases found with
    | true => rfl
    | false =>
      -- a row that is not found was not remembered either
      split_ifs with hid
      · subst hid
        have hnone : ledger.table.rows.find? (fun row => layout.schema.key row = id) = none := by
          rw [List.find?_eq_none]
          simpa using hfound
        exact (hnone.symm.trans (hrecalls.recalls id))
      · rfl

theorem Ledger.Recalls.next (hlayout : layout.Keyed) (hrecalls : ledger.Recalls)
    (step : Step layout) : (ledger.next step).Recalls := by
  have heffect := step.effect_run hlayout hrecalls.kept
  unfold Ledger.next
  generalize step.run ledger.table = result at heffect ⊢
  obtain ⟨outcome, after⟩ := result
  dsimp only at heffect ⊢
  cases outcome with
  | error error =>
      obtain rfl := Step.effect_error.mp heffect
      exact hrecalls.unchanged fun id => lastWritten?_error step error id ledger.past
  | ok answer =>
      cases step with
      | create given =>
          cases answer with
          | wrote row =>
              obtain ⟨id, -, ⟨old, hrewrites⟩ | ⟨hnew, hrow, hshapes, -, rfl⟩⟩ := heffect
              · exact hrecalls.rewrites _ hrewrites
              · exact hrecalls.appends _ hshapes (hrow ▸ hnew)
          | _ => exact heffect.elim
      | assign id given keepsKey =>
          cases answer with
          | wrote row =>
              obtain ⟨old, hrewrites, -⟩ := heffect
              exact hrecalls.rewrites _ hrewrites
          | missing =>
              obtain ⟨-, rfl⟩ := heffect
              exact hrecalls.unchanged fun id => rfl
          | _ => exact heffect.elim
      | delete id =>
          cases answer with
          | deleted found =>
              obtain ⟨hfound, rfl⟩ := heffect
              exact hrecalls.deletes hfound
          | _ => exact heffect.elim
      | switch failing =>
          cases answer with
          | switched =>
              obtain rfl := heffect
              exact hrecalls.unchanged fun id => rfl
          | _ => exact heffect.elim

theorem Ledger.Recalls.ofSteps (hlayout : layout.Keyed) (steps : List (Step layout)) :
    (Ledger.ofSteps steps).Recalls := by
  unfold Ledger.ofSteps
  induction steps using List.reverseRecOn with
  | nil => exact recalls_empty
  | append_singleton steps step hsteps =>
      rw [List.foldl_append]
      exact hsteps.next hlayout step

end Recalls

/-! ## Tables as maps -/

theorem reads_unfiltered {sort : Option Listing.SortKey} {tests : List (Test Record)}
    {arrange : List Record → List Record}
    (hreads : layout.schema.Reads sort [] tests arrange) : tests = [] :=
  (Except.ok.inj hreads.filtered).symm

theorem found_unfiltered_perm (engine : Engine) (query : Query) (table : Table Record) :
    (table.found engine layout.schema query []).Perm table.rows := by
  have hrows : table.rows.filter (Test.allHold []) = table.rows :=
    List.filter_eq_self.mpr fun _ _ => rfl
  have hfound := Table.found_perm engine layout.schema query [] table
  rwa [hrows] at hfound

theorem list_unfiltered_perm {engine : Engine} {sort : Option Listing.SortKey}
    {rows : List Record} (hlist : table.list engine layout.schema sort [] = .ok rows) :
    rows.Perm table.rows := by
  obtain ⟨tests, arrange, hreads, -, -, rfl⟩ := Table.list_eq_ok_iff.mp hlist
  obtain rfl := reads_unfiltered hreads
  exact (Schema.arrangement_perm hreads.sorted _).trans (found_unfiltered_perm engine _ table)

/-- Without filters and without an order all rows come, and they come as they are stored if the
engine goes through them like that. -/
theorem list_unfiltered (engine : Engine) (hselect : .select ∉ table.failing) :
    ∃ rows, table.list engine layout.schema none [] = .ok rows ∧ rows.Perm table.rows ∧
      (engine.Scans → rows = table.rows) := by
  have hreads : layout.schema.Reads none [] [] id := ⟨rfl, rfl⟩
  have hbears : table.Bears engine layout.schema (.rows [] none) :=
    engine.unconditional none (table.rows.map layout.schema.shown)
  refine ⟨_, (Table.list_eq hreads).trans (if_pos ⟨hselect, hbears⟩),
    found_unfiltered_perm engine _ table, ?_⟩
  intro hscans
  unfold Table.found
  rw [id, List.map_nil, hscans.arrivals_eq]
  exact List.filter_eq_self.mpr fun _ _ => rfl

/-- The table is a map from identifiers to rows in their order, which agrees with its past. -/
structure Ledger.IsOrderedMap (engine : Engine) (ledger : Ledger layout) : Prop where
  distinct : (ledger.table.rows.map layout.schema.key).Nodup
  effect : ∀ step : Step layout,
    step.Effect ledger.table (step.run ledger.table).2 (step.run ledger.table).1
  find : ∀ id, layout.find? (.text id) ledger.table =
    if .select ∈ ledger.table.failing then .error .database
    else .ok (layout.lastWritten? id ledger.past)
  list_rows : .select ∉ ledger.table.failing →
    ∃ rows, ledger.table.list engine layout.schema none [] = .ok rows ∧
      rows.Perm ledger.table.rows ∧ (engine.Scans → rows = ledger.table.rows)
  list_once : ∀ sort rows, ledger.table.list engine layout.schema sort [] = .ok rows →
    rows.Nodup ∧
      ∀ row, row ∈ rows ↔ layout.lastWritten? (layout.schema.key row) ledger.past = some row

theorem Ledger.Recalls.isOrderedMap {ledger : Ledger layout} (engine : Engine)
    (hlayout : layout.Keyed) (hrecalls : ledger.Recalls) : ledger.IsOrderedMap engine where
  distinct := hrecalls.kept.distinct
  effect := fun step => step.effect_run hlayout hrecalls.kept
  find := by
    intro id
    split_ifs with hselect
    · have hattempt : ledger.table.attempt .select = .error .database := by
        simp [Table.attempt, hselect]
      unfold find?
      rw [hattempt]
      rfl
    · exact find?_eq_ok_iff.mpr ⟨hselect, hrecalls.recalls id⟩
  list_rows := list_unfiltered engine
  list_once := by
    intro sort rows hlist
    have hperm := list_unfiltered_perm hlist
    refine ⟨hperm.nodup_iff.mpr (List.Nodup.of_map _ hrecalls.kept.distinct), ?_⟩
    intro row
    rw [hperm.mem_iff, ← hrecalls.recalls, Table.find?_key_eq_some_iff hrecalls.kept.distinct]
    simp

end Layout

open Layout

/-- A user is rewritten in place, an insertion that fails changes nothing, and a deleted user is
not remembered. -/
example :
    (Ledger.ofSteps ([
      .create [("id", .text "1"), ("username", .text "ada"), ("password", .text "x")],
      .create [("id", .text "2"), ("username", .text "bob"), ("password", .text "y")],
      .switch [.insert],
      .create [("id", .text "3"), ("username", .text "eve"), ("password", .text "z")],
      .assign "1" [("email", .text "a@b")] rfl,
      .delete "2"] : List (Step User.layout))).table.rows =
    [[("id", .text "1"), ("username", .text "ada"), ("email", .text "a@b"),
      ("password", .text "x")]] := by
  decide +kernel

end Roster
