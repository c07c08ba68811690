import Roster.Table.Basic
import Roster.Proofs.Outcome
import Mathlib.Tactic

/-!
# What operations do to the rows of a table

An operation that succeeds leaves the rows of its table as one of three edits does: a row is
appended, a row is put in the place of the one that has its key, or the row of a key is dropped.
The edits are stated for lists of rows; each operation has one theorem that names its edit and
says when it is made.  The kinds of failing statements are never touched.
-/

namespace Roster
namespace Table

open Outcome

variable {ρ : Type}

/-! ## Rows in the place of others -/

/-- The rows with `row` in the place of those that have its key. -/
def overwrite (schema : Schema ρ) (row : ρ) (rows : List ρ) : List ρ :=
  rows.map fun old => if schema.key old = schema.key row then row else old

theorem keys_overwrite (schema : Schema ρ) (row : ρ) (rows : List ρ) :
    (overwrite schema row rows).map schema.key = rows.map schema.key := by
  unfold overwrite
  rw [List.map_map]
  apply List.map_congr_left
  intro old _
  by_cases hkey : schema.key old = schema.key row
  · simp [hkey]
  · simp [hkey]

theorem mem_overwrite
    {schema : Schema ρ} {row other : ρ} {rows : List ρ}
    (hmem : other ∈ overwrite schema row rows) :
    other = row ∨ other ∈ rows ∧ schema.key other ≠ schema.key row := by
  obtain ⟨old, hold, heq⟩ := List.mem_map.mp hmem
  by_cases hkey : schema.key old = schema.key row
  · left
    simpa [hkey] using heq.symm
  · right
    rw [if_neg hkey] at heq
    subst other
    exact ⟨hold, hkey⟩

theorem overwrite_of_not_mem
    {schema : Schema ρ} {row : ρ} {rows : List ρ}
    (habsent : ∀ old ∈ rows, schema.key old ≠ schema.key row) :
    overwrite schema row rows = rows := by
  unfold overwrite
  conv_rhs => rw [← List.map_id rows]
  apply List.map_congr_left
  intro old hold
  simp [habsent old hold]

/-- Under distinct keys exactly one row gives way, and the new one stands in its place. -/
theorem overwrite_split
    {schema : Schema ρ} {old row : ρ} {rows : List ρ}
    (hkeys : (rows.map schema.key).Nodup) (hold : old ∈ rows)
    (hkey : schema.key row = schema.key old) :
    ∃ front back,
      rows = front ++ old :: back ∧
        overwrite schema row rows = front ++ row :: back := by
  obtain ⟨front, back, hsplit⟩ := List.append_of_mem hold
  subst rows
  rw [List.map_append, List.map_cons, List.nodup_append,
    List.nodup_cons] at hkeys
  have hfront : ∀ other ∈ front, schema.key other ≠ schema.key row := by
    intro other hother
    rw [hkey]
    exact hkeys.2.2 _ (List.mem_map_of_mem hother) _ List.mem_cons_self
  have hback : ∀ other ∈ back, schema.key other ≠ schema.key row := by
    intro other hother heq
    apply hkeys.2.1.1
    rw [← hkey, ← heq]
    exact List.mem_map_of_mem hother
  refine ⟨front, back, rfl, ?_⟩
  have happend : overwrite schema row (front ++ old :: back) =
      overwrite schema row front ++
        (if schema.key old = schema.key row then row else old) ::
          overwrite schema row back := by
    simp [overwrite]
  rw [happend, if_pos hkey.symm, overwrite_of_not_mem hfront,
    overwrite_of_not_mem hback]

theorem overwrite_self
    {schema : Schema ρ} {row : ρ} {rows : List ρ}
    (hkeys : (rows.map schema.key).Nodup) (hrow : row ∈ rows) :
    overwrite schema row rows = rows := by
  obtain ⟨front, back, hsplit, hafter⟩ := overwrite_split hkeys hrow rfl
  rw [hafter, ← hsplit]

theorem nodup_keys_overwrite
    (schema : Schema ρ) {row : ρ} {rows : List ρ}
    (hkeys : (rows.map schema.key).Nodup) :
    ((overwrite schema row rows).map schema.key).Nodup := by
  rwa [keys_overwrite]

theorem nodup_keys_append
    (schema : Schema ρ) {row : ρ} {rows : List ρ}
    (hkeys : (rows.map schema.key).Nodup)
    (hnew : ∀ old ∈ rows, schema.key old ≠ schema.key row) :
    ((rows ++ [row]).map schema.key).Nodup := by
  rw [List.map_append, List.nodup_append]
  refine ⟨hkeys, List.nodup_singleton _, ?_⟩
  intro key hkey other hother
  obtain ⟨old, hold, rfl⟩ := List.mem_map.mp hkey
  rw [List.mem_singleton.mp hother]
  exact hnew old hold

/-- What is distinct among the rows finds the one row that has it. -/
theorem find?_key_eq_some_iff {κ : Type} [DecidableEq κ] {key : ρ → κ} {rows : List ρ}
    (hkeys : (rows.map key).Nodup) {wanted : κ} {row : ρ} :
    rows.find? (fun row => key row = wanted) = some row ↔ row ∈ rows ∧ key row = wanted := by
  constructor
  · intro hfind
    exact ⟨List.mem_of_find?_eq_some hfind, by simpa using List.find?_some hfind⟩
  · rintro ⟨hrow, hkey⟩
    cases hfind : rows.find? (fun row => key row = wanted) with
    | none =>
        have hnone := List.find?_eq_none.mp hfind row hrow
        exact absurd hkey (by simpa using hnone)
    | some first =>
        have hfirst : key first = wanted := by simpa using List.find?_some hfind
        have hsame := List.inj_on_of_nodup_map hkeys (List.mem_of_find?_eq_some hfind) hrow
          (hfirst.trans hkey.symm)
        rw [hsame]

theorem find?_append_row (schema : Schema ρ) {row : ρ} {rows : List ρ}
    (hnew : ∀ old ∈ rows, schema.key old ≠ schema.key row) (key : String) :
    (rows ++ [row]).find? (fun other => schema.key other = key) =
      if schema.key row = key then some row
      else rows.find? fun other => schema.key other = key := by
  rw [List.find?_append]
  split_ifs with hkey
  · have hnone : rows.find? (fun other => schema.key other = key) = none :=
      List.find?_eq_none.mpr fun old hold => by simpa [← hkey] using hnew old hold
    simp [hnone, hkey]
  · simp [hkey]

theorem find?_filter_key (schema : Schema ρ) (gone key : String) (rows : List ρ) :
    (rows.filter fun row => schema.key row ≠ gone).find? (fun row => schema.key row = key) =
      if gone = key then none else rows.find? fun row => schema.key row = key := by
  rw [List.find?_filter]
  split_ifs with hgone
  · subst hgone
    simp
  · congr 1
    funext row
    by_cases hkey : schema.key row = key
    · simp [hkey, Ne.symm hgone]
    · simp [hkey]

/-! ## Single statements -/

theorem attempt_eq_ok_iff
    {table : Table ρ} {statement : Statement} {done : Unit} :
    table.attempt statement = .ok done ↔ statement ∉ table.failing := by
  unfold attempt
  by_cases hfailing : statement ∈ table.failing
  · simp [hfailing]
  · simp [hfailing]

theorem find?_eq_ok_iff
    {schema : Schema ρ} {key : String} {table : Table ρ} {found : Option ρ} :
    table.find? schema key = .ok found ↔
      .select ∉ table.failing ∧
        table.rows.find? (fun row => schema.key row = key) = found := by
  unfold find?
  simp only [bind_eq_ok_iff, attempt_eq_ok_iff, pure_eq_ok_iff]
  simp

theorem findName?_eq_ok_iff
    {cell : ρ → Cell} {name : LooseText} {table : Table ρ} {found : Option ρ} :
    table.findName? cell name = .ok found ↔
      .select ∉ table.failing ∧ ∃ wanted : String,
        name.lower = LooseText.ofString wanted ∧
          table.rows.find? (fun row =>
            (cell row).text?.map asciiLower = some wanted) = found := by
  unfold findName? bindText
  simp only [bind_eq_ok_iff, mapError_eq_ok_iff, attempt_eq_ok_iff,
    pure_eq_ok_iff, LooseText.encode_eq_ok_iff]
  simp [and_assoc]

theorem findCell?_eq_ok_iff
    {cell : ρ → Cell} {value : Cell} {table : Table ρ} {found : Option ρ} :
    table.findCell? cell value = .ok found ↔
      .select ∉ table.failing ∧ value.isStorable ∧
        table.rows.find? (fun row =>
          if value.isNull then (cell row).isNull else (cell row).same value) =
            found := by
  unfold findCell?
  cases hstorable : value.isStorable with
  | true =>
      simp [bind_eq_ok_iff, attempt_eq_ok_iff, pure, Except.pure]
  | false =>
      simp only [bind_eq_ok_iff]
      simp [throw, throwThe, MonadExceptOf.throw, bind, Except.bind]

theorem inserting_eq_ok_iff {row : ρ} {table : Table ρ} {rows : List ρ} :
    table.inserting row = .ok rows ↔ .insert ∉ table.failing ∧ table.rows ++ [row] = rows := by
  unfold inserting
  simp only [bind_eq_ok_iff, attempt_eq_ok_iff, pure_eq_ok_iff, exists_const]

theorem deleting_eq_ok_iff
    {schema : Schema ρ} {key : String} {table : Table ρ} {rows : List ρ} :
    table.deleting schema key = .ok rows ↔
      .delete ∉ table.failing ∧ (table.rows.filter fun row => schema.key row ≠ key) = rows := by
  unfold deleting
  simp only [bind_eq_ok_iff, attempt_eq_ok_iff, pure_eq_ok_iff, exists_const]

/-- A row gets another key only if no row has that one. -/
theorem overwriting_eq_ok_iff
    {schema : Schema ρ} {old new : ρ} {table : Table ρ} {rows : List ρ} :
    table.overwriting schema old new = .ok rows ↔
      .update ∉ table.failing ∧
        (schema.key new = schema.key old ∨
          ∀ row ∈ table.rows, schema.key row ≠ schema.key new) ∧
        (table.rows.map fun row => if schema.key row = schema.key old then new else row) =
          rows := by
  have hfree : (schema.key new = schema.key old ∨
      ∀ row ∈ table.rows, schema.key row ≠ schema.key new) ↔
        ¬ (schema.key new ≠ schema.key old ∧
          table.rows.any fun row => schema.key row = schema.key new) := by
    simp [or_iff_not_imp_left]
  unfold overwriting
  simp only [bind_eq_ok_iff, attempt_eq_ok_iff, exists_const, hfree]
  split_ifs with hclash
  · constructor
    · rintro ⟨-, hthrown⟩
      cases hthrown
    · rintro ⟨-, hnone, -⟩
      exact absurd hclash hnone
  · constructor
    · rintro ⟨hupdate, hrows⟩
      exact ⟨hupdate, hclash, Except.ok.inj hrows⟩
    · rintro ⟨hupdate, -, rfl⟩
      exact ⟨hupdate, rfl⟩

/-! ## Writing operations -/

theorem eq_of_accept
    {schema : Schema ρ} {row accepted : ρ}
    (haccept : schema.accept row = .ok accepted) : accepted = row := by
  unfold Schema.accept at haccept
  split at haccept
  · exact (Except.ok.inj haccept).symm
  · cases haccept

theorem revised_ok [DecidableEq ρ]
    {schema : Schema ρ} {old row : ρ} {changed : Option ρ}
    (hrevised : schema.revised old row = .ok changed) :
    schema.accept row = .ok row ∧ changed = if row = old then none else some row := by
  unfold Schema.revised at hrevised
  obtain ⟨accepted, haccept, hchanged⟩ := bind_eq_ok_iff.mp hrevised
  have hsame := eq_of_accept haccept
  subst hsame
  exact ⟨haccept, (pure_eq_ok_iff.mp hchanged).symm⟩

/-- Without a row to put in the place of the old one nothing is written. -/
theorem replace_eq_ok
    {schema : Schema ρ} {old stored : ρ} {changed : Except StoreError (Option ρ)}
    {table after : Table ρ}
    (hreplace : table.replace schema old changed = .ok (stored, after)) :
    changed = .ok none ∧ stored = old ∧ after = table ∨
      changed = .ok (some stored) ∧
        after = {
          table with
          rows := table.rows.map fun other =>
            if schema.key other = schema.key old then stored else other } := by
  unfold replace at hreplace
  obtain ⟨new?, hchanged, hrest⟩ := bind_eq_ok_iff.mp hreplace
  cases new? with
  | none =>
      obtain ⟨rfl, rfl⟩ := Prod.mk.inj (pure_eq_ok_iff.mp hrest)
      exact .inl ⟨hchanged, rfl, rfl⟩
  | some new =>
      obtain ⟨rows, hrows, hrest⟩ := bind_eq_ok_iff.mp hrest
      obtain ⟨rfl, rfl⟩ := Prod.mk.inj (pure_eq_ok_iff.mp hrest)
      obtain ⟨-, -, rfl⟩ := overwriting_eq_ok_iff.mp hrows
      exact .inr ⟨hchanged, rfl⟩

theorem put_eq_ok
    {schema : Schema ρ} {draft : Draft ρ} {stored : ρ} {table after : Table ρ}
    (hput : table.put schema draft = .ok (stored, after)) :
    ((∀ old ∈ table.rows, schema.key old ≠ draft.key) ∧ draft.inserted = .ok stored ∧
        after = { table with rows := table.rows ++ [stored] }) ∨
      ∃ old ∈ table.rows, schema.key old = draft.key ∧
        table.replace schema old (draft.overwritten old) = .ok (stored, after) := by
  unfold put at hput
  obtain ⟨found, hfind, hrest⟩ := bind_eq_ok_iff.mp hput
  have hlookup : table.rows.find? (fun old => schema.key old = draft.key) = found :=
    (find?_eq_ok_iff.mp hfind).2
  cases found with
  | none =>
      obtain ⟨inserted, hinserted, hrest⟩ := bind_eq_ok_iff.mp hrest
      obtain ⟨rows, hrows, hrest⟩ := bind_eq_ok_iff.mp hrest
      obtain ⟨rfl, rfl⟩ := Prod.mk.inj (pure_eq_ok_iff.mp hrest)
      obtain ⟨-, rfl⟩ := inserting_eq_ok_iff.mp hrows
      refine .inl ⟨?_, hinserted, rfl⟩
      intro old hold
      simpa using List.find?_eq_none.mp hlookup old hold
  | some old =>
      have hkey : schema.key old = draft.key := by
        simpa using List.find?_some hlookup
      exact .inr ⟨old, List.mem_of_find?_eq_some hlookup, hkey, hrest⟩

/-- What replaces a row has to fit its columns.  Nothing is written when it is the row itself. -/
theorem replace_ok [DecidableEq ρ]
    {schema : Schema ρ} {old row stored : ρ} {table after : Table ρ}
    (hreplace : table.replace schema old (schema.revised old row) =
      .ok (stored, after)) :
    stored = row ∧ schema.accept row = .ok row ∧
      (row = old ∧ after = table ∨
        after = {
          table with
          rows := table.rows.map fun other =>
            if schema.key other = schema.key old then row else other }) := by
  rcases replace_eq_ok hreplace with ⟨hrevised, rfl, rfl⟩ | ⟨hrevised, rfl⟩
  · obtain ⟨haccept, hchanged⟩ := revised_ok hrevised
    split_ifs at hchanged with hsame
    exact ⟨hsame.symm, haccept, .inl ⟨hsame, rfl⟩⟩
  · obtain ⟨haccept, hchanged⟩ := revised_ok hrevised
    split_ifs at hchanged with hsame
    obtain rfl := Option.some.inj hchanged
    exact ⟨rfl, haccept, .inr rfl⟩

theorem put_ok [DecidableEq ρ]
    {schema : Schema ρ} {row stored : ρ} {table after : Table ρ}
    (hput : table.put schema (Draft.ofRow schema row) = .ok (stored, after)) :
    ((∀ old ∈ table.rows, schema.key old ≠ schema.key row) ∧ stored = row ∧
        schema.accept row = .ok row ∧ after = { table with rows := table.rows ++ [row] }) ∨
      ∃ old ∈ table.rows, schema.key old = schema.key row ∧
        table.replace schema old (schema.revised old row) = .ok (stored, after) := by
  rcases put_eq_ok hput with ⟨hnew, hinserted, rfl⟩ | hreplaced
  · have hinserted : schema.accept row = .ok stored := hinserted
    obtain rfl := eq_of_accept hinserted
    exact .inl ⟨hnew, rfl, hinserted, rfl⟩
  · exact .inr hreplaced

/-- Replacing a row by one with its key puts the new row in the place of the
old one, whether or not a statement was needed for it. -/
theorem rows_of_replace [DecidableEq ρ]
    {schema : Schema ρ} {old row stored : ρ} {table after : Table ρ}
    (hkeys : (table.rows.map schema.key).Nodup) (hold : old ∈ table.rows)
    (hkey : schema.key row = schema.key old)
    (hreplace : table.replace schema old (schema.revised old row) =
      .ok (stored, after)) :
    stored = row ∧ after.failing = table.failing ∧
      after.rows = overwrite schema row table.rows := by
  obtain ⟨hstored, -, ⟨rfl, rfl⟩ | rfl⟩ := replace_ok hreplace
  · exact ⟨hstored, rfl, (overwrite_self hkeys hold).symm⟩
  · refine ⟨hstored, rfl, ?_⟩
    simp [overwrite, hkey]

/-- While updates work, a row of the table can be replaced by any row with its key that fits. -/
theorem replace_eq [DecidableEq ρ]
    {schema : Schema ρ} {old row : ρ} {table : Table ρ}
    (hkeys : (table.rows.map schema.key).Nodup) (hold : old ∈ table.rows)
    (hkey : schema.key row = schema.key old) (haccept : schema.accept row = .ok row)
    (hupdate : .update ∉ table.failing) :
    table.replace schema old (schema.revised old row) =
      .ok (row, { table with rows := overwrite schema row table.rows }) := by
  have hwritten : table.overwriting schema old row = .ok (overwrite schema row table.rows) := by
    refine overwriting_eq_ok_iff.mpr ⟨hupdate, .inl hkey, ?_⟩
    rw [overwrite, hkey]
  unfold replace Schema.revised
  simp only [haccept, ok_bind]
  by_cases hsame : row = old
  · subst hsame
    rw [overwrite_self hkeys hold, if_pos rfl]
    rfl
  · rw [if_neg hsame]
    simp [pure, Except.pure, bind, Except.bind, hwritten]

theorem rows_of_put [DecidableEq ρ]
    {schema : Schema ρ} {row stored : ρ} {table after : Table ρ}
    (hkeys : (table.rows.map schema.key).Nodup)
    (hput : table.put schema (Draft.ofRow schema row) = .ok (stored, after)) :
    stored = row ∧ after.failing = table.failing ∧
      ((∀ old ∈ table.rows, schema.key old ≠ schema.key row) ∧
          after.rows = table.rows ++ [row] ∨
        (∃ old ∈ table.rows, schema.key old = schema.key row) ∧
          after.rows = overwrite schema row table.rows) := by
  obtain ⟨hnew, hstored, -, rfl⟩ | ⟨old, hold, hkey, hreplace⟩ := put_ok hput
  · exact ⟨hstored, rfl, .inl ⟨hnew, rfl⟩⟩
  · obtain ⟨hstored, hfailing, hrows⟩ := rows_of_replace hkeys hold hkey.symm hreplace
    exact ⟨hstored, hfailing, .inr ⟨⟨old, hold, hkey⟩, hrows⟩⟩

theorem accepted_of_put [DecidableEq ρ]
    {schema : Schema ρ} {row stored : ρ} {table after : Table ρ}
    (hput : table.put schema (Draft.ofRow schema row) = .ok (stored, after)) :
    stored = row ∧ schema.accept row = .ok row ∧ row ∈ after.rows := by
  obtain ⟨-, hstored, haccept, rfl⟩ | ⟨old, hold, -, hreplace⟩ := put_ok hput
  · exact ⟨hstored, haccept, List.mem_append_right _ List.mem_cons_self⟩
  · obtain ⟨hstored, haccept, ⟨rfl, rfl⟩ | rfl⟩ := replace_ok hreplace
    · exact ⟨hstored, haccept, hold⟩
    · exact ⟨hstored, haccept, List.mem_map.mpr ⟨old, hold, if_pos rfl⟩⟩

theorem delete_eq_ok
    {schema : Schema ρ} {key : String} {found : Bool} {table after : Table ρ}
    (hdelete : table.delete schema key = .ok (found, after)) :
    (found = true ↔ ∃ row ∈ table.rows, schema.key row = key) ∧
      after = { table with rows := table.rows.filter fun row => schema.key row ≠ key } := by
  unfold delete at hdelete
  obtain ⟨row?, hfind, hrest⟩ := bind_eq_ok_iff.mp hdelete
  have hlookup := (find?_eq_ok_iff.mp hfind).2
  cases row? with
  | none =>
      obtain ⟨rfl, rfl⟩ := Prod.mk.inj (pure_eq_ok_iff.mp hrest)
      have habsent : ∀ row ∈ table.rows, schema.key row ≠ key := by
        intro row hrow
        simpa using List.find?_eq_none.mp hlookup row hrow
      have hrows : table.rows.filter (fun row => schema.key row ≠ key) = table.rows :=
        List.filter_eq_self.mpr fun row hrow => by simpa using habsent row hrow
      refine ⟨?_, by rw [hrows]⟩
      simpa using habsent
  | some row =>
      obtain ⟨rows, hrows, hrest⟩ := bind_eq_ok_iff.mp hrest
      obtain ⟨rfl, rfl⟩ := Prod.mk.inj (pure_eq_ok_iff.mp hrest)
      obtain ⟨-, rfl⟩ := deleting_eq_ok_iff.mp hrows
      refine ⟨?_, rfl⟩
      simp only [true_iff]
      exact ⟨row, List.mem_of_find?_eq_some hlookup, by simpa using List.find?_some hlookup⟩

theorem delete_total
    {schema : Schema ρ} {key : String} {table : Table ρ}
    (hselect : .select ∉ table.failing) (hdelete : .delete ∉ table.failing) :
    ∃ found, table.delete schema key =
      .ok (found, { table with rows := table.rows.filter fun row => schema.key row ≠ key }) := by
  have hfind : table.find? schema key =
      .ok (table.rows.find? fun row => schema.key row = key) :=
    find?_eq_ok_iff.mpr ⟨hselect, rfl⟩
  have hrows : table.deleting schema key = .ok _ := deleting_eq_ok_iff.mpr ⟨hdelete, rfl⟩
  have hdone : ∃ result, table.delete schema key = .ok result := by
    unfold delete
    rw [hfind, ok_bind]
    cases table.rows.find? fun row => schema.key row = key with
    | none => exact ⟨_, rfl⟩
    | some row =>
        simp only [hrows, ok_bind]
        exact ⟨_, rfl⟩
  obtain ⟨⟨found, after⟩, hresult⟩ := hdone
  obtain ⟨_, rfl⟩ := delete_eq_ok hresult
  exact ⟨found, hresult⟩

theorem rows_of_delete
    {schema : Schema ρ} {key : String} {found : Bool} {table after : Table ρ}
    (hdelete : table.delete schema key = .ok (found, after)) :
    after.failing = table.failing ∧
      after.rows = table.rows.filter fun row => schema.key row ≠ key := by
  obtain ⟨-, rfl⟩ := delete_eq_ok hdelete
  exact ⟨rfl, rfl⟩

end Table
end Roster
