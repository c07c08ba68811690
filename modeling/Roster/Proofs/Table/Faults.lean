import Roster.Proofs.Table.Rows
import Mathlib.Tactic

/-!
# How operations on a table fail

A statement that is made to fail ends an operation with a database error.  Besides that, a lookup
fails on a value that the database cannot take: an integer beyond 64 bits or a text that cannot be
encoded.  A row whose integers fit is stored, replaced and deleted without any other error.
-/

namespace Roster
namespace Table

open Outcome

variable {ρ : Type} {schema : Schema ρ} {table : Table ρ} {error : StoreError}

/-! ## Lookups -/

theorem attempt_eq_error_iff {statement : Statement} :
    table.attempt statement = .error error ↔ statement ∈ table.failing ∧ error = .database := by
  unfold attempt
  by_cases hfailing : statement ∈ table.failing
  · simp [hfailing, eq_comm]
  · simp [hfailing]

theorem find?_eq_error_iff {key : String} :
    table.find? schema key = .error error ↔ .select ∈ table.failing ∧ error = .database := by
  unfold find?
  rw [bind_eq_error_iff, attempt_eq_error_iff]
  simp [pure, Except.pure]

theorem findCell?_eq_error_iff {cell : ρ → Cell} {value : Cell} :
    table.findCell? cell value = .error error ↔
      .select ∈ table.failing ∧ error = .database ∨
        .select ∉ table.failing ∧ value.isStorable = false ∧ error = .outOfRange := by
  unfold findCell?
  rw [bind_eq_error_iff, attempt_eq_error_iff]
  simp only [attempt_eq_ok_iff]
  cases hstorable : value.isStorable with
  | true => simp [pure, Except.pure]
  | false =>
      simp [throw, throwThe, MonadExceptOf.throw, bind, Except.bind, eq_comm]

theorem bindText_eq_error_iff {text : LooseText} :
    table.bindText text = .error error ↔
      .select ∈ table.failing ∧ error = .database ∨
        .select ∉ table.failing ∧
          ∃ fault, text.encode = .error fault ∧ error = .unencodable fault := by
  unfold bindText
  rw [bind_eq_error_iff, attempt_eq_error_iff]
  simp only [attempt_eq_ok_iff]
  cases text.encode with
  | ok plain => simp [Except.mapError]
  | error fault => simp [Except.mapError, eq_comm]

theorem findName?_eq_error_iff {cell : ρ → Cell} {name : LooseText} :
    table.findName? cell name = .error error ↔
      .select ∈ table.failing ∧ error = .database ∨
        .select ∉ table.failing ∧
          ∃ fault, name.lower.encode = .error fault ∧ error = .unencodable fault := by
  unfold findName?
  rw [bind_eq_error_iff, bindText_eq_error_iff]
  simp [pure, Except.pure]

/-! ## Writing operations -/

theorem database_of_inserting {row : ρ} (hrows : table.inserting row = .error error) :
    error = .database := by
  unfold inserting at hrows
  rcases bind_eq_error_iff.mp hrows with hattempt | ⟨_, -, hdone⟩
  · exact (attempt_eq_error_iff.mp hattempt).2
  · cases hdone

theorem database_of_deleting {key : String} (hrows : table.deleting schema key = .error error) :
    error = .database := by
  unfold deleting at hrows
  rcases bind_eq_error_iff.mp hrows with hattempt | ⟨_, -, hdone⟩
  · exact (attempt_eq_error_iff.mp hattempt).2
  · cases hdone

theorem database_of_overwriting {old new : ρ}
    (hrows : table.overwriting schema old new = .error error) : error = .database := by
  unfold overwriting at hrows
  rcases bind_eq_error_iff.mp hrows with hattempt | ⟨_, -, hrest⟩
  · exact (attempt_eq_error_iff.mp hattempt).2
  · split_ifs at hrest
    · cases hrest
      rfl
    · cases hrest

section Writing

variable [DecidableEq ρ] {row : ρ}

theorem database_of_replace {old : ρ} (haccept : schema.accept row = .ok row)
    (hreplace : table.replace schema old (schema.revised old row) = .error error) :
    error = .database := by
  have hrevised : schema.revised old row = .ok (if row = old then none else some row) := by
    unfold Schema.revised
    rw [haccept]
    rfl
  unfold replace at hreplace
  rw [hrevised, ok_bind] at hreplace
  by_cases hsame : row = old
  · rw [if_pos hsame] at hreplace
    cases hreplace
  · rw [if_neg hsame] at hreplace
    rcases bind_eq_error_iff.mp hreplace with hrows | ⟨_, -, hdone⟩
    · exact database_of_overwriting hrows
    · cases hdone

theorem database_of_put (haccept : schema.accept row = .ok row)
    (hput : table.put schema (Draft.ofRow schema row) = .error error) :
    error = .database := by
  unfold put at hput
  rcases bind_eq_error_iff.mp hput with hfind | ⟨found, -, hrest⟩
  · exact (find?_eq_error_iff.mp hfind).2
  · cases found with
    | some old => exact database_of_replace haccept hrest
    | none =>
        have hinserted : (Draft.ofRow schema row).inserted = .ok row := haccept
        simp only [hinserted, ok_bind] at hrest
        rcases bind_eq_error_iff.mp hrest with hrows | ⟨_, -, hdone⟩
        · exact database_of_inserting hrows
        · cases hdone

end Writing

theorem database_of_delete {key : String} (hdelete : table.delete schema key = .error error) :
    error = .database := by
  unfold delete at hdelete
  rcases bind_eq_error_iff.mp hdelete with hfind | ⟨found, -, hrest⟩
  · exact (find?_eq_error_iff.mp hfind).2
  · cases found with
    | none => cases hrest
    | some row =>
        rcases bind_eq_error_iff.mp hrest with hrows | ⟨_, -, hdone⟩
        · exact database_of_deleting hrows
        · cases hdone

end Table
end Roster
