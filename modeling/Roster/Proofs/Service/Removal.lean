import Roster.Proofs.Campaign.Calls
import Roster.Proofs.Identifier
import Roster.Proofs.User.Calls
import Mathlib.Tactic

/-!
# What a deletion removes

A deletion checks that its text spells a UUID, but then looks for the text itself among the
identifiers of the rows.  These are canonical, so the canonical spelling of a UUID removes exactly
the row that denotes it.  A deletion under any other spelling finds nothing and changes nothing,
and it succeeds all the same.
-/

namespace Roster

open Identifier Outcome

variable {ρ : Type} {schema : Schema ρ} {id : String} {before after : Table ρ}

/-- The table without the rows whose identifiers denote the UUID that a text spells. -/
def Table.without (schema : Schema ρ) (id : String) (table : Table ρ) : Table ρ :=
  { table with rows := table.rows.filter fun row => denotes? (schema.key row) ≠ denotes? id }

/-- What has become of a table when a deletion under a text has succeeded. -/
structure Table.Deletion (schema : Schema ρ) (id : String) (before after : Table ρ) : Prop where
  spelled : isSpelling id = true
  removes_iff : after = before.without schema id ↔
    IsCanonical id ∨ ∀ row ∈ before.rows, denotes? (schema.key row) ≠ denotes? id
  unchanged : ¬ IsCanonical id → after = before

namespace Table

theorem without_eq_self_iff :
    before.without schema id = before ↔
      ∀ row ∈ before.rows, denotes? (schema.key row) ≠ denotes? id := by
  have hrows : before.without schema id = before ↔
      before.rows.filter (fun row => denotes? (schema.key row) ≠ denotes? id) = before.rows := by
    unfold without
    cases before
    simp
  rw [hrows, List.filter_eq_self]
  simp

/-- Among canonical identifiers, those that denote the same UUID as a canonical text are equal
to it. -/
theorem without_eq_of_canonical (hcanonical : IsCanonical id)
    (hkeys : ∀ row ∈ before.rows, IsCanonical (schema.key row)) :
    before.without schema id =
      { before with rows := before.rows.filter fun row => schema.key row ≠ id } := by
  have hrows : ∀ row ∈ before.rows,
      decide (denotes? (schema.key row) ≠ denotes? id) = decide (schema.key row ≠ id) := by
    intro row hrow
    rw [decide_eq_decide, not_iff_not]
    exact ⟨(hkeys row hrow).unique hcanonical, fun hkey => by rw [hkey]⟩
  unfold without
  rw [List.filter_congr hrows]

theorem filter_key_eq_self (hcanonical : ¬ IsCanonical id)
    (hkeys : ∀ row ∈ before.rows, IsCanonical (schema.key row)) :
    before.rows.filter (fun row => schema.key row ≠ id) = before.rows := by
  rw [List.filter_eq_self]
  intro row hrow
  rw [decide_eq_true_eq]
  rintro rfl
  exact hcanonical (hkeys row hrow)

theorem deletion_of_delete {found : Bool} (hspelled : isSpelling id = true)
    (hkeys : ∀ row ∈ before.rows, IsCanonical (schema.key row))
    (hdelete : before.delete schema id = .ok (found, after)) :
    Deletion schema id before after := by
  obtain ⟨-, rfl⟩ := delete_eq_ok hdelete
  by_cases hcanonical : IsCanonical id
  · exact {
      spelled := hspelled
      removes_iff := iff_of_true (without_eq_of_canonical hcanonical hkeys).symm (.inl hcanonical)
      unchanged := fun hother => absurd hcanonical hother }
  · rw [filter_key_eq_self hcanonical hkeys]
    exact {
      spelled := hspelled
      removes_iff := by
        rw [← without_eq_self_iff, eq_comm]
        simp [hcanonical]
      unchanged := fun _ => rfl }

end Table

/-- A deletion that succeeds removes exactly the row that denotes the UUID if its text is the
canonical spelling, or if there is no such row.  Otherwise the row stays. -/
theorem deletion_removes_iff_canonical (id : String) (state after : State) :
    ((∀ user ∈ state.users.rows, IsCanonical user.id) →
      (Users.delete id).after state = (.ok (), after) →
        after = { state with users := after.users } ∧
          Table.Deletion User.schema id state.users after.users) ∧
    ((∀ campaign ∈ state.campaigns.rows, IsCanonical campaign.id) →
      (Campaigns.delete id).after state = (.ok (), after) →
        after = { state with campaigns := after.campaigns } ∧
          Table.Deletion Campaign.schema id state.campaigns after.campaigns) := by
  constructor
  · intro hkeys hcall
    have hspelled := (Call.checkIdentifier_bind_ok hcall).1
    obtain ⟨found, users, hdelete, rfl⟩ := Users.delete_ok hcall
    exact ⟨rfl, Table.deletion_of_delete hspelled hkeys hdelete⟩
  · intro hkeys hcall
    have hspelled := (Call.checkIdentifier_bind_ok hcall).1
    obtain ⟨found, campaigns, hdelete, rfl⟩ := Campaigns.delete_ok hcall
    exact ⟨rfl, Table.deletion_of_delete hspelled hkeys hdelete⟩

def oneRowEach : State where
  users.rows := [⟨generated 1, "ada", "ada@example.org", ""⟩]
  campaigns.rows := [⟨generated 2, "spring", 2024, none⟩]

theorem deletion_removes_iff_canonical_generated :
    Table.Deletion User.schema (generated 1) oneRowEach.users {} ∧
      Table.Deletion Campaign.schema (generated 2) oneRowEach.campaigns {} := by
  have husers : ∀ user ∈ oneRowEach.users.rows, IsCanonical user.id := by
    intro user huser
    rw [List.mem_singleton.mp huser]
    exact isCanonical_generated (by decide)
  have hcampaigns : ∀ campaign ∈ oneRowEach.campaigns.rows, IsCanonical campaign.id := by
    intro campaign hcampaign
    rw [List.mem_singleton.mp hcampaign]
    exact isCanonical_generated (by decide)
  exact ⟨((deletion_removes_iff_canonical (generated 1) oneRowEach
      { oneRowEach with users := {} }).1 husers rfl).2,
    ((deletion_removes_iff_canonical (generated 2) oneRowEach
      { oneRowEach with campaigns := {} }).2 hcampaigns rfl).2⟩

/-- Without its hyphens an identifier denotes the same UUID, but no row is found under it. -/
theorem unhyphenated_deletion_keeps_user :
    denotes? "00000000000040008000000000000001" = denotes? (generated 1) ∧
      (Users.delete "00000000000040008000000000000001").after oneRowEach =
        (.ok (), oneRowEach) ∧
      ∃ user ∈ oneRowEach.users.rows, user.id = generated 1 := by
  refine ⟨?_, rfl, _, List.mem_singleton_self _, rfl⟩
  decide +kernel

end Roster
