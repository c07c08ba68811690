import Roster.Proofs.Service.Pages
import Roster.Proofs.Service.Queries
import Roster.Proofs.Table.Conjunction
import Mathlib.Tactic

/-!
# Filters on users and campaigns are put together

The rows of users and campaigns can be sorted by every column, so answers that have the same rows
have their sort keys in the same order too.  The database engine sets limits: two queries that it
answers can make one that it does not.
-/

namespace Roster

/-- Filters that are put together find the rows that each of them finds, and their order does not
matter, as far as the database engine runs the statements. -/
theorem filters_are_conjunctive :
    (∀ (engine : Engine) (table : Table User), table.Conjunction engine User.schema) ∧
      ∀ (engine : Engine) (table : Table Campaign), table.Conjunction engine Campaign.schema :=
  ⟨Table.conjunction User.schema_isPlain User.schema_isExact,
    Table.conjunction Campaign.schema_isPlain Campaign.schema_isExact⟩

example :
    threeUsers.list .standard User.schema none [withUsername] =
        .ok [⟨"1", "ada", "", "hash"⟩, ⟨"2", "bob", "", "hash"⟩] ∧
      threeUsers.list .standard User.schema none ([withUsername] ++ [anyAda]) =
        .ok [⟨"1", "ada", "", "hash"⟩] := by
  simp only [Table.list_standard]
  decide +kernel

/-- Both lists of filters find a user, and put together they are too many. -/
theorem joined_filters_too_high :
    threeUsers.list .standard User.schema none (List.replicate 500 anyAda) =
        .ok [⟨"1", "ada", "", "hash"⟩] ∧
      threeUsers.list .standard User.schema none (List.replicate 499 anyAda) =
        .ok [⟨"1", "ada", "", "hash"⟩] ∧
      threeUsers.list .standard User.schema none
          (List.replicate 500 anyAda ++ List.replicate 499 anyAda) =
        .error .database := by
  simp only [Table.list_standard]
  decide +kernel

end Roster
