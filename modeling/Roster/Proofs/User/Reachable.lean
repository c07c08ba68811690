import Roster.Proofs.Payload.Accepted
import Roster.Proofs.User.Calls
import Mathlib.Tactic

/-!
# Reachable registries

A registry is reached from the empty one by calls with accepted payloads, where any kind of
statement may start or stop failing between two calls.  What a call does to the rows is summed up
in four steps, each with the checks that were passed before it.  An invariant of the rows has to be
kept by these steps only.
-/

namespace Roster

def UserCall.Accepted : UserCall → Prop
  | .create credentials | .login _ credentials | .update _ credentials =>
      credentials.Accepted
  | .delete _ | .list _ | .findOne _ => True

def State.withFailing (state : State) (failing : List Statement) : State :=
  { state with users := { state.users with failing } }

namespace Users

open Call

/-- The states that calls of the registry lead to. -/
inductive Reachable (service : Service) : State → Prop where
  | empty : Reachable service {}
  | call {state : State} (call : UserCall) :
      Reachable service state → call.Accepted →
        Reachable service ((call.run service).after state).2
  | faults {state : State} (failing : List Statement) :
      Reachable service state → Reachable service (state.withFailing failing)

/-- What a call can do to the rows of a table. -/
inductive RowStep (service : Service) (before : Table User) : List User → Prop where
  | stay : RowStep service before before.rows
  | append (credentials : Credentials) (user : User) :
      credentials.Accepted → user.Fits service credentials →
        takenColumn? credentials none before = .ok none →
        (∀ old ∈ before.rows, old.id ≠ user.id) →
        RowStep service before (before.rows ++ [user])
  | overwrite (credentials : Credentials) (user : User) (own : Option String) :
      credentials.Accepted → user.Fits service credentials →
        takenColumn? credentials own before = .ok none →
        (∀ id ∈ own, user.id = id) →
        RowStep service before (Table.overwrite User.schema user before.rows)
  | drop (id : String) :
      RowStep service before (before.rows.filter fun user => user.id ≠ id)

variable {service : Service} {state : State}

theorem rowStep_of_ok
    {call : UserCall} {answer : UserAnswer} {after : State}
    (hids : (state.users.rows.map User.id).Nodup) (haccepted : call.Accepted)
    (hcall : (call.run service).after state = (.ok answer, after)) :
    RowStep service state.users after.users.rows := by
  cases call with
  | create credentials =>
      obtain ⟨view, middle, hcreate, hdone⟩ := after_bind_eq_ok_iff.mp hcall
      obtain ⟨_, rfl⟩ := Prod.mk.inj hdone
      obtain ⟨user, stored, users, htaken, hfits, _, hput, _, rfl⟩ :=
        create_ok hcreate
      obtain ⟨_, _, hrows⟩ := Table.rows_of_put hids hput
      rcases hrows with ⟨hnew, hrows⟩ | ⟨_, hrows⟩
      · simp only [hrows]
        exact .append credentials user haccepted hfits htaken hnew
      · simp only [hrows]
        apply RowStep.overwrite credentials user none haccepted hfits htaken
        intro id hid
        cases hid
  | update id credentials =>
      obtain ⟨view, middle, hupdate, hdone⟩ := after_bind_eq_ok_iff.mp hcall
      obtain ⟨_, rfl⟩ := Prod.mk.inj hdone
      obtain ⟨old, user, stored, users, hfind, htaken, hfits, hkey, hreplace, _, rfl⟩ :=
        update_ok hupdate
      obtain ⟨_, _, hrows⟩ := Table.rows_of_replace hids
        (List.mem_of_find?_eq_some hfind) hkey hreplace
      have hold : old.id = id := by simpa using List.find?_some hfind
      simp only [hrows]
      apply RowStep.overwrite credentials user (some id) haccepted hfits htaken
      intro own hown
      cases hown
      exact hkey.trans hold
  | delete id =>
      obtain ⟨_, middle, hdelete, hdone⟩ := after_bind_eq_ok_iff.mp hcall
      obtain ⟨_, rfl⟩ := Prod.mk.inj hdone
      obtain ⟨found, users, hrows, rfl⟩ := delete_ok hdelete
      obtain ⟨_, hrows⟩ := Table.rows_of_delete hrows
      simp only [hrows]
      exact .drop id
  | login now credentials =>
      have htables := ((readsOnly_login service now credentials).quiet.bind
        fun token => quiet_pure _).sameTables hcall
      rw [htables.users]
      exact .stay
  | list request =>
      have htables := ((readsOnly_list service request).quiet.bind
        fun page => quiet_pure _).sameTables hcall
      rw [htables.users]
      exact .stay
  | findOne id =>
      have htables := ((readsOnly_findOne id).quiet.bind
        fun view => quiet_pure _).sameTables hcall
      rw [htables.users]
      exact .stay

theorem rowStep_run
    {call : UserCall}
    (hids : (state.users.rows.map User.id).Nodup) (haccepted : call.Accepted) :
    RowStep service state.users ((call.run service).after state).2.users.rows := by
  rcases hcall : (call.run service).after state with ⟨outcome, after⟩
  cases outcome with
  | ok answer => exact rowStep_of_ok hids haccepted hcall
  | error failure =>
      have htables := (call.atomic_run service).sameTables hcall
      simp only [htables.users]
      exact .stay

theorem RowStep.ids_nodup {before : Table User} {after : List User}
    (hids : (before.rows.map User.id).Nodup)
    (hstep : RowStep service before after) : (after.map User.id).Nodup := by
  cases hstep with
  | stay => exact hids
  | append credentials user _ _ _ hnew =>
      exact Table.nodup_keys_append User.schema hids hnew
  | overwrite credentials user own _ _ _ _ =>
      exact Table.nodup_keys_overwrite User.schema hids
  | drop id =>
      exact hids.sublist (List.filter_sublist.map _)

/-- What holds of no rows and is kept by every step on rows with distinct
identifiers holds of every reachable registry. -/
theorem Reachable.rows_induction {motive : List User → Prop}
    (hempty : motive [])
    (hstep : ∀ (before : Table User) (after : List User),
      (before.rows.map User.id).Nodup → motive before.rows →
        RowStep service before after → motive after)
    (hreach : Reachable service state) :
    (state.users.rows.map User.id).Nodup ∧ motive state.users.rows := by
  induction hreach with
  | empty => exact ⟨List.nodup_nil, hempty⟩
  | call call hreach haccepted ih =>
      have hrows : RowStep service _ _ := rowStep_run ih.1 haccepted
      exact ⟨hrows.ids_nodup ih.1, hstep _ _ ih.1 ih.2 hrows⟩
  | faults failing hreach ih => exact ih

theorem Reachable.ids_nodup (hreach : Reachable service state) :
    (state.users.rows.map User.id).Nodup :=
  (hreach.rows_induction (motive := fun _ => True) trivial fun _ _ _ _ _ => trivial).1

end Users
end Roster
