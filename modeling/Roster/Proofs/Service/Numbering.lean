import Roster.Proofs.Campaign.Calls
import Roster.Proofs.Json.Numbers
import Roster.Proofs.User.Names
import Mathlib.Tactic

/-!
# Identifiers are given out once

The service numbers what it creates, and no call makes the count go back.  So a row that a call
leaves was there before, or has been written by the call: under an identifier that was there
before, or under one that nobody has ever had.
-/

namespace Roster

namespace Identifier

theorem decimalValue_replicate (count : Nat) (digits : List Char) :
    Json.decimalValue (List.replicate count '0' ++ digits) = Json.decimalValue digits := by
  induction count with
  | zero => rfl
  | succ count hcount =>
      rw [List.replicate_succ, List.cons_append, ← hcount]
      rfl

/-- Different numbers give different identifiers, also when they have outgrown the padding. -/
theorem generated_injective : Function.Injective generated := by
  intro first second hsame
  have hpadded : padded 12 first = padded 12 second := by
    unfold generated at hsame
    exact String.append_right_inj _ |>.mp hsame
  have hdigits : ∀ number, Json.decimalValue (padded 12 number).toList = number := by
    intro number
    unfold padded
    rw [String.toList_ofList, decimalValue_replicate, decimalValue_natText]
  rw [← hdigits first, hpadded, hdigits second]

end Identifier

open Call

variable {service : Service} {state after : State} {user : User}

/-! ## No call counts back -/

namespace Users

theorem counts_hashPassword (service : Service) (password : LooseText) :
    Counts (hashPassword service password) := by
  intro state
  rw [after_hashPassword]
  cases Password.hash service.signer.crypto (service.salt state.salts) password with
  | ok hash => exact Nat.le_refl _
  | error error => exact Nat.le_refl _

theorem counts_perform (task : Task) {α : Type}
    (operation : Table User → Except StoreError (α × Table User)) :
    Counts (Call.perform .users task operation) :=
  Call.counts_perform (fun _ _ => rfl) task operation

theorem counts_create (service : Service) (credentials : Credentials) :
    Counts (create service credentials) := by
  unfold create
  simp only [edit_put]
  apply (readsOnly_refuseTaken _ _ _).counts.bind
  intro _
  apply counts_freshIdentifier.bind
  intro id
  apply (counts_hashPassword _ _).bind
  intro hash
  apply (readsOnly_encode _).counts.bind
  intro username
  apply (readsOnly_encode _).counts.bind
  intro email
  exact (counts_perform _ _).bind fun stored => (readsOnly_pure _).counts

theorem counts_update (service : Service) (id : String) (credentials : Credentials) :
    Counts (update service id credentials) := by
  rw [update_eq]
  apply (readsOnly_checkIdentifier _ _).counts.bind
  intro _
  apply (readsOnly_ask _ _ _).counts.bind
  intro found
  cases found with
  | none => exact (readsOnly_refuse _).counts
  | some old =>
      apply (readsOnly_refuseTaken _ _ _).counts.bind
      intro _
      apply (counts_hashPassword _ _).bind
      intro hash
      apply (readsOnly_encode _).counts.bind
      intro username
      apply (readsOnly_encode _).counts.bind
      intro email
      exact (counts_perform _ _).bind fun stored => (readsOnly_pure _).counts

theorem counts_delete (id : String) : Counts (delete id) := by
  unfold delete
  simp only [edit_delete]
  apply (readsOnly_checkIdentifier _ _).counts.bind
  intro _
  exact (counts_perform _ _).bind fun found => (readsOnly_pure _).counts

end Users

theorem UserCall.counts_run (service : Service) (call : UserCall) : Counts (call.run service) := by
  cases call with
  | create credentials =>
      exact (Users.counts_create service credentials).bind fun view => (readsOnly_pure _).counts
  | login now credentials =>
      exact (Users.readsOnly_login service now credentials).counts.bind
        fun answer => (readsOnly_pure _).counts
  | update id credentials =>
      exact (Users.counts_update service id credentials).bind
        fun view => (readsOnly_pure _).counts
  | delete id => exact (Users.counts_delete id).bind fun _ => (readsOnly_pure _).counts
  | list request =>
      exact (Users.readsOnly_list service request).counts.bind fun page => (readsOnly_pure _).counts
  | findOne id =>
      exact (Users.readsOnly_findOne id).counts.bind fun view => (readsOnly_pure _).counts

namespace Campaigns

theorem counts_announce (service : Service) (campaign : Campaign) :
    Counts (announce service campaign) := by
  unfold announce
  intro state
  cases service.topic with
  | none => exact Nat.le_refl _
  | some topic => exact Nat.le_refl _

theorem counts_perform (task : Task) {α : Type}
    (operation : Table Campaign → Except StoreError (α × Table Campaign)) :
    Counts (Call.perform .campaigns task operation) :=
  Call.counts_perform (fun _ _ => rfl) task operation

theorem counts_create (service : Service) (draft : CampaignDraft) :
    Counts (create service draft) := by
  unfold create
  simp only [edit_put]
  apply (readsOnly_ask _ _ _).counts.bind
  intro found
  cases found with
  | some other => exact (readsOnly_refuse _).counts
  | none =>
      apply counts_freshIdentifier.bind
      intro id
      apply (readsOnly_encode _ _).counts.bind
      intro row
      apply (counts_perform _ _).bind
      intro stored
      exact (counts_announce service stored).bind fun _ => (readsOnly_pure _).counts

theorem counts_update (id : String) (draft : CampaignDraft) : Counts (update id draft) := by
  rw [update_eq]
  apply (readsOnly_checkIdentifier _ _).counts.bind
  intro _
  apply (readsOnly_ask _ _ _).counts.bind
  intro found
  cases found with
  | none => exact (readsOnly_refuse _).counts
  | some old =>
      have hwrite : Counts (do
          let campaign ← encode draft old.id
          Call.perform .campaigns .update (Table.replace Campaign.schema old
            (Campaign.schema.revised old campaign))) :=
        (readsOnly_encode _ _).counts.bind fun row => counts_perform _ _
      apply (readsOnly_ask _ _ _).counts.bind
      intro found
      cases found with
      | none => exact hwrite
      | some other =>
          by_cases hother : other.id = id
          · simp only [hother, ne_eq, not_true_eq_false, if_false]
            exact hwrite
          · simp only [ne_eq, hother, not_false_eq_true, if_true]
            exact (readsOnly_refuse _).counts.bind fun _ => hwrite

theorem counts_delete (id : String) : Counts (delete id) := by
  unfold delete
  simp only [edit_delete]
  apply (readsOnly_checkIdentifier _ _).counts.bind
  intro _
  exact (counts_perform _ _).bind fun found => (readsOnly_pure _).counts

end Campaigns

theorem CampaignCall.counts_run (service : Service) (call : CampaignCall) :
    Counts (call.run service) := by
  cases call with
  | create draft =>
      exact (Campaigns.counts_create service draft).bind fun row => (readsOnly_pure _).counts
  | update id draft =>
      exact (Campaigns.counts_update id draft).bind fun row => (readsOnly_pure _).counts
  | delete id => exact (Campaigns.counts_delete id).bind fun _ => (readsOnly_pure _).counts
  | list request =>
      exact (Campaigns.readsOnly_list service request).counts.bind fun page =>
        (readsOnly_pure _).counts
  | findOne id =>
      exact (Campaigns.readsOnly_findOne id).counts.bind fun row => (readsOnly_pure _).counts

/-- A call on campaigns never touches the users. -/
theorem CampaignCall.users_run (service : Service) (call : CampaignCall) (state : State) :
    ((call.run service).after state).2.users = state.users := by
  rcases hcall : (call.run service).after state with ⟨outcome, after⟩
  cases outcome with
  | error failure => exact ((call.atomic_run service).sameTables hcall).users
  | ok answer =>
      cases call with
      | create draft =>
          obtain ⟨row, middle, hcreate, hdone⟩ := after_bind_eq_ok_iff.mp hcall
          obtain ⟨_, rfl⟩ := Prod.mk.inj hdone
          obtain ⟨_, _, _, _, _, _, _, husers⟩ := Campaigns.create_ok hcreate
          exact husers
      | update id draft =>
          obtain ⟨row, middle, hupdate, hdone⟩ := after_bind_eq_ok_iff.mp hcall
          obtain ⟨_, rfl⟩ := Prod.mk.inj hdone
          obtain ⟨_, _, _, _, _, _, _, _, _, _, rfl⟩ := Campaigns.update_ok hupdate
          rfl
      | delete id =>
          obtain ⟨_, middle, hdelete, hdone⟩ := after_bind_eq_ok_iff.mp hcall
          obtain ⟨_, rfl⟩ := Prod.mk.inj hdone
          obtain ⟨_, _, _, rfl⟩ := Campaigns.delete_ok hdelete
          rfl
      | list request =>
          have htables := ((Campaigns.readsOnly_list service request).bind
            fun page => readsOnly_pure _).quiet.sameTables hcall
          exact htables.users
      | findOne id =>
          have htables := ((Campaigns.readsOnly_findOne id).bind
            fun row => readsOnly_pure _).quiet.sameTables hcall
          exact htables.users

/-! ## Where rows come from -/

namespace Table

variable {ρ : Type} [DecidableEq ρ] {schema : Schema ρ} {old row stored other : ρ}
  {table changed : Table ρ}

theorem mem_of_replace
    (hreplace : table.replace schema old (schema.revised old row) = .ok (stored, changed))
    (hother : other ∈ changed.rows) : other ∈ table.rows ∨ other = row := by
  obtain ⟨_, _, ⟨_, rfl⟩ | rfl⟩ := replace_ok hreplace
  · exact .inl hother
  · obtain ⟨before, hbefore, rfl⟩ := List.mem_map.mp hother
    split_ifs
    · exact .inr rfl
    · exact .inl hbefore

theorem mem_of_put
    (hput : table.put schema (Draft.ofRow schema row) = .ok (stored, changed))
    (hother : other ∈ changed.rows) : other ∈ table.rows ∨ other = row := by
  obtain ⟨_, _, _, rfl⟩ | ⟨old, _, _, hreplace⟩ := put_ok hput
  · rcases List.mem_append.mp hother with hother | hother
    · exact .inl hother
    · exact .inr (List.mem_singleton.mp hother)
  · exact mem_of_replace hreplace hother

end Table

/-- The credentials that a call on users may write to a row. -/
def UserCall.written? : UserCall → Option Credentials
  | .create credentials | .update _ credentials => some credentials
  | _ => none

/-- The row has been written by the call, under an identifier that was in use before or is new. -/
structure UserCall.Wrote (service : Service) (call : UserCall) (before after : State)
    (user : User) : Prop where
  fits : ∃ credentials, call.written? = some credentials ∧ user.Fits service credentials
  id : (∃ old ∈ before.users.rows, old.id = user.id) ∨
    after.identifiers = before.identifiers + 1 ∧
      user.id = Identifier.generated (before.identifiers + 1)

theorem UserCall.wrote_of_ok {call : UserCall} {answer : UserAnswer}
    (hcall : (call.run service).after state = (.ok answer, after))
    (huser : user ∈ after.users.rows) :
    user ∈ state.users.rows ∨ call.Wrote service state after user := by
  cases call with
  | create credentials =>
      obtain ⟨view, middle, hcreate, hdone⟩ := after_bind_eq_ok_iff.mp hcall
      obtain ⟨_, rfl⟩ := Prod.mk.inj hdone
      obtain ⟨new, stored, users, _, hfits, hid, hput, _, rfl⟩ := Users.create_ok hcreate
      rcases Table.mem_of_put hput huser with hold | rfl
      · exact .inl hold
      · exact .inr ⟨⟨credentials, rfl, hfits⟩, .inr ⟨rfl, hid⟩⟩
  | update id credentials =>
      obtain ⟨view, middle, hupdate, hdone⟩ := after_bind_eq_ok_iff.mp hcall
      obtain ⟨_, rfl⟩ := Prod.mk.inj hdone
      obtain ⟨old, new, stored, users, hfind, _, hfits, hkey, hreplace, _, rfl⟩ :=
        Users.update_ok hupdate
      rcases Table.mem_of_replace hreplace huser with hold | rfl
      · exact .inl hold
      · exact .inr ⟨⟨credentials, rfl, hfits⟩,
          .inl ⟨old, List.mem_of_find?_eq_some hfind, hkey.symm⟩⟩
  | delete id =>
      obtain ⟨_, middle, hdelete, hdone⟩ := after_bind_eq_ok_iff.mp hcall
      obtain ⟨_, rfl⟩ := Prod.mk.inj hdone
      obtain ⟨found, users, hrows, rfl⟩ := Users.delete_ok hdelete
      obtain ⟨_, hrows⟩ := Table.rows_of_delete hrows
      have huser : user ∈ users.rows := huser
      rw [hrows] at huser
      exact .inl (List.mem_of_mem_filter huser)
  | login now credentials =>
      have htables := ((Users.readsOnly_login service now credentials).quiet.bind
        fun answer => quiet_pure _).sameTables hcall
      exact .inl (htables.users ▸ huser)
  | list request =>
      have htables := ((Users.readsOnly_list service request).quiet.bind
        fun page => quiet_pure _).sameTables hcall
      exact .inl (htables.users ▸ huser)
  | findOne id =>
      have htables := ((Users.readsOnly_findOne id).quiet.bind
        fun view => quiet_pure _).sameTables hcall
      exact .inl (htables.users ▸ huser)

theorem UserCall.wrote_run (service : Service) (call : UserCall)
    (huser : user ∈ ((call.run service).after state).2.users.rows) :
    user ∈ state.users.rows ∨
      call.Wrote service state ((call.run service).after state).2 user := by
  rcases hcall : (call.run service).after state with ⟨outcome, after⟩
  rw [hcall] at huser
  cases outcome with
  | ok answer => exact wrote_of_ok hcall huser
  | error failure =>
      have htables := (call.atomic_run service).sameTables hcall
      exact .inl (htables.users ▸ huser)

end Roster
