import Roster.Proofs.User.Calls
import Roster.Proofs.Campaign.Calls
import Mathlib.Tactic

/-!
# What a call changes

A call of the service either fails, and then both tables are as they were, or succeeds and touches
no row but its own.  A row that is created comes last.  A row that is changed stays in its place
under its identifier.  A row that is deleted leaves the others in their order.  The other table is
never touched, and neither are the kinds of failing statements.
-/

namespace Roster

open Call

variable {service : Service} {before after : State}

/-! ## Single rows -/

/-- Only the rows of a table are different. -/
def Table.withRows {ρ : Type} (table : Table ρ) (rows : List ρ) : Table ρ :=
  { table with rows }

/-- One row stands in the place of another one, and the rest is the same. -/
def Table.ReplacesRow {ρ : Type} (before : Table ρ) (old new : ρ)
    (after : Table ρ) : Prop :=
  ∃ front back, before.rows = front ++ old :: back ∧
    after = before.withRows (front ++ new :: back)

theorem Table.eq_withRows {ρ : Type} {before after : Table ρ} {rows : List ρ}
    (hfailing : after.failing = before.failing) (hrows : after.rows = rows) :
    after = before.withRows rows := by
  cases after
  simp only at hfailing hrows
  rw [hfailing, hrows]
  rfl

theorem Table.replacesRow_of_replace {ρ : Type} [DecidableEq ρ]
    {schema : Schema ρ} {old row stored : ρ} {before after : Table ρ}
    (hkeys : (before.rows.map schema.key).Nodup) (hold : old ∈ before.rows)
    (hkey : schema.key row = schema.key old)
    (hreplace : before.replace schema old (schema.revised old row) =
      .ok (stored, after)) :
    stored = row ∧ before.ReplacesRow old row after := by
  obtain ⟨hstored, hfailing, hrows⟩ := rows_of_replace hkeys hold hkey hreplace
  obtain ⟨front, back, hsplit, hafter⟩ := overwrite_split hkeys hold hkey
  rw [hafter] at hrows
  exact ⟨hstored, front, back, hsplit, eq_withRows hfailing hrows⟩

theorem Table.eq_append_of_put {ρ : Type} [DecidableEq ρ]
    {schema : Schema ρ} {row stored : ρ} {before after : Table ρ}
    (hkeys : (before.rows.map schema.key).Nodup)
    (hnew : ∀ old ∈ before.rows, schema.key old ≠ schema.key row)
    (hput : before.put schema (Draft.ofRow schema row) = .ok (stored, after)) :
    stored = row ∧ after = before.withRows (before.rows ++ [row]) := by
  obtain ⟨hstored, hfailing, hrows⟩ := rows_of_put hkeys hput
  rcases hrows with ⟨_, hrows⟩ | ⟨⟨old, hold, hkey⟩, _⟩
  · exact ⟨hstored, eq_withRows hfailing hrows⟩
  · exact absurd hkey (hnew old hold)

/-! ## Calls on users -/

/-- What a call on users does to their table when it succeeds.  A user can only
be appended under an identifier that is not in the table yet. -/
def UserCall.Effect (service : Service) (before : State) (answer : UserAnswer)
    (after : Table User) : UserCall → Prop
  | .create credentials =>
      (∀ user ∈ before.users.rows,
          user.id ≠ Identifier.generated (before.identifiers + 1)) →
        ∃ user, user.Fits service credentials ∧ answer = .user user.view ∧
          after = before.users.withRows (before.users.rows ++ [user])
  | .update id credentials =>
      ∃ old new, old.id = id ∧ new.id = id ∧ new.Fits service credentials ∧
        answer = .user new.view ∧ before.users.ReplacesRow old new after
  | .delete id =>
      answer = .deleted ∧
        after = before.users.withRows
          (before.users.rows.filter fun user => user.id ≠ id)
  | .login _ _ | .list _ | .findOne _ => after = before.users

theorem UserCall.effect_of_ok
    {call : UserCall} {answer : UserAnswer}
    (hids : (before.users.rows.map User.id).Nodup)
    (hcall : (call.run service).after before = (.ok answer, after)) :
    call.Effect service before answer after.users ∧
      after.campaigns = before.campaigns := by
  cases call with
  | create credentials =>
      obtain ⟨view, middle, hcreate, hdone⟩ := after_bind_eq_ok_iff.mp hcall
      obtain ⟨hanswer, rfl⟩ := Prod.mk.inj hdone
      cases hanswer
      obtain ⟨user, stored, users, _, hfits, hid, hput, rfl, rfl⟩ :=
        Users.create_ok hcreate
      refine ⟨?_, rfl⟩
      intro hnew
      rw [← hid] at hnew
      obtain ⟨rfl, hafter⟩ := Table.eq_append_of_put hids hnew hput
      exact ⟨_, hfits, rfl, hafter⟩
  | update id credentials =>
      obtain ⟨view, middle, hupdate, hdone⟩ := after_bind_eq_ok_iff.mp hcall
      obtain ⟨hanswer, rfl⟩ := Prod.mk.inj hdone
      cases hanswer
      obtain ⟨old, user, stored, users, hfind, _, hfits, hkey, hreplace, rfl, rfl⟩ :=
        Users.update_ok hupdate
      have hold : old.id = id := by simpa using List.find?_some hfind
      obtain ⟨rfl, hafter⟩ := Table.replacesRow_of_replace hids
        (List.mem_of_find?_eq_some hfind) hkey hreplace
      exact ⟨⟨old, _, hold, hkey.trans hold, hfits, rfl, hafter⟩, rfl⟩
  | delete id =>
      obtain ⟨_, middle, hdelete, hdone⟩ := after_bind_eq_ok_iff.mp hcall
      obtain ⟨hanswer, rfl⟩ := Prod.mk.inj hdone
      cases hanswer
      obtain ⟨found, users, hrows, rfl⟩ := Users.delete_ok hdelete
      obtain ⟨hfailing, hrows⟩ := Table.rows_of_delete hrows
      exact ⟨⟨rfl, Table.eq_withRows hfailing hrows⟩, rfl⟩
  | login now credentials =>
      have htables := ((Users.readsOnly_login service now credentials).quiet.bind
        fun token => quiet_pure _).sameTables hcall
      exact ⟨htables.users, htables.campaigns⟩
  | list request =>
      have htables := ((Users.readsOnly_list service request).quiet.bind
        fun page => quiet_pure _).sameTables hcall
      exact ⟨htables.users, htables.campaigns⟩
  | findOne id =>
      have htables := ((Users.readsOnly_findOne id).quiet.bind
        fun view => quiet_pure _).sameTables hcall
      exact ⟨htables.users, htables.campaigns⟩

/-! ## Calls on campaigns -/

/-- What a call on campaigns does to their table when it succeeds. -/
def CampaignCall.Effect (before : State) (answer : CampaignAnswer)
    (after : Table Campaign) : CampaignCall → Prop
  | .create draft =>
      (∀ campaign ∈ before.campaigns.rows,
          campaign.id ≠ Identifier.generated (before.identifiers + 1)) →
        ∃ campaign, campaign.Fits draft ∧ answer = .campaign campaign ∧
          after = before.campaigns.withRows (before.campaigns.rows ++ [campaign])
  | .update id draft =>
      ∃ old new, old.id = id ∧ new.id = id ∧ new.Fits draft ∧
        answer = .campaign new ∧ before.campaigns.ReplacesRow old new after
  | .delete id =>
      answer = .deleted ∧
        after = before.campaigns.withRows
          (before.campaigns.rows.filter fun campaign => campaign.id ≠ id)
  | .list _ | .findOne _ => after = before.campaigns

theorem CampaignCall.effect_of_ok
    {call : CampaignCall} {answer : CampaignAnswer}
    (hids : (before.campaigns.rows.map Campaign.id).Nodup)
    (hcall : (call.run service).after before = (.ok answer, after)) :
    call.Effect before answer after.campaigns ∧ after.users = before.users := by
  cases call with
  | create draft =>
      obtain ⟨campaign, middle, hcreate, hdone⟩ := after_bind_eq_ok_iff.mp hcall
      obtain ⟨hanswer, rfl⟩ := Prod.mk.inj hdone
      cases hanswer
      obtain ⟨row, campaigns, _, hfits, hid, hput, hcampaigns, husers⟩ :=
        Campaigns.create_ok hcreate
      refine ⟨?_, husers⟩
      intro hnew
      rw [← hid] at hnew
      obtain ⟨rfl, hafter⟩ := Table.eq_append_of_put hids hnew hput
      exact ⟨_, hfits, rfl, hcampaigns.trans hafter⟩
  | update id draft =>
      obtain ⟨campaign, middle, hupdate, hdone⟩ := after_bind_eq_ok_iff.mp hcall
      obtain ⟨hanswer, rfl⟩ := Prod.mk.inj hdone
      cases hanswer
      obtain ⟨old, row, campaigns, _, hfind, _, _, hfits, hkey, hreplace, rfl⟩ :=
        Campaigns.update_ok hupdate
      have hold : old.id = id := by simpa using List.find?_some hfind
      obtain ⟨rfl, hafter⟩ := Table.replacesRow_of_replace hids
        (List.mem_of_find?_eq_some hfind) hkey hreplace
      exact ⟨⟨old, _, hold, hkey.trans hold, hfits, rfl, hafter⟩, rfl⟩
  | delete id =>
      obtain ⟨_, middle, hdelete, hdone⟩ := after_bind_eq_ok_iff.mp hcall
      obtain ⟨hanswer, rfl⟩ := Prod.mk.inj hdone
      cases hanswer
      obtain ⟨found, campaigns, hrows, rfl⟩ := Campaigns.delete_ok hdelete
      obtain ⟨hfailing, hrows⟩ := Table.rows_of_delete hrows
      exact ⟨⟨rfl, Table.eq_withRows hfailing hrows⟩, rfl⟩
  | list request =>
      have htables := ((Campaigns.readsOnly_list service request).bind
        fun page => readsOnly_pure _).quiet.sameTables hcall
      exact ⟨htables.campaigns, htables.users⟩
  | findOne id =>
      have htables := ((Campaigns.readsOnly_findOne id).bind
        fun campaign => readsOnly_pure _).quiet.sameTables hcall
      exact ⟨htables.campaigns, htables.users⟩

/-! ## All calls -/

/-- A call that fails, for whatever reason, leaves both tables alone, and a
call that succeeds changes at most its own row of its own table. -/
theorem calls_touch_only_their_row
    (service : Service) (before : State)
    (husers : (before.users.rows.map User.id).Nodup)
    (hcampaigns : (before.campaigns.rows.map Campaign.id).Nodup) :
    (∀ call : UserCall, ∀ after,
        (∀ failure, (call.run service).after before = (.error failure, after) →
          SameTables before after) ∧
        ∀ answer, (call.run service).after before = (.ok answer, after) →
          call.Effect service before answer after.users ∧
            after.campaigns = before.campaigns) ∧
      ∀ call : CampaignCall, ∀ after,
        (∀ failure, (call.run service).after before = (.error failure, after) →
          SameTables before after) ∧
        ∀ answer, (call.run service).after before = (.ok answer, after) →
          call.Effect before answer after.campaigns ∧
            after.users = before.users := by
  constructor
  · intro call after
    constructor
    · intro failure hcall
      exact (call.atomic_run service).sameTables hcall
    · intro answer hcall
      exact UserCall.effect_of_ok husers hcall
  · intro call after
    constructor
    · intro failure hcall
      exact (call.atomic_run service).sameTables hcall
    · intro answer hcall
      exact CampaignCall.effect_of_ok hcampaigns hcall

def twoUsers : State where
  users := { rows := [
    ⟨"00000000-0000-4000-8000-000000000001", "ada", "ada@example.com", "hash"⟩,
    ⟨"00000000-0000-4000-8000-000000000002", "bob", "", "hash"⟩] }

theorem calls_touch_only_their_row_two_users :
    (twoUsers.users.rows.map User.id).Nodup ∧
      (twoUsers.campaigns.rows.map Campaign.id).Nodup ∧
      UserCall.Effect .plain twoUsers .deleted
        { rows := [⟨"00000000-0000-4000-8000-000000000002", "bob", "", "hash"⟩] }
        (.delete "00000000-0000-4000-8000-000000000001") := by
  have husers : (twoUsers.users.rows.map User.id).Nodup := by decide
  have hcampaigns : (twoUsers.campaigns.rows.map Campaign.id).Nodup := by decide
  have hcalls := (calls_touch_only_their_row .plain twoUsers husers hcampaigns).1
    (.delete "00000000-0000-4000-8000-000000000001")
    { users := { rows :=
        [⟨"00000000-0000-4000-8000-000000000002", "bob", "", "hash"⟩] } }
  exact ⟨husers, hcampaigns, (hcalls.2 .deleted rfl).1⟩

end Roster
