import Roster.Campaign.Registry
import Roster.Proofs.Service.Call
import Roster.Proofs.Table.Rows
import Mathlib.Tactic

/-!
# Calls of the campaign registry

The calls of the registry as data, and for each call that writes one account of what its success
means.  Announcing a campaign tells the outbox about it and cannot fail, so that every call is
atomic although announcing comes after writing.
-/

namespace Roster

inductive CampaignCall where
  | create (draft : CampaignDraft)
  | update (id : String) (draft : CampaignDraft)
  | delete (id : String)
  | list (request : Listing.Request)
  | findOne (id : String)

inductive CampaignAnswer where
  | campaign (campaign : Campaign)
  | page (page : Page Campaign)
  | deleted

def CampaignCall.run (service : Service) : CampaignCall → Call CampaignAnswer
  | .create draft => do
      return .campaign (← Campaigns.create service draft)
  | .update id draft => do
      return .campaign (← Campaigns.update id draft)
  | .delete id => do
      Campaigns.delete id
      return .deleted
  | .list request => do
      return .page (← Campaigns.list service request)
  | .findOne id => do
      return .campaign (← Campaigns.findOne id)

structure Campaign.Fits (draft : CampaignDraft) (campaign : Campaign) : Prop where
  name : draft.name = LooseText.ofString campaign.name
  year : draft.year = campaign.year
  description : draft.description = campaign.description.map LooseText.ofString

namespace Campaigns

open Call Outcome

variable {β : Type} {service : Service} {state after : State} {result : β}

/-! ## Steps of several calls -/

theorem readsOnly_encode (draft : CampaignDraft) (id : String) :
    ReadsOnly (encode draft id) := by
  unfold encode
  apply (Call.readsOnly_encode _).bind
  intro name
  cases draft.description with
  | none => exact (readsOnly_pure _).bind fun _ => readsOnly_pure _
  | some text =>
      apply ReadsOnly.bind
      · exact (Call.readsOnly_encode text).bind fun _ => readsOnly_pure _
      · intro description
        exact readsOnly_pure _

theorem encode_bind_ok
    {draft : CampaignDraft} {id : String} {next : Campaign → Call β}
    (hcall : (encode draft id >>= next).after state = (.ok result, after)) :
    ∃ campaign, campaign.Fits draft ∧ campaign.id = id ∧
      (next campaign).after state = (.ok result, after) := by
  obtain ⟨campaign, middle, hencode, hrest⟩ := after_bind_eq_ok_iff.mp hcall
  unfold encode at hencode
  obtain ⟨name, hname, hencode⟩ := Call.encode_bind_ok hencode
  obtain ⟨description, middle', hdescription, hdone⟩ :=
    after_bind_eq_ok_iff.mp hencode
  obtain ⟨hcampaign, rfl⟩ := Prod.mk.inj hdone
  cases hcampaign
  cases htext : draft.description with
  | none =>
      rw [htext] at hdescription
      obtain ⟨hnone, rfl⟩ := Prod.mk.inj hdescription
      cases hnone
      exact ⟨_, ⟨hname, rfl, by rw [htext]; rfl⟩, rfl, hrest⟩
  | some text =>
      rw [htext] at hdescription
      obtain ⟨plain, hplain, hdone⟩ := Call.encode_bind_ok hdescription
      obtain ⟨hsome, rfl⟩ := Prod.mk.inj hdone
      cases hsome
      refine ⟨_, ⟨hname, rfl, ?_⟩, rfl, hrest⟩
      rw [htext, hplain]
      rfl

theorem announce_ne_error (service : Service) (campaign : Campaign)
    (state : State) (failure : Failure) :
    ((announce service campaign).after state).1 ≠ .error failure := by
  unfold announce
  intro hfailure
  cases htopic : service.topic with
  | none =>
      rw [htopic] at hfailure
      cases hfailure
  | some topic =>
      rw [htopic] at hfailure
      cases hfailure

theorem quiet_announce (service : Service) (campaign : Campaign) :
    Quiet (announce service campaign) := by
  unfold announce
  intro state
  cases service.topic with
  | none => exact .refl state
  | some topic => exact ⟨rfl, rfl⟩

/-! ## Work on the table -/

/-- The row is looked for first, so that the work on it goes on only where selects work. -/
theorem update_eq (id : String) (draft : CampaignDraft) :
    update id draft = (do
      Call.checkIdentifier .campaign id
      match ← Call.ask .campaigns .update (Table.find? Campaign.schema id) with
      | none => Call.refuse (.missing .campaign)
      | some old =>
        match ← Call.ask .campaigns .update (ofYear? draft.year) with
        | some other => if other.id ≠ id then Call.refuse .yearTaken
        | none => pure ()
        let campaign ← encode draft old.id
        Call.perform .campaigns .update
          (Table.replace Campaign.schema old (Campaign.schema.revised old campaign))) := by
  unfold update
  refine congrArg _ (funext fun _ => ask_find?_bind_congr ?_)
  intro found
  cases found with
  | none => exact sameWhere_refl _
  | some old =>
      have hwritten : SameWhere (Readable .campaigns)
          (encode draft old.id >>= fun campaign => Call.edit .campaigns .update
            (Repository.replace Campaign.schema old (Campaign.schema.revised old campaign)))
          (encode draft old.id >>= fun campaign => Call.perform .campaigns .update
            (Table.replace Campaign.schema old (Campaign.schema.revised old campaign))) :=
        SameWhere.bind_right ((readsOnly_encode _ _).quiet.readable SameTables.campaigns)
          fun campaign => sameWhere_edit_replace _ _ _ _ _
      apply SameWhere.bind_right ((quiet_ask _ _ _).readable SameTables.campaigns)
      intro found
      cases found with
      | none => exact hwritten
      | some other =>
          by_cases hother : other.id = id
          · simp only [hother, ne_eq, not_true_eq_false, if_false]
            exact hwritten
          · simp only [ne_eq, hother, not_false_eq_true, if_true]
            exact sameWhere_refl _

/-! ## What success means -/

/-- A campaign that was created is stored under the next identifier, in a year
that no campaign had. -/
theorem create_ok
    {draft : CampaignDraft} {campaign : Campaign}
    (hcall : (create service draft).after state = (.ok campaign, after)) :
    ∃ row campaigns,
      ofYear? draft.year state.campaigns = .ok none ∧
        row.Fits draft ∧
        row.id = Identifier.generated (state.identifiers + 1) ∧
        Table.put Campaign.schema (Draft.ofRow Campaign.schema row)
          state.campaigns = .ok (campaign, campaigns) ∧
        after.campaigns = campaigns ∧ after.users = state.users := by
  unfold create at hcall
  simp only [edit_put] at hcall
  obtain ⟨found, hyear, hcall⟩ := ask_bind_ok hcall
  cases found with
  | some other => cases hcall
  | none =>
      simp only [Option.isSome_none, Bool.false_eq_true, if_false] at hcall
      rw [after_bind, after_freshIdentifier] at hcall
      obtain ⟨row, hfits, hid, hcall⟩ := encode_bind_ok hcall
      obtain ⟨stored, campaigns, hput, hcall⟩ := perform_bind_ok hcall
      obtain ⟨_, last, hannounce, hdone⟩ := after_bind_eq_ok_iff.mp hcall
      obtain ⟨hstored, rfl⟩ := Prod.mk.inj hdone
      cases hstored
      have htables := (quiet_announce service campaign).sameTables hannounce
      exact ⟨row, campaigns, hyear, hfits, hid, hput, htables.campaigns,
        htables.users⟩

/-- A campaign that was changed was there, and no other campaign has its new
year first. -/
theorem update_ok
    {id : String} {draft : CampaignDraft} {campaign : Campaign}
    (hcall : (update id draft).after state = (.ok campaign, after)) :
    ∃ old row campaigns found,
      state.campaigns.rows.find? (fun row => row.id = id) = some old ∧
        ofYear? draft.year state.campaigns = .ok found ∧
        (∀ other ∈ found, other.id = id) ∧
        row.Fits draft ∧ row.id = old.id ∧
        Table.replace Campaign.schema old (Campaign.schema.revised old row)
          state.campaigns = .ok (campaign, campaigns) ∧
        after = { state with campaigns } := by
  rw [update_eq] at hcall
  obtain ⟨_, hcall⟩ := checkIdentifier_bind_ok hcall
  obtain ⟨found, hfind, hcall⟩ := ask_bind_ok hcall
  cases found with
  | none => cases hcall
  | some old =>
      obtain ⟨found, hyear, hcall⟩ := ask_bind_ok hcall
      have hold := (Table.find?_eq_ok_iff.mp hfind).2
      cases found with
      | none =>
          obtain ⟨row, hfits, hid, hcall⟩ := encode_bind_ok hcall
          obtain ⟨campaigns, hreplace, hafter⟩ := perform_ok hcall
          refine ⟨old, row, campaigns, none, hold, hyear, ?_, hfits, hid, hreplace,
            hafter⟩
          intro other hother
          cases hother
      | some other =>
          by_cases hother : other.id = id
          · simp only [hother, ne_eq, not_true_eq_false, if_false] at hcall
            obtain ⟨row, hfits, hid, hcall⟩ := encode_bind_ok hcall
            obtain ⟨campaigns, hreplace, hafter⟩ := perform_ok hcall
            refine ⟨old, row, campaigns, some other, hold, hyear, ?_, hfits, hid,
              hreplace, hafter⟩
            intro same hsame
            cases hsame
            exact hother
          · simp only [ne_eq, hother, not_false_eq_true, if_true] at hcall
            cases hcall

theorem delete_ok
    {id : String} {done : Unit}
    (hcall : (delete id).after state = (.ok done, after)) :
    ∃ found campaigns,
      Table.delete Campaign.schema id state.campaigns = .ok (found, campaigns) ∧
        after = { state with campaigns } := by
  unfold delete at hcall
  simp only [edit_delete] at hcall
  obtain ⟨_, hcall⟩ := checkIdentifier_bind_ok hcall
  obtain ⟨found, campaigns, hdelete, hcall⟩ := perform_bind_ok hcall
  exact ⟨found, campaigns, hdelete, (Prod.mk.inj hcall).2.symm⟩

/-! ## No call fails halfway -/

theorem readsOnly_list (service : Service) (request : Listing.Request) :
    ReadsOnly (list service request) := by
  unfold list
  exact readsOnly_ask _ _ _

theorem readsOnly_findOne (id : String) : ReadsOnly (findOne id) := by
  unfold findOne
  apply (readsOnly_checkIdentifier _ _).bind
  intro _
  apply (readsOnly_ask _ _ _).bind
  intro found
  cases found with
  | none => exact readsOnly_refuse _
  | some campaign => exact readsOnly_pure _

theorem atomic_create (service : Service) (draft : CampaignDraft) :
    Atomic (create service draft) := by
  unfold create
  simp only [edit_put]
  apply (quiet_ask _ _ _).bind_atomic
  intro found
  cases found with
  | some other => exact (quiet_refuse _).atomic
  | none =>
      apply quiet_freshIdentifier.bind_atomic
      intro id
      apply (readsOnly_encode _ _).quiet.bind_atomic
      intro row
      apply (atomic_perform _ _ _).bind_total
      intro stored state failure hfailure
      rw [after_bind] at hfailure
      rcases hannounce : (announce service stored).after state with ⟨outcome, last⟩
      rw [hannounce] at hfailure
      cases outcome with
      | ok done => cases hfailure
      | error error =>
          have hfailed := announce_ne_error service stored state error
          rw [hannounce] at hfailed
          exact hfailed rfl

theorem atomic_update (id : String) (draft : CampaignDraft) :
    Atomic (update id draft) := by
  rw [update_eq]
  apply (quiet_checkIdentifier _ _).bind_atomic
  intro _
  apply (quiet_ask _ _ _).bind_atomic
  intro found
  cases found with
  | none => exact (quiet_refuse _).atomic
  | some old =>
      apply (quiet_ask _ _ _).bind_atomic
      intro found
      cases found with
      | none =>
          exact (readsOnly_encode _ _).quiet.bind_atomic fun row => atomic_perform _ _ _
      | some other =>
          by_cases hother : other.id = id
          · simp only [hother, ne_eq, not_true_eq_false, if_false]
            exact (readsOnly_encode _ _).quiet.bind_atomic fun row => atomic_perform _ _ _
          · simp only [ne_eq, hother, not_false_eq_true, if_true]
            exact (quiet_refuse _).bind_atomic fun _ =>
              (readsOnly_encode _ _).quiet.bind_atomic fun row => atomic_perform _ _ _

theorem atomic_delete (id : String) : Atomic (delete id) := by
  unfold delete
  simp only [edit_delete]
  apply (quiet_checkIdentifier _ _).bind_atomic
  intro _
  exact (atomic_perform _ _ _).bind_pure _

end Campaigns

open Call in
theorem CampaignCall.atomic_run (service : Service) (call : CampaignCall) :
    Atomic (call.run service) := by
  cases call with
  | create draft =>
      exact (Campaigns.atomic_create service draft).bind_pure _
  | update id draft =>
      exact (Campaigns.atomic_update id draft).bind_pure _
  | delete id =>
      exact (Campaigns.atomic_delete id).bind_pure _
  | list request =>
      exact (Campaigns.readsOnly_list service request).quiet.atomic.bind_pure _
  | findOne id =>
      exact (Campaigns.readsOnly_findOne id).quiet.atomic.bind_pure _

end Roster
