import Roster.Proofs.Campaign.Calls
import Roster.Proofs.Event.Wire
import Mathlib.Tactic

/-!
# Announcements of campaigns

Over a run of calls, during which statements may start and stop to fail, the broker hears of
exactly the campaigns that were created, each once and in order.  What it hears of a campaign can
be decoded, since a campaign is announced only after it was stored, and then its year fits.
-/

namespace Roster

/-- What happens to the registry: a call, or other statements on its table fail from now on. -/
inductive CampaignStep where
  | call (call : CampaignCall)
  | faults (failing : List Statement)

structure CampaignEntry where
  call : CampaignCall
  outcome : Except Failure CampaignAnswer
  after : State

def CampaignEntry.created? (entry : CampaignEntry) : Option Campaign :=
  match entry.call, entry.outcome with
  | .create _, .ok (.campaign campaign) => some campaign
  | _, _ => none

namespace Campaigns

open Call

variable {service : Service} {topic : String} {state after : State} {campaign : Campaign}

def withFaults (failing : List Statement) (state : State) : State :=
  { state with campaigns := { state.campaigns with failing } }

def entry (service : Service) (call : CampaignCall) (state : State) : CampaignEntry where
  call := call
  outcome := ((call.run service).after state).1
  after := ((call.run service).after state).2

def trace (service : Service) : List CampaignStep → State → List CampaignEntry
  | [], _ => []
  | .call call :: rest, state =>
      entry service call state :: trace service rest (entry service call state).after
  | .faults failing :: rest, state => trace service rest (withFaults failing state)

def last (service : Service) : List CampaignStep → State → State
  | [], state => state
  | .call call :: rest, state => last service rest (entry service call state).after
  | .faults failing :: rest, state => last service rest (withFaults failing state)

def created (service : Service) (steps : List CampaignStep) (state : State) : List Campaign :=
  (trace service steps state).filterMap CampaignEntry.created?

/-- One message under the identifier of the campaign, which a consumer decodes into the event
of its creation, and then one flush. -/
def Announces (topic : String) (campaign : Campaign) (calls : List ProducerCall) : Prop :=
  ∃ value, calls = [.produce topic (utf8 campaign.id) value, .flush] ∧
    (Consumer.decode (some value)).1 =
      .ok { id := campaign.id, name := campaign.name, year := campaign.year, event := "created" }

def announced (topic : String) (campaign : Campaign) : List ProducerCall :=
  (Producer.send topic {} [announcement campaign]).calls

theorem announces_announced (topic : String) (hyear : fitsInt64 campaign.year = true) :
    Announces topic campaign (announced topic campaign) := by
  refine ⟨utf8 (announcement campaign).document, rfl, ?_⟩
  have hfits : fitsInt64 (announcement campaign).year = true := hyear
  rw [Consumer.decode_document hfits]
  rfl

/-! ## What single calls tell -/

theorem silent_perform (task : Task) {α : Type}
    (operation : Table Campaign → Except StoreError (α × Table Campaign)) :
    Silent (perform .campaigns task operation) :=
  Call.silent_perform (fun _ _ => rfl) task operation

theorem tells_announce (htopic : service.topic = some topic) (campaign : Campaign) :
    Tells (announce service campaign >>= fun _ => pure campaign) (announced topic) := by
  intro state
  unfold announce
  rw [htopic, after_bind]
  rfl

/-- A campaign is announced when it is stored, and not before. -/
theorem tells_create (htopic : service.topic = some topic) (draft : CampaignDraft) :
    Tells (create service draft) (announced topic) := by
  unfold create
  simp only [edit_put]
  apply (readsOnly_ask _ _ _).silent.bind_tells
  intro found
  cases found with
  | some other =>
      exact tells_refuse _ _
  | none =>
      apply silent_freshIdentifier.bind_tells
      intro id
      apply (readsOnly_encode _ _).silent.bind_tells
      intro row
      apply (silent_perform _ _).bind_tells
      intro stored
      exact tells_announce htopic stored

theorem silent_update (id : String) (draft : CampaignDraft) : Silent (update id draft) := by
  rw [update_eq]
  apply (readsOnly_checkIdentifier _ _).silent.bind
  intro _
  apply (readsOnly_ask _ _ _).silent.bind
  intro found
  cases found with
  | none => exact (readsOnly_refuse _).silent
  | some old =>
      apply (readsOnly_ask _ _ _).silent.bind
      intro found
      have hwrite : Silent (do
          let campaign ← encode draft old.id
          perform .campaigns .update (Table.replace Campaign.schema old
            (Campaign.schema.revised old campaign))) :=
        (readsOnly_encode _ _).silent.bind fun row => silent_perform _ _
      cases found with
      | none => exact hwrite
      | some other =>
          by_cases hother : other.id = id
          · simp only [hother, ne_eq, not_true_eq_false, if_false]
            exact hwrite
          · simp only [ne_eq, hother, not_false_eq_true, if_true]
            exact (readsOnly_refuse _).silent

theorem silent_delete (id : String) : Silent (delete id) := by
  unfold delete
  simp only [edit_delete]
  apply (readsOnly_checkIdentifier _ _).silent.bind
  intro _
  exact (silent_perform _ _).bind fun _ => (readsOnly_pure _).silent

theorem outbox_entry_of_silent {call : CampaignCall}
    (hsilent : Silent (call.run service))
    (hnone : (entry service call state).created? = none) :
    (entry service call state).after.outbox =
      state.outbox ++ (entry service call state).created?.elim [] (announced topic) := by
  rw [hnone]
  simpa [entry] using hsilent state

/-- A call tells the broker of the campaign that it has created, and of nothing else. -/
theorem outbox_entry (htopic : service.topic = some topic) (call : CampaignCall)
    (state : State) :
    (entry service call state).after.outbox =
      state.outbox ++ (entry service call state).created?.elim [] (announced topic) := by
  cases call with
  | create draft =>
      have htells := tells_create htopic draft state
      unfold entry CampaignCall.run CampaignEntry.created?
      rw [after_bind]
      rcases hafter : (create service draft).after state with ⟨outcome, middle⟩
      rw [hafter] at htells
      cases outcome with
      | ok campaign => exact htells
      | error failure => exact htells
  | update id draft =>
      exact outbox_entry_of_silent
        ((silent_update id draft).bind fun row => (readsOnly_pure _).silent) rfl
  | delete id =>
      exact outbox_entry_of_silent
        ((silent_delete id).bind fun _ => (readsOnly_pure _).silent) rfl
  | list request =>
      exact outbox_entry_of_silent
        ((readsOnly_list service request).bind fun page => readsOnly_pure _).silent rfl
  | findOne id =>
      exact outbox_entry_of_silent
        ((readsOnly_findOne id).bind fun row => readsOnly_pure _).silent rfl

theorem fitsInt64_of_accept (haccept : Campaign.schema.accept campaign = .ok campaign) :
    fitsInt64 campaign.year = true := by
  unfold Schema.accept at haccept
  split at haccept
  next hstorable =>
    simp only [Campaign.schema, List.all_cons, List.all_nil, Bool.and_eq_true] at hstorable
    exact hstorable.2.2.1
  next => cases haccept

theorem stored_of_created {call : CampaignCall}
    (hcreated : (entry service call state).created? = some campaign) :
    campaign ∈ (entry service call state).after.campaigns.rows ∧
      fitsInt64 campaign.year = true := by
  cases call with
  | create draft =>
      unfold entry CampaignCall.run CampaignEntry.created? at *
      rw [after_bind] at hcreated ⊢
      rcases hafter : (create service draft).after state with ⟨outcome, middle⟩
      rw [hafter] at hcreated
      cases outcome with
      | ok stored =>
          cases Option.some.inj hcreated
          -- The row was accepted by its columns before it was stored, so its year fits.
          obtain ⟨row, campaigns, -, -, -, hput, hcampaigns, -⟩ := create_ok hafter
          obtain ⟨rfl, haccept, hrow⟩ := Table.accepted_of_put hput
          exact ⟨hcampaigns ▸ hrow, fitsInt64_of_accept haccept⟩
      | error failure => cases hcreated
  | update id draft => cases hcreated
  | delete id => cases hcreated
  | list request => cases hcreated
  | findOne id => cases hcreated

/-! ## What a run tells -/

theorem outbox_last (htopic : service.topic = some topic) (steps : List CampaignStep)
    (state : State) :
    (last service steps state).outbox =
      state.outbox ++ ((created service steps state).map (announced topic)).flatten := by
  induction steps generalizing state with
  | nil => simp [last, created, trace]
  | cons step rest ih =>
      cases step with
      | faults failing => exact ih (withFaults failing state)
      | call call =>
          have hentry := outbox_entry htopic call state
          have hrest := ih (entry service call state).after
          rw [hentry] at hrest
          simp only [last, hrest, created, trace]
          cases hcreated : (entry service call state).created? with
          | none => simp [hcreated]
          | some campaign => simp [hcreated]

theorem stored_of_mem_trace (service : Service) (steps : List CampaignStep) (state : State) :
    ∀ entry ∈ trace service steps state, ∀ campaign, entry.created? = some campaign →
      campaign ∈ entry.after.campaigns.rows ∧ fitsInt64 campaign.year = true := by
  induction steps generalizing state with
  | nil => simp [trace]
  | cons step rest ih =>
      cases step with
      | faults failing => exact ih (withFaults failing state)
      | call call =>
          intro made hmade campaign hcreated
          rcases List.mem_cons.mp hmade with rfl | hrest
          · exact stored_of_created hcreated
          · exact ih _ made hrest campaign hcreated

/-- Over every run the broker hears of exactly the campaigns that were created, in order, and
each of them was a row of the table when the call returned. -/
theorem created_campaigns_announced_once
    (service : Service) (topic : String) (steps : List CampaignStep) (state : State) :
    (∀ entry ∈ trace { service with topic := some topic } steps state,
      ∀ campaign, entry.created? = some campaign →
        campaign ∈ entry.after.campaigns.rows) ∧
    ∃ messages,
      List.Forall₂ (Announces topic)
        (created { service with topic := some topic } steps state) messages ∧
      (last { service with topic := some topic } steps state).outbox =
        state.outbox ++ messages.flatten := by
  have hstored := stored_of_mem_trace { service with topic := some topic } steps state
  constructor
  · intro entry hentry campaign hcreated
    exact (hstored entry hentry campaign hcreated).1
  · refine ⟨_, ?_, outbox_last rfl steps state⟩
    rw [List.forall₂_map_right_iff, List.forall₂_same]
    intro campaign hcampaign
    obtain ⟨entry, hentry, hcreated⟩ := List.mem_filterMap.mp hcampaign
    exact announces_announced topic (hstored entry hentry campaign hcreated).2

end Campaigns
end Roster
