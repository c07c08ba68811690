import Roster.Service.State
import Roster.Payload.CampaignDraft
import Roster.Table.Page

/-!
# The registry of campaigns

Campaigns are created, changed, deleted, looked up and listed. No two campaigns may have the same
year; a call that writes a year looks for it first. When a topic is set, every campaign that was
created, and nothing else, is announced on it.
-/

namespace Roster.Campaigns

def ofYear? (year : Int) (campaigns : Table Campaign) : Except StoreError (Option Campaign) :=
  campaigns.findCell? (fun campaign => .int campaign.year) (.int year)

def announcement (campaign : Campaign) : Event where
  id := campaign.id
  name := campaign.name
  year := campaign.year

/-- Hands the campaign to the broker's client and flushes it. Assumption: the client never fails in
this, neither for a full queue nor for a message that is too large. -/
def announce (service : Service) (campaign : Campaign) : Call Unit :=
  match service.topic with
  | none => pure ()
  | some topic =>
    modify fun state =>
      { state with
        outbox := state.outbox ++ (Producer.send topic {} [announcement campaign]).calls }

def encode (draft : CampaignDraft) (id : String) : Call Campaign := do
  return {
    id
    name := ← Call.encode draft.name
    year := draft.year
    description := ← draft.description.mapM Call.encode }

def create (service : Service) (draft : CampaignDraft) : Call Campaign := do
  if (← Call.ask .campaigns .create (ofYear? draft.year)).isSome then Call.refuse .yearTaken
  let id ← Call.freshIdentifier
  let campaign ← encode draft id
  let stored ←
    Call.edit .campaigns .create
      (Repository.put Campaign.schema (Draft.ofRow Campaign.schema campaign))
  announce service stored
  return stored

def update (id : String) (draft : CampaignDraft) : Call Campaign := do
  Call.checkIdentifier .campaign id
  match ← Call.ask .campaigns .update (Table.find? Campaign.schema id) with
  | none => Call.refuse (.missing .campaign)
  | some old =>
    match ← Call.ask .campaigns .update (ofYear? draft.year) with
    | some other => if other.id ≠ id then Call.refuse .yearTaken
    | none => pure ()
    let campaign ← encode draft old.id
    Call.edit .campaigns .update
      (Repository.replace Campaign.schema old (Campaign.schema.revised old campaign))

/-- Deletes a campaign. It is no failure when there is none. -/
def delete (id : String) : Call Unit := do
  Call.checkIdentifier .campaign id
  let _ ← Call.edit .campaigns .delete (Repository.delete Campaign.schema id)

def list (service : Service) (request : Listing.Request) : Call (Page Campaign) :=
  Call.ask .campaigns .list (Table.page service.engine Campaign.schema request)

def findOne (id : String) : Call Campaign := do
  Call.checkIdentifier .campaign id
  match ← Call.ask .campaigns .find (Table.find? Campaign.schema id) with
  | some campaign => return campaign
  | none => Call.refuse (.missing .campaign)

end Roster.Campaigns
