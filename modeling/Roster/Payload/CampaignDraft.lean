import Roster.Payload.Scalar

/-!
# Drafts of campaigns

The payload that creates or changes a campaign: a name, a year, and a description that may be
missing.
-/

namespace Roster

structure CampaignDraft where
  name : LooseText
  year : Int
  description : Option LooseText
  deriving DecidableEq

namespace CampaignDraft

open Payload

def ofFields (fields : Json.Fields) : Checked CampaignDraft := do
  let (name, year, description) ←
    (required fields "name" checkText).and
      ((required fields "year" checkInteger).and
        (withDefault fields "description" none (checkOptional checkText)))
  return { name, year, description }

def ofJson : Json → Checked CampaignDraft
  | .object fields => ofFields fields
  | _ => .fail (.notForm "ExampleIn")

end CampaignDraft

end Roster
