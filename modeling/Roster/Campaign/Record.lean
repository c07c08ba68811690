import Roster.Table.Record

/-!
# Campaigns

A campaign has a name, a year and an optional description. No two campaigns are meant to have the
same year. All columns can be queried.
-/

namespace Roster

structure Campaign where
  id : String
  name : String
  year : Int
  description : Option String
  deriving DecidableEq

namespace Campaign

def schema : Schema Campaign where
  key := Campaign.id
  columns := [
    ⟨"id", .text, fun campaign => .text campaign.id⟩,
    ⟨"name", .text, fun campaign => .text campaign.name⟩,
    ⟨"year", .integer, fun campaign => .int campaign.year⟩,
    ⟨"description", .text, fun campaign => Cell.ofText? campaign.description⟩]
  queryable := some ["id", "name", "year", "description"]

def layout : Layout :=
  schema.layout "Example" "id" [("description", .null)]

def ofRecord? (record : Record) : Option Campaign := do
  return {
    id := ← (record.cell "id").asText?
    name := ← (record.cell "name").asText?
    year := ← (record.cell "year").asInt?
    description :=
      ← if (record.cell "description").isNull then pure none
        else (record.cell "description").asText?.map some }

end Campaign

end Roster
