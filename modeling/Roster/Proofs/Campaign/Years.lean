import Roster.Proofs.Campaign.Announcements
import Mathlib.Tactic

/-!
# Years are unique

The table of campaigns does not know that years are unique.  A call that writes a year looks for
it first and sees one row only, the first that has the year.  While years are distinct this row is
the only one, so comparing its identifier is enough, and the years stay distinct.  In such a table
a year is refused exactly when the lookups succeed and another campaign has it.
-/

namespace Roster
namespace Campaigns

open Call Outcome

variable {service : Service} {state after : State} {campaigns : Table Campaign}
  {campaign : Campaign} {draft : CampaignDraft} {id : String} {year : Int}

structure Distinct (campaigns : Table Campaign) : Prop where
  ids : (campaigns.rows.map Campaign.id).Nodup
  years : (campaigns.rows.map Campaign.year).Nodup

/-! ## Looking for a year -/

theorem same_int (a b : Int) : (Cell.int a).same (.int b) = decide (a = b) := by
  unfold Cell.same
  simp [Cell.compare?]

theorem ofYear?_eq_ok_iff {found : Option Campaign} :
    ofYear? year campaigns = .ok found ↔
      .select ∉ campaigns.failing ∧ fitsInt64 year = true ∧
        campaigns.rows.find? (fun campaign => campaign.year = year) = found := by
  have hnull : (Cell.int year).isNull = false := rfl
  have hstorable : (Cell.int year).isStorable = fitsInt64 year := rfl
  unfold ofYear?
  rw [Table.findCell?_eq_ok_iff]
  simp only [hnull, hstorable, Bool.false_eq_true, if_false, same_int]

/-- The first campaign of a year is the only one. -/
theorem Distinct.eq_found (hdistinct : Distinct campaigns) {found : Option Campaign}
    (hfound : ofYear? year campaigns = .ok found) (hcampaign : campaign ∈ campaigns.rows)
    (hyear : campaign.year = year) : found = some campaign := by
  obtain ⟨-, -, hfind⟩ := ofYear?_eq_ok_iff.mp hfound
  rw [← hfind]
  exact (Table.find?_key_eq_some_iff hdistinct.years).mpr ⟨hcampaign, hyear⟩

/-! ## Writing a year -/

/-- A row whose year no row of another identifier has may be put in the place of its own. -/
theorem Distinct.nodup_years_overwrite (hdistinct : Distinct campaigns)
    (hfree : ∀ other ∈ campaigns.rows, other.id ≠ campaign.id → other.year ≠ campaign.year) :
    ((Table.overwrite Campaign.schema campaign campaigns.rows).map Campaign.year).Nodup := by
  have hrows : campaigns.rows.Pairwise fun a b => a.id ≠ b.id ∧ a.year ≠ b.year :=
    (List.pairwise_map.mp hdistinct.ids).and (List.pairwise_map.mp hdistinct.years)
  unfold Table.overwrite
  rw [List.map_map, List.Nodup, List.pairwise_map]
  apply hrows.imp_of_mem
  intro a b ha hb hab
  simp only [Function.comp_apply]
  by_cases haid : Campaign.schema.key a = Campaign.schema.key campaign
  · have hbid : Campaign.schema.key b ≠ Campaign.schema.key campaign :=
      fun h => hab.1 (haid.trans h.symm)
    rw [if_pos haid, if_neg hbid]
    exact (hfree b hb hbid).symm
  · rw [if_neg haid]
    by_cases hbid : Campaign.schema.key b = Campaign.schema.key campaign
    · rw [if_pos hbid]
      exact hfree a ha haid
    · rw [if_neg hbid]
      exact hab.2

theorem Distinct.overwrite {after : Table Campaign} (hdistinct : Distinct campaigns)
    (hfree : ∀ other ∈ campaigns.rows, other.id ≠ campaign.id → other.year ≠ campaign.year)
    (hrows : after.rows = Table.overwrite Campaign.schema campaign campaigns.rows) :
    Distinct after := by
  constructor
  · rw [hrows]
    exact Table.nodup_keys_overwrite Campaign.schema hdistinct.ids
  · rw [hrows]
    exact hdistinct.nodup_years_overwrite hfree

theorem Distinct.append {after : Table Campaign} (hdistinct : Distinct campaigns)
    (hnew : ∀ other ∈ campaigns.rows, other.id ≠ campaign.id)
    (hfree : ∀ other ∈ campaigns.rows, other.year ≠ campaign.year)
    (hrows : after.rows = campaigns.rows ++ [campaign]) : Distinct after := by
  constructor
  · rw [hrows]
    exact Table.nodup_keys_append Campaign.schema hdistinct.ids hnew
  · rw [hrows, List.map_append, List.nodup_append]
    refine ⟨hdistinct.years, List.nodup_singleton _, ?_⟩
    intro year hyear last hlast
    obtain ⟨other, hother, rfl⟩ := List.mem_map.mp hyear
    rw [List.mem_singleton.mp hlast]
    exact hfree other hother

theorem Distinct.filter {after : Table Campaign} {p : Campaign → Bool}
    (hdistinct : Distinct campaigns) (hrows : after.rows = campaigns.rows.filter p) :
    Distinct after := by
  constructor
  · rw [hrows]
    exact hdistinct.ids.sublist (List.filter_sublist.map _)
  · rw [hrows]
    exact hdistinct.years.sublist (List.filter_sublist.map _)

/-! ## Calls -/

theorem Distinct.after_create (hdistinct : Distinct state.campaigns)
    (hcall : (create service draft).after state = (.ok campaign, after)) :
    Distinct after.campaigns := by
  obtain ⟨row, campaigns, hyear, hfits, -, hput, rfl, -⟩ := create_ok hcall
  have hfree : ∀ other ∈ state.campaigns.rows, other.year ≠ row.year := by
    intro other hother heq
    have hfound := hdistinct.eq_found hyear hother (heq.trans hfits.year.symm)
    cases hfound
  obtain ⟨-, -, hrows⟩ := Table.rows_of_put hdistinct.ids hput
  rcases hrows with ⟨hnew, hrows⟩ | ⟨-, hrows⟩
  · exact hdistinct.append hnew hfree hrows
  · exact hdistinct.overwrite (fun other hother _ => hfree other hother) hrows

theorem Distinct.after_update (hdistinct : Distinct state.campaigns)
    (hcall : (update id draft).after state = (.ok campaign, after)) :
    Distinct after.campaigns := by
  obtain ⟨old, row, campaigns, found, hfind, hyear, hown, hfits, hkey, hreplace, rfl⟩ :=
    update_ok hcall
  have hold : old.id = id := by simpa using List.find?_some hfind
  obtain ⟨-, -, hrows⟩ := Table.rows_of_replace hdistinct.ids
    (List.mem_of_find?_eq_some hfind) hkey hreplace
  apply hdistinct.overwrite _ hrows
  intro other hother hid heq
  have hfound := hdistinct.eq_found hyear hother (heq.trans hfits.year.symm)
  exact hid ((hown other hfound).trans (hkey.trans hold).symm)

theorem Distinct.after_delete {done : Unit} (hdistinct : Distinct state.campaigns)
    (hcall : (delete id).after state = (.ok done, after)) : Distinct after.campaigns := by
  obtain ⟨found, campaigns, hdelete, rfl⟩ := delete_ok hcall
  exact hdistinct.filter (Table.rows_of_delete hdelete).2

/-- No call makes two campaigns share a year, whether it succeeds or fails. -/
theorem Distinct.entry (hdistinct : Distinct state.campaigns) (call : CampaignCall) :
    Distinct (entry service call state).after.campaigns := by
  unfold Campaigns.entry
  rcases hcall : (call.run service).after state with ⟨outcome, after⟩
  cases outcome with
  | error failure =>
      have htables := (call.atomic_run service).sameTables hcall
      exact htables.campaigns ▸ hdistinct
  | ok answer =>
      cases call with
      | create draft =>
          obtain ⟨campaign, middle, hcreate, hdone⟩ := after_bind_eq_ok_iff.mp hcall
          obtain ⟨-, rfl⟩ := Prod.mk.inj hdone
          exact hdistinct.after_create hcreate
      | update id draft =>
          obtain ⟨campaign, middle, hupdate, hdone⟩ := after_bind_eq_ok_iff.mp hcall
          obtain ⟨-, rfl⟩ := Prod.mk.inj hdone
          exact hdistinct.after_update hupdate
      | delete id =>
          obtain ⟨done, middle, hdelete, hdone⟩ := after_bind_eq_ok_iff.mp hcall
          obtain ⟨-, rfl⟩ := Prod.mk.inj hdone
          exact hdistinct.after_delete hdelete
      | list request =>
          have htables := ((readsOnly_list service request).bind
            fun page => readsOnly_pure _).quiet.sameTables hcall
          exact htables.campaigns ▸ hdistinct
      | findOne id =>
          have htables := ((readsOnly_findOne id).bind
            fun campaign => readsOnly_pure _).quiet.sameTables hcall
          exact htables.campaigns ▸ hdistinct

theorem Distinct.last (hdistinct : Distinct state.campaigns) (steps : List CampaignStep) :
    Distinct (last service steps state).campaigns := by
  induction steps generalizing state with
  | nil => exact hdistinct
  | cons step rest ih =>
      cases step with
      | faults failing =>
          have hfaults : Distinct (withFaults failing state).campaigns :=
            ⟨hdistinct.ids, hdistinct.years⟩
          exact ih hfaults
      | call call => exact ih (hdistinct.entry call)

/-! ## Refused years -/

theorem ofStore_ne_yearTaken (task : Task) (subject : Subject) (error : StoreError) :
    Failure.ofStore task subject error ≠ .refused .yearTaken := by
  cases error with
  | invalid name => simp [Failure.ofStore]
  | unordered => simp [Failure.ofStore]
  | database => simp [Failure.ofStore]
  | outOfRange => simp [Failure.ofStore]
  | unencodable fault => simp [Failure.ofStore]

theorem encode_ne_yearTaken (draft : CampaignDraft) (id : String) :
    FailsWith (· ≠ .refused .yearTaken) (encode draft id) := by
  have htext : ∀ text, FailsWith (· ≠ .refused .yearTaken) (Call.encode text) := by
    intro text
    apply failsWith_encode
    simp
  unfold encode
  apply (htext _).bind
  intro name
  cases draft.description with
  | none => exact (failsWith_pure _).bind fun _ => failsWith_pure _
  | some text =>
      apply FailsWith.bind
      · exact (htext text).bind fun _ => failsWith_pure _
      · intro description
        exact failsWith_pure _

theorem perform_ne_yearTaken (task : Task) {α : Type}
    (operation : Table Campaign → Except StoreError (α × Table Campaign)) :
    FailsWith (· ≠ .refused .yearTaken) (perform .campaigns task operation) :=
  failsWith_perform fun _ error _ => ofStore_ne_yearTaken task .campaign error

/-- What follows the lookup of a year does not refuse it. -/
theorem announce_ne_yearTaken (service : Service) (campaign : Campaign) :
    FailsWith (· ≠ .refused .yearTaken)
      (announce service campaign >>= fun _ => pure campaign) := by
  apply FailsWith.bind
  · intro state failure hfailure
    exact absurd hfailure (announce_ne_error service campaign state failure)
  · intro done
    exact failsWith_pure campaign

theorem create_refused_iff_found :
    ((create service draft).after state).1 = .error (.refused .yearTaken) ↔
      ∃ campaign, ofYear? draft.year state.campaigns = .ok (some campaign) := by
  unfold create
  simp only [edit_put]
  rw [after_bind, after_ask, Shelf.campaigns_table]
  cases hyear : ofYear? draft.year state.campaigns with
  | error error =>
      have hfailure := ofStore_ne_yearTaken .create Shelf.campaigns.subject error
      simpa using hfailure
  | ok found =>
      cases found with
      | some campaign => simp [after_bind]
      | none =>
          simp only [Option.isSome_none, Bool.false_eq_true, if_false, Except.ok.injEq,
            reduceCtorEq, exists_false, iff_false]
          apply FailsWith.ne_error
          refine failsWith_freshIdentifier.bind ?_
          intro id
          apply (encode_ne_yearTaken draft id).bind
          intro campaign
          apply (perform_ne_yearTaken _ _).bind
          intro stored
          exact announce_ne_yearTaken service stored

theorem update_refused_iff_found :
    ((update id draft).after state).1 = .error (.refused .yearTaken) ↔
      Identifier.isSpelling id = true ∧
        (∃ old, state.campaigns.find? Campaign.schema id = .ok (some old)) ∧
          ∃ other, ofYear? draft.year state.campaigns = .ok (some other) ∧ other.id ≠ id := by
  rw [update_eq]
  rw [after_bind, after_checkIdentifier]
  by_cases hid : Identifier.isSpelling id = true
  · rw [if_pos hid]
    simp only [hid, true_and]
    rw [after_bind, after_ask, Shelf.campaigns_table]
    cases hfind : state.campaigns.find? Campaign.schema id with
    | error error =>
        have hfailure := ofStore_ne_yearTaken .update Shelf.campaigns.subject error
        simpa using hfailure
    | ok found =>
        cases found with
        | none => simp
        | some old =>
            have hstored := (encode_ne_yearTaken draft old.id).bind fun campaign =>
              perform_ne_yearTaken .update
                (Table.replace Campaign.schema old (Campaign.schema.revised old campaign))
            simp only [Except.ok.injEq, Option.some.injEq, exists_eq', true_and]
            rw [after_bind, after_ask, Shelf.campaigns_table]
            cases hyear : ofYear? draft.year state.campaigns with
            | error error =>
                have hfailure := ofStore_ne_yearTaken .update Shelf.campaigns.subject error
                simpa using hfailure
            | ok found =>
                cases found with
                | none =>
                    simp only [Except.ok.injEq, reduceCtorEq, false_and, exists_false, iff_false]
                    exact hstored.ne_error state
                | some other =>
                    by_cases hother : other.id = id
                    · simp only [hother, ne_eq, not_true_eq_false, if_false, Except.ok.injEq,
                        Option.some.injEq, exists_eq_left', iff_false]
                      exact hstored.ne_error state
                    · simp [hother, after_bind]
  · rw [if_neg hid]
    simp [hid]

/-- All that an update looks for can be looked for.  An identifier that is misspelled is refused
before that. -/
structure LookupsSucceed (id : String) (year : Int) (campaigns : Table Campaign) : Prop where
  spelled : Identifier.isSpelling id = true
  row : ∃ found, campaigns.find? Campaign.schema id = .ok found
  year : ∃ found, ofYear? year campaigns = .ok found

theorem create_refused_iff :
    ((create service draft).after state).1 = .error (.refused .yearTaken) ↔
      (∃ found, ofYear? draft.year state.campaigns = .ok found) ∧
        ∃ campaign ∈ state.campaigns.rows, campaign.year = draft.year := by
  rw [create_refused_iff_found]
  constructor
  · rintro ⟨campaign, hfound⟩
    obtain ⟨-, -, hfind⟩ := ofYear?_eq_ok_iff.mp hfound
    exact ⟨⟨_, hfound⟩, campaign, List.mem_of_find?_eq_some hfind,
      by simpa using List.find?_some hfind⟩
  · rintro ⟨⟨found, hfound⟩, campaign, hcampaign, hyear⟩
    obtain ⟨-, -, hfind⟩ := ofYear?_eq_ok_iff.mp hfound
    cases found with
    | some first => exact ⟨first, hfound⟩
    | none =>
        have hnone := List.find?_eq_none.mp hfind campaign hcampaign
        exact absurd hyear (by simpa using hnone)

theorem Distinct.update_refused_iff (hdistinct : Distinct state.campaigns)
    (hid : id ∈ state.campaigns.rows.map Campaign.id) :
    ((update id draft).after state).1 = .error (.refused .yearTaken) ↔
      LookupsSucceed id draft.year state.campaigns ∧
        ∃ other ∈ state.campaigns.rows, other.id ≠ id ∧ other.year = draft.year := by
  rw [update_refused_iff_found]
  constructor
  · rintro ⟨hspelled, ⟨old, hold⟩, other, hother, hne⟩
    obtain ⟨-, -, hfind⟩ := ofYear?_eq_ok_iff.mp hother
    exact ⟨⟨hspelled, ⟨_, hold⟩, _, hother⟩, other, List.mem_of_find?_eq_some hfind, hne,
      by simpa using List.find?_some hfind⟩
  · rintro ⟨⟨hspelled, ⟨found, hfound⟩, first, hfirst⟩, other, hother, hne, hyear⟩
    obtain ⟨old, hold, rfl⟩ := List.mem_map.mp hid
    obtain ⟨hselect, hfind⟩ := Table.find?_eq_ok_iff.mp hfound
    have hrow : found = some old := by
      rw [← hfind]
      exact (Table.find?_key_eq_some_iff hdistinct.ids).mpr ⟨hold, rfl⟩
    have hsame := hdistinct.eq_found hfirst hother hyear
    exact ⟨hspelled, ⟨old, hrow ▸ hfound⟩, other, hsame ▸ hfirst, hne⟩

/-- However a run of calls goes, years and identifiers stay distinct.  Then a year is refused
exactly when the lookups succeed and another campaign has it, so that a campaign can always keep
its own year. -/
theorem years_stay_distinct
    (service : Service) (steps : List CampaignStep) (hdistinct : Distinct state.campaigns) :
    let reached := Campaigns.last service steps state
    Distinct reached.campaigns ∧
      (∀ draft, ((create service draft).after reached).1 = .error (.refused .yearTaken) ↔
        (∃ found, ofYear? draft.year reached.campaigns = .ok found) ∧
          ∃ campaign ∈ reached.campaigns.rows, campaign.year = draft.year) ∧
      (∀ id ∈ reached.campaigns.rows.map Campaign.id, ∀ draft,
        ((update id draft).after reached).1 = .error (.refused .yearTaken) ↔
          LookupsSucceed id draft.year reached.campaigns ∧
            ∃ other ∈ reached.campaigns.rows, other.id ≠ id ∧ other.year = draft.year) ∧
      ∀ campaign ∈ reached.campaigns.rows, ∀ draft : CampaignDraft, draft.year = campaign.year →
        ((update campaign.id draft).after reached).1 ≠ .error (.refused .yearTaken) := by
  intro reached
  have hreached : Distinct reached.campaigns := hdistinct.last steps
  refine ⟨hreached, fun draft => create_refused_iff, ?_, ?_⟩
  · intro id hid draft
    exact hreached.update_refused_iff hid
  · intro campaign hcampaign draft hyear hrefused
    obtain ⟨-, other, hother, hne, hsame⟩ :=
      (hreached.update_refused_iff (List.mem_map_of_mem hcampaign)).mp hrefused
    -- The only campaign of the year is the one that keeps it.
    have heq := List.inj_on_of_nodup_map hreached.years hother hcampaign (hsame.trans hyear)
    exact hne (congrArg Campaign.id heq)

def springAndAutumn : State where
  campaigns := { rows := [
    ⟨"00000000-0000-4000-8000-000000000001", "spring", 2024, none⟩,
    ⟨"00000000-0000-4000-8000-000000000002", "autumn", 2025, none⟩] }
  identifiers := 2

theorem years_stay_distinct_spring_and_autumn :
    Distinct springAndAutumn.campaigns ∧
      ((update "00000000-0000-4000-8000-000000000001"
        { name := "spring", year := 2025, description := none }).after
          (Campaigns.last .plain [.faults [.update]] springAndAutumn)).1 =
            .error (.refused .yearTaken) := by
  have hdistinct : Distinct springAndAutumn.campaigns := ⟨by decide, by decide⟩
  obtain ⟨-, -, hupdate, -⟩ := years_stay_distinct .plain [.faults [.update]] hdistinct
  refine ⟨hdistinct, (hupdate _ (by decide) _).mpr ⟨⟨?_, ?_, ?_⟩, ?_⟩⟩
  · decide +kernel
  · exact ⟨_, rfl⟩
  · exact ⟨_, rfl⟩
  · decide +kernel

end Campaigns
end Roster
