import Roster.Proofs.Campaign.Years
import Roster.Proofs.Payload.Accepted
import Roster.Proofs.Service.Crashes
import Mathlib.Tactic

/-!
# Campaigns that cannot be written

A payload may give any integer as the year and any text as the name, but a year of more than 64
bits cannot be looked for, and a text with a lone surrogate cannot be encoded.  The service has no
answer for either.  Nothing else makes a call of the registry crash: looking up and deleting a
campaign never do, and a year is tried before the texts are.
-/

namespace Roster

/-- The first text of the draft that cannot be encoded breaks at the fault. -/
inductive CampaignDraft.BreaksAt (draft : CampaignDraft) (fault : Unencodable) : Prop where
  | name (hname : draft.name.encode = .error fault)
  | description (name : String) (text : LooseText) (hname : draft.name = LooseText.ofString name)
      (htext : draft.description = some text) (hfault : text.encode = .error fault)

namespace Campaigns

open Call Outcome

variable {β : Type} {service : Service} {state : State} {draft : CampaignDraft} {id : String}
  {crash : Crash}

/-- What stops a draft from being written, where the year is free under the given condition. -/
inductive Unwritable (draft : CampaignDraft) (free : Prop) : Crash → Prop where
  | year (hyear : fitsInt64 draft.year = false) : Unwritable draft free (.store .outOfRange)
  | text (fault : Unencodable) (hyear : fitsInt64 draft.year = true) (hfree : free)
      (hbreaks : draft.BreaksAt fault) : Unwritable draft free (.store (.unencodable fault))

/-! ## Texts -/

theorem crashesWith_description_iff
    {description : Option LooseText} {answer : Option String → Campaign} :
    CrashesWith (description.mapM Call.encode >>= fun plain => pure (answer plain)) state crash ↔
      ∃ text ∈ description, ∃ fault,
        text.encode = .error fault ∧ crash = .store (.unencodable fault) := by
  cases description with
  | none =>
      have hpure : ¬ CrashesWith (pure (answer none)) state crash :=
        (answers_pure _).not_crashesWith
      simpa using hpure
  | some text =>
      have hsteps : ((some text).mapM Call.encode >>= fun plain => pure (answer plain)) =
          (Call.encode text >>= fun plain => pure (answer (some plain))) := by
        simp
      rw [hsteps, Call.crashesWith_encode_bind_iff]
      have hpure : ∀ plain, ¬ CrashesWith (pure (answer (some plain))) state crash :=
        fun plain => (answers_pure _).not_crashesWith
      simp [hpure]

theorem crashesWith_encode_iff :
    CrashesWith (encode draft id) state crash ↔
      ∃ fault, draft.BreaksAt fault ∧ crash = .store (.unencodable fault) := by
  unfold encode
  rw [Call.crashesWith_encode_bind_iff]
  constructor
  · rintro (⟨fault, hname, rfl⟩ | ⟨name, hname, hrest⟩)
    · exact ⟨fault, .name hname, rfl⟩
    · obtain ⟨text, htext, fault, hfault, rfl⟩ := crashesWith_description_iff.mp hrest
      exact ⟨fault, .description name text hname htext hfault, rfl⟩
  · rintro ⟨fault, hname | ⟨name, text, hname, htext, hfault⟩, rfl⟩
    · exact Or.inl ⟨fault, hname, rfl⟩
    · exact Or.inr ⟨name, hname,
        crashesWith_description_iff.mpr ⟨text, htext, fault, hfault, rfl⟩⟩

theorem crashesWith_encode_bind_iff {next : Campaign → Call β}
    (hnext : ∀ campaign : Campaign, campaign.Fits draft → Answers (next campaign)) :
    CrashesWith (encode draft id >>= next) state crash ↔
      ∃ fault, draft.BreaksAt fault ∧ crash = .store (.unencodable fault) := by
  rw [Call.crashesWith_bind_iff, crashesWith_encode_iff, or_iff_left]
  rintro ⟨campaign, middle, hencode, hcrash⟩
  have hencoded : (encode draft id >>= pure).after state = (.ok campaign, middle) := by
    rwa [bind_pure]
  obtain ⟨encoded, hfits, -, hdone⟩ := encode_bind_ok hencoded
  cases hdone
  exact (hnext campaign hfits).not_crashesWith hcrash

/-! ## Years -/

theorem accept_of_fits {campaign : Campaign} (hfits : campaign.Fits draft)
    (hyear : fitsInt64 draft.year = true) :
    Campaign.schema.accept campaign = .ok campaign := by
  rw [hfits.year] at hyear
  unfold Schema.accept
  -- The year is the only integer of a row, and texts are stored whatever they are.
  simp only [Campaign.schema, List.all_cons, List.all_nil, Cell.isStorable, hyear]
  cases campaign.description with
  | none => rfl
  | some text => rfl

theorem crashesWith_ofYear_bind_iff
    {task : Task} {next : Option Campaign → Call β} {free : Prop}
    (hnext : fitsInt64 draft.year = true →
      (CrashesWith (next (state.campaigns.rows.find? (·.year = draft.year))) state crash ↔
        free ∧ ∃ fault, draft.BreaksAt fault ∧ crash = .store (.unencodable fault))) :
    CrashesWith (ask .campaigns task (ofYear? draft.year) >>= next) state crash ↔
      .select ∉ state.campaigns.failing ∧ Unwritable draft free crash := by
  rw [crashesWith_ask_bind_iff, Shelf.campaigns_table]
  constructor
  · rintro (⟨error, herror, hescapes, rfl⟩ | ⟨found, hfound, hcrash⟩)
    · rcases Table.findCell?_eq_error_iff.mp herror with ⟨-, rfl⟩ | ⟨hselect, hyear, rfl⟩
      · cases hescapes
      · exact ⟨hselect, .year hyear⟩
    · obtain ⟨hselect, hyear, rfl⟩ := ofYear?_eq_ok_iff.mp hfound
      obtain ⟨hfree, fault, hbreaks, rfl⟩ := (hnext hyear).mp hcrash
      exact ⟨hselect, .text fault hyear hfree hbreaks⟩
  · rintro ⟨hselect, hyear | ⟨fault, hyear, hfree, hbreaks⟩⟩
    · exact Or.inl
        ⟨.outOfRange, Table.findCell?_eq_error_iff.mpr (.inr ⟨hselect, hyear, rfl⟩), trivial, rfl⟩
    · exact Or.inr ⟨_, ofYear?_eq_ok_iff.mpr ⟨hselect, hyear, rfl⟩,
        (hnext hyear).mpr ⟨hfree, fault, hbreaks, rfl⟩⟩

/-! ## Calls -/

theorem answers_announce (campaign : Campaign) :
    Answers (announce service campaign >>= fun _ => pure campaign) := by
  apply FailsWith.bind
  · intro state failure hfailure
    exact absurd hfailure (announce_ne_error service campaign state failure)
  · intro done
    exact answers_pure campaign

theorem create_crashesWith_iff :
    CrashesWith (create service draft) state crash ↔
      .select ∉ state.campaigns.failing ∧
        Unwritable draft (∀ campaign ∈ state.campaigns.rows, campaign.year ≠ draft.year) crash := by
  unfold create
  simp only [edit_put]
  apply crashesWith_ofYear_bind_iff
  intro hyear
  cases hfound : state.campaigns.rows.find? (·.year = draft.year) with
  | some other =>
      have htaken : ¬ ∀ campaign ∈ state.campaigns.rows, campaign.year ≠ draft.year := by
        intro hfree
        exact hfree other (List.mem_of_find?_eq_some hfound) (by simpa using List.find?_some hfound)
      simp [htaken, CrashesWith, after_bind]
  | none =>
      have hfree : ∀ campaign ∈ state.campaigns.rows, campaign.year ≠ draft.year := by
        simpa using hfound
      rw [and_iff_right hfree]
      simp only [Option.isSome_none, Bool.false_eq_true, if_false]
      rw [answers_freshIdentifier.crashesWith_bind_iff]
      have hwrite : ∀ campaign : Campaign, campaign.Fits draft →
          Answers (do
            let stored ← Call.perform .campaigns .create
              (Table.put Campaign.schema (Draft.ofRow Campaign.schema campaign))
            announce service stored
            return stored) := by
        intro campaign hfits
        apply FailsWith.bind
        · exact answers_perform fun _ _ => Table.database_of_put (accept_of_fits hfits hyear)
        · exact answers_announce
      simp only [crashesWith_encode_bind_iff hwrite, after_freshIdentifier, Prod.mk.injEq,
        Except.ok.injEq, exists_and_right, exists_and_left, exists_eq', true_and]

theorem update_crashesWith_iff :
    CrashesWith (update id draft) state crash ↔
      Identifier.isSpelling id = true ∧ .select ∉ state.campaigns.failing ∧
        (∃ old ∈ state.campaigns.rows, old.id = id) ∧
        Unwritable draft
          (∀ other ∈ state.campaigns.rows.find? (·.year = draft.year), other.id = id) crash := by
  rw [update_eq]
  rw [crashesWith_checkIdentifier_bind_iff]
  apply and_congr_right
  intro _
  apply crashesWith_find_bind_iff
  · exact (answers_refuse _).not_crashesWith
  · intro hselect old
    refine Iff.trans (crashesWith_ofYear_bind_iff ?_) (and_iff_right hselect)
    intro hyear
    have hwrite : ∀ campaign : Campaign, campaign.Fits draft →
        Answers (Call.perform .campaigns .update
          (Table.replace Campaign.schema old (Campaign.schema.revised old campaign))) :=
      fun campaign hfits =>
        answers_perform fun _ _ => Table.database_of_replace (accept_of_fits hfits hyear)
    cases state.campaigns.rows.find? (·.year = draft.year) with
    | none => simpa using crashesWith_encode_bind_iff hwrite
    | some other =>
        by_cases hown : other.id = id
        · simpa [hown] using crashesWith_encode_bind_iff hwrite
        · simp [hown, CrashesWith, after_bind]

theorem answers_delete (id : String) : Answers (delete id) := by
  unfold delete
  simp only [edit_delete]
  apply FailsWith.bind
  · exact answers_checkIdentifier
  · intro _
    apply FailsWith.bind
    · exact answers_perform fun _ _ => Table.database_of_delete
    · intro found
      exact answers_pure ()

theorem answers_findOne (id : String) : Answers (findOne id) := by
  unfold findOne
  apply FailsWith.bind
  · exact answers_checkIdentifier
  · intro _
    apply FailsWith.bind
    · exact answers_find
    · intro found
      cases found with
      | none => exact answers_refuse _
      | some campaign => exact answers_pure campaign

/-- A call crashes on nothing but a draft that cannot be written: on its year when this has more
than 64 bits, else on its first text that cannot be encoded, if nothing was refused before. -/
theorem campaign_calls_crash_iff
    (service : Service) (state : State) (draft : CampaignDraft) (id : String) (crash : Crash) :
    (CrashesWith (create service draft) state crash ↔
        .select ∉ state.campaigns.failing ∧
          Unwritable draft (∀ campaign ∈ state.campaigns.rows, campaign.year ≠ draft.year) crash) ∧
      (CrashesWith (update id draft) state crash ↔
        Identifier.isSpelling id = true ∧ .select ∉ state.campaigns.failing ∧
          (∃ old ∈ state.campaigns.rows, old.id = id) ∧
          Unwritable draft
            (∀ other ∈ state.campaigns.rows.find? (·.year = draft.year), other.id = id) crash) ∧
      ¬ CrashesWith (findOne id) state crash ∧
      ¬ CrashesWith (delete id) state crash :=
  ⟨create_crashesWith_iff, update_crashesWith_iff, (answers_findOne id).not_crashesWith,
    (answers_delete id).not_crashesWith⟩

theorem year_beyond_64_bits_crashes :
    ¬ ∀ service state fields draft crash, CampaignDraft.ofFields fields = .ok draft →
      ¬ CrashesWith (create service draft) state crash := by
  intro hanswers
  have haccepted : CampaignDraft.ofFields
      [("name", .text "summer"), ("year", .int 9223372036854775808)] =
        .ok { name := "summer", year := 9223372036854775808, description := none } := by
    decide +kernel
  exact hanswers .plain {} _ _ (.store .outOfRange) haccepted rfl

end Campaigns
end Roster
