import Roster.Proofs.Campaign.Calls
import Roster.Proofs.Json.Plain
import Roster.Proofs.User.Calls
import Mathlib.Tactic

/-!
# Refusals that can be sent

The messages of refusals are the service's own words, up to the names and numbers that a query
holds.  Only the message about a token that is rejected can repeat a text from outside which cannot
be encoded, and no call of the registries looks at a token.
-/

namespace Roster

theorem Refusal.isPlain_message {refusal : Refusal}
    (hown : ∀ message, refusal ≠ .unauthenticated (.rejected message)) :
    refusal.message.IsPlain := by
  cases refusal with
  | unauthenticated reason =>
      cases reason with
      | rejected message => exact absurd rfl (hown message)
      | noToken => exact LooseText.isPlain_ofString _
      | unknownUser => exact LooseText.isPlain_ofString _
  | _ => exact LooseText.isPlain_ofString _

/-- The failure has a message of the service's own, if it is a refusal. -/
def Failure.IsWorded (failure : Failure) : Prop :=
  ∀ refusal, failure = .refused refusal → refusal.message.IsPlain

theorem Failure.isWorded_crashed (crash : Crash) : (Failure.crashed crash).IsWorded :=
  nofun

theorem Failure.isWorded_refused {refusal : Refusal} (hplain : refusal.message.IsPlain) :
    (Failure.refused refusal).IsWorded := by
  intro other hother
  cases hother
  exact hplain

theorem Failure.isWorded_ofStore (task : Task) (subject : Subject) (error : StoreError) :
    (Failure.ofStore task subject error).IsWorded := by
  cases error with
  | outOfRange => exact isWorded_crashed _
  | unencodable fault => exact isWorded_crashed _
  | _ => exact isWorded_refused (Refusal.isPlain_message (by simp))

namespace Call

variable {α β ρ : Type}

def Worded (call : Call α) : Prop :=
  FailsWith Failure.IsWorded call

theorem worded_pure (value : α) : Worded (pure value) :=
  failsWith_pure value

theorem worded_refuse {refusal : Refusal}
    (hown : ∀ message, refusal ≠ .unauthenticated (.rejected message)) :
    Worded (refuse refusal : Call α) := by
  intro state failure hfailure
  cases hfailure
  exact Failure.isWorded_refused (Refusal.isPlain_message hown)

theorem worded_crash (crash : Crash) : Worded (Call.crash crash : Call α) := by
  intro state failure hfailure
  cases hfailure
  exact Failure.isWorded_crashed crash

theorem worded_perform (shelf : Shelf ρ) (task : Task)
    (operation : Table ρ → Except StoreError (α × Table ρ)) :
    Worded (perform shelf task operation) :=
  failsWith_perform fun _ error _ => Failure.isWorded_ofStore task shelf.subject error

theorem worded_ask (shelf : Shelf ρ) (task : Task) (question : Table ρ → Except StoreError α) :
    Worded (ask shelf task question) := by
  intro state failure hfailure
  rw [after_ask] at hfailure
  cases hquestion : question (shelf.table state) with
  | ok value =>
      rw [hquestion] at hfailure
      cases hfailure
  | error error =>
      rw [hquestion] at hfailure
      cases hfailure
      exact Failure.isWorded_ofStore task shelf.subject error

theorem worded_freshIdentifier : Worded freshIdentifier :=
  failsWith_freshIdentifier

theorem worded_encode (text : LooseText) : Worded (encode text) :=
  failsWith_encode (fun _ => Failure.isWorded_crashed _) text

theorem worded_checkIdentifier (subject : Subject) (id : String) :
    Worded (checkIdentifier subject id) := by
  unfold checkIdentifier
  split_ifs
  · exact worded_pure _
  · exact worded_refuse (by simp)

end Call

open Call

namespace Users

theorem worded_refuseTaken (task : Task) (credentials : Credentials) (own : Option String) :
    Worded (refuseTaken task credentials own) := by
  unfold refuseTaken
  apply (worded_ask _ _ _).bind
  intro taken
  cases taken with
  | none => exact worded_pure _
  | some column => exact worded_refuse (by simp)

theorem worded_hashPassword (service : Service) (password : LooseText) :
    Worded (hashPassword service password) := by
  intro state failure hfailure
  rw [after_hashPassword] at hfailure
  cases hhash : Password.hash service.signer.crypto (service.salt state.salts) password with
  | ok hash =>
      rw [hhash] at hfailure
      cases hfailure
  | error error =>
      rw [hhash] at hfailure
      cases hfailure
      exact Failure.isWorded_crashed _

theorem worded_create (service : Service) (credentials : Credentials) :
    Worded (create service credentials) := by
  unfold create
  simp only [edit_put]
  apply (worded_refuseTaken _ _ _).bind
  intro _
  apply worded_freshIdentifier.bind
  intro id
  apply (worded_hashPassword _ _).bind
  intro hash
  apply (worded_encode _).bind
  intro username
  apply (worded_encode _).bind
  intro email
  exact (worded_perform _ _ _).bind fun stored => worded_pure _

theorem worded_login (service : Service) (now : Moment) (credentials : Credentials) :
    Worded (login service now credentials) := by
  unfold login
  apply (worded_ask _ _ _).bind
  intro found
  cases found with
  | none => exact worded_refuse (by simp)
  | some user =>
      simp only
      cases Password.verify service.signer.crypto credentials.password user.password with
      | error error => exact worded_crash _
      | ok fits =>
          cases fits with
          | false => exact worded_refuse (by simp)
          | true =>
              simp only
              cases service.signer.issue user.loginName now with
              | ok token => exact worded_pure _
              | error error => exact worded_crash _

theorem worded_update (service : Service) (id : String) (credentials : Credentials) :
    Worded (update service id credentials) := by
  rw [update_eq]
  apply (worded_checkIdentifier _ _).bind
  intro _
  apply (worded_ask _ _ _).bind
  intro found
  cases found with
  | none => exact worded_refuse (by simp)
  | some old =>
      apply (worded_refuseTaken _ _ _).bind
      intro _
      apply (worded_hashPassword _ _).bind
      intro hash
      apply (worded_encode _).bind
      intro username
      apply (worded_encode _).bind
      intro email
      exact (worded_perform _ _ _).bind fun stored => worded_pure _

theorem worded_delete (id : String) : Worded (delete id) := by
  unfold delete
  simp only [edit_delete]
  apply (worded_checkIdentifier _ _).bind
  intro _
  exact (worded_perform _ _ _).bind fun found => worded_pure _

theorem worded_list (service : Service) (request : Listing.Request) :
    Worded (list service request) :=
  (worded_ask _ _ _).bind fun _ => worded_pure _

theorem worded_findOne (id : String) : Worded (findOne id) := by
  unfold findOne
  apply (worded_checkIdentifier _ _).bind
  intro _
  apply (worded_ask _ _ _).bind
  intro found
  cases found with
  | none => exact worded_refuse (by simp)
  | some user => exact worded_pure _

end Users

namespace Campaigns

theorem worded_encodeRow (draft : CampaignDraft) (id : String) : Worded (encode draft id) := by
  unfold encode
  apply (worded_encode _).bind
  intro name
  cases draft.description with
  | none => exact (worded_pure _).bind fun description => worded_pure _
  | some text =>
      apply FailsWith.bind
      · exact (worded_encode text).bind fun plain => worded_pure _
      · exact fun description => worded_pure _

theorem worded_create (service : Service) (draft : CampaignDraft) :
    Worded (create service draft) := by
  unfold create
  simp only [edit_put]
  apply (worded_ask _ _ _).bind
  intro found
  cases found with
  | some other => exact worded_refuse (by simp)
  | none =>
      apply worded_freshIdentifier.bind
      intro id
      apply (worded_encodeRow _ _).bind
      intro campaign
      apply (worded_perform _ _ _).bind
      intro stored
      apply FailsWith.bind
      · exact fun state failure hfailure =>
          absurd hfailure (announce_ne_error service stored state failure)
      · exact fun _ => worded_pure _

theorem worded_update (id : String) (draft : CampaignDraft) : Worded (update id draft) := by
  rw [update_eq]
  apply (worded_checkIdentifier _ _).bind
  intro _
  apply (worded_ask _ _ _).bind
  intro found
  cases found with
  | none => exact worded_refuse (by simp)
  | some old =>
      have hwrite : Worded (do
          let campaign ← encode draft old.id
          Call.perform .campaigns .update (Table.replace Campaign.schema old
            (Campaign.schema.revised old campaign))) :=
        (worded_encodeRow _ _).bind fun row => worded_perform _ _ _
      apply (worded_ask _ _ _).bind
      intro found
      cases found with
      | none => exact hwrite
      | some other =>
          by_cases hother : other.id = id
          · simp only [hother, ne_eq, not_true_eq_false, if_false]
            exact hwrite
          · simp only [ne_eq, hother, not_false_eq_true, if_true]
            exact (worded_refuse (by simp)).bind fun _ => hwrite

theorem worded_delete (id : String) : Worded (delete id) := by
  unfold delete
  simp only [edit_delete]
  apply (worded_checkIdentifier _ _).bind
  intro _
  exact (worded_perform _ _ _).bind fun found => worded_pure _

theorem worded_findOne (id : String) : Worded (findOne id) := by
  unfold findOne
  apply (worded_checkIdentifier _ _).bind
  intro _
  apply (worded_ask _ _ _).bind
  intro found
  cases found with
  | none => exact worded_refuse (by simp)
  | some campaign => exact worded_pure _

end Campaigns

end Roster
