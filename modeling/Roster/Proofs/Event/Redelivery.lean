import Roster.Event.Consumer
import Mathlib.Tactic

/-!
# Which messages are delivered again

The consumer commits a message as soon as its handler succeeds and goes on when a handler fails.
A commit moves the position of the group behind the message, and with it behind every message
before, whether handled or not.  Empty polls and broker errors take no message, so the offset of a
message is the number of messages polled before it.  After a restart the group therefore resumes
behind the last message that was handled: a failed message comes again exactly when no later one was
handled.
-/

namespace Roster
namespace Consumer

variable {topic : String} {handler : Handler} {seen : List (Option Delivery)}
  {result : Option Delivery} {delivery : Delivery} {state : State}

/-! ## Messages and positions -/

def message? (result : Option Delivery) : Option Delivery :=
  result.filter fun delivery => delivery.brokerError.isNone

def messages (polls : List (Option Delivery)) : List Delivery :=
  polls.filterMap message?

/-- The offset of the message that the poll with the index takes. -/
def offset (polls : List (Option Delivery)) (index : Nat) : Nat :=
  (messages (polls.take index)).length

/-- Where the group resumes: behind the message that was committed last. -/
def resumePosition (polls : List (Option Delivery)) (calls : List ConsumerCall) : Nat :=
  calls.foldl (fun position call =>
    match call with
    | .commit index => offset polls index + 1
    | _ => position) 0

/-- Whether the handler succeeded on the message at an offset, if there is one. -/
def outcome? (handler : Handler) (polls : List (Option Delivery)) (offset : Nat) :
    Option Bool :=
  (messages polls)[offset]?.map fun delivery => (handler offset delivery).succeeded

@[simp] theorem resumePosition_append_commit (polls : List (Option Delivery))
    (calls : List ConsumerCall) (index : Nat) :
    resumePosition polls (calls ++ [.commit index]) = offset polls index + 1 := by
  simp [resumePosition]

@[simp] theorem resumePosition_append_poll (polls : List (Option Delivery))
    (calls : List ConsumerCall) (index : Nat) :
    resumePosition polls (calls ++ [.poll index]) = resumePosition polls calls := by
  simp [resumePosition]

@[simp] theorem resumePosition_append_close (polls : List (Option Delivery))
    (calls : List ConsumerCall) :
    resumePosition polls (calls ++ [.close]) = resumePosition polls calls := by
  simp [resumePosition]

theorem offset_length_append (seen rest : List (Option Delivery)) :
    offset (seen ++ rest) seen.length = (messages seen).length := by
  simp [offset]

theorem messages_append_skipped (hskipped : message? result = none) :
    messages (seen ++ [result]) = messages seen := by
  simp [messages, hskipped]

theorem messages_append_message (hmessage : message? result = some delivery) :
    messages (seen ++ [result]) = messages seen ++ [delivery] := by
  simp [messages, hmessage]

theorem outcome?_append_skipped (hskipped : message? result = none) :
    outcome? handler (seen ++ [result]) = outcome? handler seen := by
  funext offset
  rw [outcome?, outcome?, messages_append_skipped hskipped]

theorem outcome?_append_message (hmessage : message? result = some delivery) (offset : Nat) :
    outcome? handler (seen ++ [result]) offset =
      if offset = (messages seen).length then some (handler offset delivery).succeeded
      else outcome? handler seen offset := by
  rw [outcome?, outcome?, messages_append_message hmessage]
  by_cases hlast : offset = (messages seen).length
  · simp [hlast]
  · rw [if_neg hlast]
    rcases Nat.lt_or_gt_of_ne hlast with hbefore | hbeyond
    · rw [List.getElem?_append_left hbefore]
    · rw [List.getElem?_eq_none (by simp; omega), List.getElem?_eq_none hbeyond.le]

theorem lt_length_of_outcome? {offset : Nat} {succeeded : Bool}
    (houtcome : outcome? handler seen offset = some succeeded) :
    offset < (messages seen).length := by
  by_contra hbeyond
  rw [outcome?, List.getElem?_eq_none (not_lt.mp hbeyond)] at houtcome
  cases houtcome

theorem exists_handled_append_message (hmessage : message? result = some delivery)
    (offset : Nat) :
    (∃ later, offset ≤ later ∧ outcome? handler (seen ++ [result]) later = some true) ↔
      ((handler (messages seen).length delivery).succeeded = true ∧
          offset ≤ (messages seen).length) ∨
        ∃ later, offset ≤ later ∧ outcome? handler seen later = some true := by
  simp only [outcome?_append_message hmessage]
  constructor
  · rintro ⟨later, hlater, hhandled⟩
    split_ifs at hhandled with hlast
    · subst hlast
      exact .inl ⟨Option.some.inj hhandled, hlater⟩
    · exact .inr ⟨later, hlater, hhandled⟩
  · rintro (⟨hsucceeded, hbefore⟩ | ⟨later, hlater, hhandled⟩)
    · exact ⟨_, hbefore, by rw [if_pos rfl, hsucceeded]⟩
    · exact ⟨later, hlater, by rw [if_neg (lt_length_of_outcome? hhandled).ne, hhandled]⟩

/-! ## What a step does -/

theorem step_of_skipped (topic : String) (handler : Handler) (state : State)
    (hskipped : message? result = none) :
    (step topic handler state result).polls = state.polls + 1 ∧
      (step topic handler state result).handlerCalls = state.handlerCalls ∧
      (step topic handler state result).calls = state.calls ++ [.poll state.polls] := by
  cases result with
  | none => exact ⟨rfl, rfl, rfl⟩
  | some delivery =>
      cases herror : delivery.brokerError with
      | none => simp [message?, herror] at hskipped
      | some error => simp [step, herror]

theorem step_of_message (topic : String) (handler : Handler) (state : State)
    (hmessage : message? result = some delivery) :
    (step topic handler state result).polls = state.polls + 1 ∧
      (step topic handler state result).handlerCalls = state.handlerCalls + 1 ∧
      (step topic handler state result).calls =
        state.calls ++ [.poll state.polls] ++
          if (handler state.handlerCalls delivery).succeeded then [.commit state.polls]
          else [] := by
  obtain ⟨rfl, hfine⟩ : result = some delivery ∧ delivery.brokerError = none := by
    simpa [message?] using hmessage
  cases hsucceeded : (handler state.handlerCalls delivery).succeeded with
  | true => simp [step, hfine, hsucceeded]
  | false => simp [step, hfine, hsucceeded]

/-! ## What a run does -/

/-- The counts of a running consumer, and its position whatever it polls after: behind the last
message that was handled so far. -/
structure Progress (handler : Handler) (seen : List (Option Delivery)) (state : State) :
    Prop where
  polls : state.polls = seen.length
  handlerCalls : state.handlerCalls = (messages seen).length
  position : ∀ rest offset,
    offset < resumePosition (seen ++ rest) state.calls ↔
      ∃ later, offset ≤ later ∧ outcome? handler seen later = some true

theorem progress_subscribed (topic : String) (handler : Handler) :
    Progress handler [] { calls := [.subscribe [topic]] } where
  polls := rfl
  handlerCalls := rfl
  position := by simp [resumePosition, outcome?, messages]

theorem Progress.step_skipped (hprogress : Progress handler seen state)
    (hskipped : message? result = none) :
    Progress handler (seen ++ [result]) (step topic handler state result) := by
  obtain ⟨hpolls, hhandler, hcalls⟩ := step_of_skipped topic handler state hskipped
  refine ⟨?_, ?_, ?_⟩
  · simp [hpolls, hprogress.polls]
  · rw [hhandler, hprogress.handlerCalls, messages_append_skipped hskipped]
  · intro rest offset
    rw [hcalls, resumePosition_append_poll, List.append_assoc, hprogress.position,
      outcome?_append_skipped hskipped]

theorem Progress.step_message (hprogress : Progress handler seen state)
    (hmessage : message? result = some delivery) :
    Progress handler (seen ++ [result]) (step topic handler state result) := by
  obtain ⟨hpolls, hhandler, hcalls⟩ := step_of_message topic handler state hmessage
  refine ⟨?_, ?_, ?_⟩
  · simp [hpolls, hprogress.polls]
  · rw [hhandler, hprogress.handlerCalls, messages_append_message hmessage,
      List.length_append, List.length_singleton]
  · intro rest offset
    rw [exists_handled_append_message hmessage, hcalls, hprogress.handlerCalls,
      ← hprogress.position (result :: rest) offset, List.append_assoc]
    cases (handler (messages seen).length delivery).succeeded with
    | false => simp
    | true =>
        -- The commit moves the position behind everything that was handled before.
        have hbound : offset < resumePosition (seen ++ result :: rest) state.calls →
            offset ≤ (messages seen).length := by
          rw [hprogress.position]
          rintro ⟨later, hlater, hhandled⟩
          exact hlater.trans (lt_length_of_outcome? hhandled).le
        simp only [if_true, resumePosition_append_commit, hprogress.polls, List.singleton_append,
          offset_length_append, Nat.lt_succ_iff, true_and]
        exact ⟨.inl, fun hcase => hcase.elim id hbound⟩

theorem Progress.step (hprogress : Progress handler seen state) (result : Option Delivery) :
    Progress handler (seen ++ [result]) (step topic handler state result) := by
  cases hmessage : message? result with
  | none => exact hprogress.step_skipped hmessage
  | some delivery => exact hprogress.step_message hmessage

theorem progress_foldl (topic : String) (handler : Handler) (polls : List (Option Delivery)) :
    Progress handler polls
      (polls.foldl (Consumer.step topic handler) { calls := [.subscribe [topic]] }) := by
  induction polls using List.reverseRecOn with
  | nil => exact progress_subscribed topic handler
  | append_singleton seen result ih =>
      rw [List.foldl_append]
      exact ih.step result

/-- The group resumes behind an offset exactly when the message there or a later one was
handled. -/
theorem lt_resumePosition_run_iff
    (topic : String) (handler : Handler) (polls : List (Option Delivery)) (offset : Nat) :
    offset < resumePosition polls (run topic handler false polls).calls ↔
      ∃ later, offset ≤ later ∧ outcome? handler polls later = some true := by
  have hposition := (progress_foldl topic handler polls).position [] offset
  rw [List.append_nil] at hposition
  simpa [run] using hposition

theorem resumePosition_run_stopped
    (topic : String) (handler : Handler) (polls : List (Option Delivery)) :
    resumePosition polls (run topic handler true polls).calls = 0 := by
  simp [run, resumePosition]

/-- A failed message is delivered again exactly when no later message was handled. -/
theorem failed_message_redelivered_iff
    (topic : String) (handler : Handler) (polls : List (Option Delivery)) (failed : Nat)
    (hfailed : outcome? handler polls failed = some false) :
    resumePosition polls (run topic handler false polls).calls ≤ failed ↔
      ∀ later, failed < later → outcome? handler polls later ≠ some true := by
  rw [← not_lt, lt_resumePosition_run_iff]
  constructor
  · intro hnone later hlater hhandled
    exact hnone ⟨later, hlater.le, hhandled⟩
  · rintro hnone ⟨later, hlater, hhandled⟩
    rcases hlater.eq_or_lt with rfl | hafter
    · rw [hfailed] at hhandled
      cases hhandled
    · exact hnone later hafter hhandled

def arrival (document : String) : Option Delivery :=
  some { value := some (utf8 document) }

def failingLast : List (Option Delivery) :=
  [none, arrival "\x7b\"id\": \"1\", \"name\": \"n\", \"year\": 2020\x7d",
    arrival "\x7b\"id\": \"2\"\x7d", some { brokerError := some "broker down" }]

theorem failed_message_redelivered_iff_last :
    outcome? decodingHandler failingLast 1 = some false ∧
      resumePosition failingLast (run "example" decodingHandler false failingLast).calls ≤ 1 := by
  have hfailed : outcome? decodingHandler failingLast 1 = some false := by
    decide +kernel
  refine ⟨hfailed, (failed_message_redelivered_iff "example" _ _ 1 hfailed).mpr ?_⟩
  intro later hlater hhandled
  have hbound : later < 2 := lt_length_of_outcome? hhandled
  omega

def failingFirst : List (Option Delivery) :=
  [arrival "\x7b\"id\": \"2\"\x7d",
    arrival "\x7b\"id\": \"1\", \"name\": \"n\", \"year\": 2020\x7d"]

/-- A failed message is skipped when a message after it is handled. -/
theorem failed_message_skipped_before_handled :
    outcome? decodingHandler failingFirst 0 = some false ∧
      0 < resumePosition failingFirst
        (run "example" decodingHandler false failingFirst).calls := by
  decide +kernel

end Consumer
end Roster
