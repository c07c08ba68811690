import Roster.Proofs.Event.Redelivery
import Mathlib.Tactic

/-!
# What a consumer does from the first call to the last

The consumer looks at the stop event before every poll.  A turn is a poll with what comes of it,
and the event can be set at any time during a turn; the consumer finishes the turn and stops.  It
subscribes before the first turn and closes after the last one.  What it does in between is told
turn by turn: each poll is followed at once by the commit of its message if the handler has
succeeded on it, and by nothing else.
-/

namespace Roster
namespace Consumer

/-! ## The stop event -/

structure Turn where
  result : Option Delivery
  /-- Is the stop event set by the end of the turn? -/
  stops : Bool

/-- The loop polls as long as it finds the stop event unset.  There is no final state while a poll
is still awaited. -/
def watch (topic : String) (handler : Handler) : Bool → List Turn → State → Option State
  | true, _, state => some state
  | false, [], _ => none
  | false, turn :: rest, state =>
    watch topic handler turn.stops rest (step topic handler state turn.result)

def consume (topic : String) (handler : Handler) (stopped : Bool) (turns : List Turn) :
    Option State :=
  (watch topic handler stopped turns { calls := [.subscribe [topic]] }).map fun final =>
    { final with calls := final.calls ++ [.close] }

/-- The stop event is unset whenever the loop looks at it before the turns are over, and set
then. -/
def SetAfter (stopped : Bool) (turns : List Turn) : Prop :=
  stopped :: turns.map Turn.stops = List.replicate turns.length false ++ [true]

variable {topic : String} {handler : Handler} {stopped : Bool} {turn : Turn} {turns : List Turn}
  {state : State} {seen : List (Option Delivery)} {result : Option Delivery}

@[simp] theorem setAfter_nil : SetAfter stopped [] ↔ stopped = true := by
  simp [SetAfter]

@[simp] theorem setAfter_cons :
    SetAfter stopped (turn :: turns) ↔ stopped = false ∧ SetAfter turn.stops turns := by
  simp [SetAfter, List.replicate_succ]

theorem exists_setAfter (hset : stopped = true ∨ ∃ turn ∈ turns, turn.stops = true) :
    ∃ before rest, turns = before ++ rest ∧ SetAfter stopped before := by
  induction turns generalizing stopped with
  | nil => exact ⟨[], [], rfl, by simpa using hset⟩
  | cons turn turns ih =>
      cases stopped with
      | true => exact ⟨[], turn :: turns, rfl, by simp⟩
      | false =>
          have hlater : turn.stops = true ∨ ∃ later ∈ turns, later.stops = true := by
            simpa using hset
          obtain ⟨before, rest, rfl, hbefore⟩ := ih hlater
          exact ⟨turn :: before, rest, rfl, by simpa using hbefore⟩

@[simp] theorem watch_set : watch topic handler true turns state = some state := by
  cases turns with
  | nil => rfl
  | cons turn turns => rfl

theorem watch_of_setAfter {before : List Turn} (hbefore : SetAfter stopped before)
    (rest : List Turn) :
    watch topic handler stopped (before ++ rest) state =
      some ((before.map Turn.result).foldl (step topic handler) state) := by
  induction before generalizing stopped state with
  | nil =>
      obtain rfl := setAfter_nil.mp hbefore
      simp
  | cons turn before ih =>
      obtain ⟨rfl, hrest⟩ := setAfter_cons.mp hbefore
      exact ih hrest

/-- A consumer that is stopped from the start has no turns. -/
theorem run_of_setAfter (hturns : SetAfter stopped turns) :
    run topic handler stopped (turns.map Turn.result) =
      run topic handler false (turns.map Turn.result) := by
  cases stopped with
  | false => rfl
  | true =>
      cases turns with
      | nil => rfl
      | cons turn turns => simp at hturns

/-- A consumer that watches the stop event runs over the turns that begin before it is set. -/
theorem consume_eq_run {before : List Turn} (hbefore : SetAfter stopped before)
    (rest : List Turn) :
    consume topic handler stopped (before ++ rest) =
      some (run topic handler stopped (before.map Turn.result)) := by
  rw [consume, watch_of_setAfter hbefore, run_of_setAfter hbefore]
  rfl

/-! ## Turn by turn -/

/-- What the broker is told in the turn with the index, when so many messages came before. -/
def turnCalls (handler : Handler) (number index : Nat) (result : Option Delivery) :
    List ConsumerCall :=
  .poll index ::
    if (message? result).any fun delivery => (handler number delivery).succeeded then
      [.commit index]
    else []

/-- What is logged in a turn, when so many messages came before. -/
def turnLogs (topic : String) (handler : Handler) (number : Nat) :
    Option Delivery → List Log.Record
  | none => []
  | some delivery =>
    match delivery.brokerError with
    | some error => [brokerFailed topic error]
    | none =>
      (handler number delivery).logs ++
        if (handler number delivery).succeeded then [] else [handlerFailed topic]

/-- What the broker is told in the given turns of the polls. -/
def allCalls (handler : Handler) (polls : List (Option Delivery))
    (turns : List (Option Delivery × Nat)) : List ConsumerCall :=
  turns.flatMap fun (result, index) => turnCalls handler (offset polls index) index result

def allLogs (topic : String) (handler : Handler) (polls : List (Option Delivery))
    (turns : List (Option Delivery × Nat)) : List Log.Record :=
  turns.flatMap fun (result, index) => turnLogs topic handler (offset polls index) result

def isCommit : ConsumerCall → Bool
  | .commit _ => true
  | _ => false

/-- A consumer that runs has done what its turns so far ask for, whatever it polls after. -/
structure Underway (topic : String) (handler : Handler) (seen : List (Option Delivery))
    (state : State) : Prop where
  polls : state.polls = seen.length
  handlerCalls : state.handlerCalls = (messages seen).length
  calls : ∀ rest, state.calls = .subscribe [topic] :: allCalls handler (seen ++ rest) seen.zipIdx
  logs : ∀ rest, state.logs = allLogs topic handler (seen ++ rest) seen.zipIdx
  handled : state.handled = state.calls.countP isCommit

theorem allCalls_append_singleton (handler : Handler) (rest : List (Option Delivery)) :
    allCalls handler (seen ++ result :: rest) (seen ++ [result]).zipIdx =
      allCalls handler (seen ++ result :: rest) seen.zipIdx ++
        turnCalls handler (messages seen).length seen.length result := by
  simp [allCalls, List.zipIdx_append, offset_length_append]

theorem allLogs_append_singleton (topic : String) (handler : Handler)
    (rest : List (Option Delivery)) :
    allLogs topic handler (seen ++ result :: rest) (seen ++ [result]).zipIdx =
      allLogs topic handler (seen ++ result :: rest) seen.zipIdx ++
        turnLogs topic handler (messages seen).length result := by
  simp [allLogs, List.zipIdx_append, offset_length_append]

theorem messages_singleton (result : Option Delivery) :
    messages [result] = (message? result).toList := by
  cases hmessage : message? result with
  | none => simp [messages, hmessage]
  | some delivery => simp [messages, hmessage]

/-- A step adds the calls and the logs of one turn. -/
theorem step_adds_turn (topic : String) (handler : Handler) (state : State)
    (result : Option Delivery) :
    step topic handler state result = {
      polls := state.polls + 1
      handlerCalls := state.handlerCalls + (messages [result]).length
      handled := state.handled +
        (turnCalls handler state.handlerCalls state.polls result).countP isCommit
      calls := state.calls ++ turnCalls handler state.handlerCalls state.polls result
      logs := state.logs ++ turnLogs topic handler state.handlerCalls result } := by
  cases result with
  | none => simp [step, turnCalls, turnLogs, messages_singleton, message?, isCommit]
  | some delivery =>
      cases herror : delivery.brokerError with
      | some error =>
          simp [step, turnCalls, turnLogs, messages_singleton, message?, isCommit, herror]
      | none =>
          have hmessage : message? (some delivery) = some delivery := by
            simp [message?, herror, Option.filter_some]
          cases hsucceeded : (handler state.handlerCalls delivery).succeeded with
          | true =>
              simp [step, turnCalls, turnLogs, messages_singleton, hmessage, isCommit, herror,
                hsucceeded]
          | false =>
              simp [step, turnCalls, turnLogs, messages_singleton, hmessage, isCommit, herror,
                hsucceeded]

theorem underway_subscribed (topic : String) (handler : Handler) :
    Underway topic handler [] { calls := [.subscribe [topic]] } := by
  constructor <;> simp [messages, allCalls, allLogs, isCommit]

theorem Underway.step (hunderway : Underway topic handler seen state)
    (result : Option Delivery) :
    Underway topic handler (seen ++ [result]) (Consumer.step topic handler state result) := by
  rw [step_adds_turn, hunderway.polls, hunderway.handlerCalls]
  constructor
  · simp
  · simp [messages]
  · intro rest
    rw [List.append_assoc, List.singleton_append, allCalls_append_singleton,
      hunderway.calls (result :: rest), List.cons_append]
  · intro rest
    rw [List.append_assoc, List.singleton_append, allLogs_append_singleton,
      hunderway.logs (result :: rest)]
  · rw [hunderway.handled, List.countP_append]

theorem underway_foldl (topic : String) (handler : Handler) (polls : List (Option Delivery)) :
    Underway topic handler polls
      (polls.foldl (Consumer.step topic handler) { calls := [.subscribe [topic]] }) := by
  induction polls using List.reverseRecOn with
  | nil => exact underway_subscribed topic handler
  | append_singleton seen result ih =>
      rw [List.foldl_append]
      exact ih.step result

/-! ## Whole runs -/

/-- The calls are one subscription, the turns in their order and one close; the handler was called
for every message once, in their order, and the logs are what came of it; the count is that of the
commits. -/
structure Conducted (topic : String) (handler : Handler) (polls : List (Option Delivery))
    (final : State) : Prop where
  calls : final.calls =
    .subscribe [topic] :: allCalls handler polls polls.zipIdx ++ [.close]
  handlerCalls : final.handlerCalls = (messages polls).length
  logs : final.logs = allLogs topic handler polls polls.zipIdx
  handled : final.handled = final.calls.countP isCommit

theorem conducted_run (topic : String) (handler : Handler) (polls : List (Option Delivery)) :
    Conducted topic handler polls (run topic handler false polls) := by
  have hunderway := underway_foldl topic handler polls
  have hcalls := hunderway.calls []
  have hlogs := hunderway.logs []
  rw [List.append_nil] at hcalls hlogs
  refine ⟨?_, hunderway.handlerCalls, hlogs, ?_⟩
  · simp [run, hcalls]
  · simp [run, hunderway.handled, isCommit]

/-- Once the stop event is set, a consumer has polled in exactly the turns that began before.  It
has committed each message that its handler succeeded on, directly after the poll that brought it,
and nothing else. -/
theorem consumer_commits_what_it_handled
    (topic : String) (handler : Handler) (stopped : Bool) (turns : List Turn)
    (hset : stopped = true ∨ ∃ turn ∈ turns, turn.stops = true) :
    ∃ before rest, turns = before ++ rest ∧ SetAfter stopped before ∧
      ∃ final, consume topic handler stopped turns = some final ∧
        final = run topic handler stopped (before.map Turn.result) ∧
        Conducted topic handler (before.map Turn.result) final := by
  obtain ⟨before, rest, rfl, hbefore⟩ := exists_setAfter hset
  refine ⟨before, rest, rfl, hbefore, _, consume_eq_run hbefore rest, rfl, ?_⟩
  rw [run_of_setAfter hbefore]
  exact conducted_run topic handler (before.map Turn.result)

def interrupted : List Turn :=
  failingLast.map (fun result => ⟨result, false⟩) ++ [⟨none, true⟩, ⟨arrival "\x7b\x7d", false⟩]

theorem consumer_commits_what_it_handled_interrupted :
    (false = true ∨ ∃ turn ∈ interrupted, turn.stops = true) ∧
      ∃ before rest, interrupted = before ++ rest ∧ SetAfter false before ∧
        ∃ final, consume "example" decodingHandler false interrupted = some final ∧
          final = run "example" decodingHandler false (before.map Turn.result) ∧
          Conducted "example" decodingHandler (before.map Turn.result) final := by
  have hset : ∃ turn ∈ interrupted, turn.stops = true := ⟨⟨none, true⟩, by simp [interrupted], rfl⟩
  exact ⟨.inr hset, consumer_commits_what_it_handled _ _ _ _ (.inr hset)⟩

end Consumer
end Roster
