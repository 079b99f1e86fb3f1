import Mathlib.Algebra.GroupWithZero.Nat
import VelaFlow.Queue.Conservation

/-!
# Draining the queue

Once producers stop, the worker loops cannot go on forever: each of their steps uses up part of
a budget that the waiting and held messages bring with them, and a retry pays for itself with
one of the retries left. A pool whose loops are all stuck has settled every message.
-/
namespace VelaFlow.Queue

/-- Whether an event is a worker's, not a producer's. -/
def Event.isWork {W : Type} : Event W → Prop
  | .enqueue _ => False
  | _ => True

/-- How many more times the message may be put back. -/
def QueueMessage.remaining (message : QueueMessage) : Nat :=
  message.maxRetries - message.retryCount

/-- The steps a loop may still take on what it holds, and on its retries. -/
def Phase.budget (object : Nat → QueueMessage) : Phase → Nat
  | .idle | .ended => 0
  | .received message => 7 * (object message).remaining + 6
  | .handling message => 7 * (object message).remaining + 5
  | .raised message => 7 * (object message).remaining + 4
  | .retrying message => 7 * (object message).remaining + 8
  | .returned _ _ => 3
  | .counted _ _ => 2

/-- The steps the waiting messages may still take. -/
def waitingBudget (object : Nat → QueueMessage) (queue : List Nat) : Nat :=
  (queue.map fun message => 7 * (object message).remaining + 7).sum

/-- Fewer retries left make no budget larger. -/
theorem Phase.budget_mono {before after : Nat → QueueMessage}
    (fewer : ∀ message, (after message).remaining ≤ (before message).remaining) (phase : Phase) :
    phase.budget after ≤ phase.budget before := by
  cases phase with
  | received message => have := fewer message; simp only [budget]; omega
  | handling message => have := fewer message; simp only [budget]; omega
  | raised message => have := fewer message; simp only [budget]; omega
  | retrying message => have := fewer message; simp only [budget]; omega
  | idle => exact Nat.le_refl _
  | ended => exact Nat.le_refl _
  | returned message guarded => exact Nat.le_refl _
  | counted message guarded => exact Nat.le_refl _

/-- Fewer retries left make no waiting budget larger. -/
theorem waitingBudget_mono {before after : Nat → QueueMessage}
    (fewer : ∀ message, (after message).remaining ≤ (before message).remaining)
    (queue : List Nat) : waitingBudget after queue ≤ waitingBudget before queue := by
  induction queue with
  | nil => exact Nat.le_refl _
  | cons message rest ih =>
    have head := fewer message
    simp only [waitingBudget, List.map_cons, List.sum_cons] at ih ⊢
    omega

variable {W : Type} [Fintype W]

/-- The steps the worker loops may still take without a producer. -/
def Pool.budget (pool : Pool W) : Nat :=
  waitingBudget pool.object pool.queue.queue + total pool.phase (Phase.budget pool.object)

namespace Pool

variable [DecidableEq W] {registered : MessageType → Bool} {pool next : Pool W}

/-- Counting one more retry leaves fewer of them, and changes no other message. -/
theorem remaining_retried {object : Nat → QueueMessage} {message : Nat}
    (remaining : (object message).exhausted = false) :
    (object message).retried.remaining + 1 = (object message).remaining := by
  have fewer : (object message).retryCount < (object message).maxRetries := by
    simpa [QueueMessage.exhausted] using remaining
  simp only [QueueMessage.remaining, QueueMessage.retried]
  omega

/-- A worker's step uses up part of the budget. -/
theorem budget_step (conserved : pool.Conserved registered) {event : Event W}
    (work : event.isWork) (moved : pool.step registered event = some next) :
    next.budget < pool.budget := by
  cases event with
  | enqueue message => exact absurd work id
  | dequeue worker =>
    simp only [Pool.step] at moved
    split at moved
    case h_2 => cases moved
    case h_1 message queue idle taken =>
    obtain rfl := Option.some.inj moved
    obtain ⟨head, -⟩ := dequeue_eq_some taken
    have changed := total_move pool worker (.received message) (Phase.budget pool.object)
    simp only [budget, waitingBudget, head, List.map_cons, List.sum_cons, idle, Phase.budget,
      move_object] at changed ⊢
    omega
  | lookup worker =>
    simp only [Pool.step] at moved
    split at moved
    case h_2 => cases moved
    case h_1 message received =>
    split at moved
    case isTrue =>
      obtain rfl := Option.some.inj moved
      have changed := total_move pool worker (.handling message) (Phase.budget pool.object)
      simp only [budget, received, Phase.budget, move_object, move_queue] at changed ⊢
      omega
    case isFalse =>
      obtain rfl := Option.some.inj moved
      have changed := total_move pool worker (.returned message false) (Phase.budget pool.object)
      simp only [budget, received, Phase.budget, move_object, move_queue] at changed ⊢
      omega
  | finish worker raises =>
    simp only [Pool.step] at moved
    split at moved
    case h_2 => cases moved
    case h_1 message handling =>
    obtain rfl := Option.some.inj moved
    have changed := total_move pool worker
      (if raises then .raised message else .returned message true) (Phase.budget pool.object)
    cases raises <;>
      simp only [budget, handling, Phase.budget, move_object, move_queue, if_true,
        Bool.false_eq_true, if_false] at changed ⊢ <;> omega
  | requeue worker =>
    simp only [Pool.step] at moved
    split at moved
    case h_2 => cases moved
    case h_1 message raised =>
    split at moved
    case isTrue =>
      obtain rfl := Option.some.inj moved
      have changed := total_move pool worker .idle (Phase.budget pool.object)
      simp only [budget, raised, Phase.budget, move_object, TaskQueue.moveToDeadLetter_queue]
        at changed ⊢
      omega
    case isFalse remaining =>
      obtain rfl := Option.some.inj moved
      have retried := remaining_retried (Bool.eq_false_iff.mpr remaining)
      have fewer : ∀ other, (Function.update pool.object message
          (pool.object message).retried other).remaining ≤ (pool.object other).remaining := by
        intro other
        rw [Function.update_apply]
        split
        case isTrue same => rw [same]; omega
        case isFalse => exact Nat.le_refl _
      have waiting := waitingBudget_mono fewer pool.queue.queue
      have held := total_shrinks pool.phase worker (Phase.budget_mono fewer)
      have changed := total_move pool worker (.retrying message) (Phase.budget
        (Function.update pool.object message (pool.object message).retried))
      simp only [budget, raised, Phase.budget, Function.update_self, move_queue] at held changed ⊢
      omega
  | put worker =>
    simp only [Pool.step] at moved
    split at moved
    case h_2 => cases moved
    case h_1 message retrying =>
    obtain rfl := Option.some.inj moved
    have changed := total_move pool worker .idle (Phase.budget pool.object)
    simp only [budget, waitingBudget, TaskQueue.enqueue, List.map_append, List.sum_append,
      List.map_cons, List.map_nil, List.sum_cons, List.sum_nil, retrying, Phase.budget,
      move_object] at changed ⊢
    omega
  | count worker =>
    simp only [Pool.step] at moved
    split at moved
    case h_2 => cases moved
    case h_1 message guarded returned =>
    obtain rfl := Option.some.inj moved
    have changed := total_move pool worker (.counted message guarded) (Phase.budget pool.object)
    simp only [budget, TaskQueue.countProcessed, returned, Phase.budget, move_object]
      at changed ⊢
    omega
  | taskDone worker =>
    simp only [Pool.step] at moved
    split at moved
    case h_2 => cases moved
    case h_1 message guarded counted =>
    rw [conserved.taskDone_eq counted] at moved
    obtain rfl := Option.some.inj moved
    have changed := total_move pool worker .idle (Phase.budget pool.object)
    simp only [budget, counted, Phase.budget, move_object] at changed ⊢
    omega

/-- A run of worker steps alone is no longer than its budget. -/
theorem length_le_budget (conserved : pool.Conserved registered) {events : List (Event W)}
    (work : ∀ event ∈ events, event.isWork)
    (ran : Machine.run (Pool.step registered) pool events = some next) :
    events.length ≤ pool.budget := by
  induction events generalizing pool with
  | nil => exact Nat.zero_le _
  | cons event rest ih =>
    rw [Machine.run_cons, Option.bind_eq_some_iff] at ran
    obtain ⟨middle, moved, ran⟩ := ran
    have spent := budget_step conserved (work event List.mem_cons_self) moved
    have rest := ih (conserved.step moved)
      (fun other member => work other (List.mem_cons_of_mem event member)) ran
    rw [List.length_cons]
    omega

omit [Fintype W] in
/-- A loop that cannot move is waiting for a message, or has ended. -/
theorem idle_of_stuck (stuck : ∀ event : Event W, event.isWork → pool.step registered event = none)
    (worker : W) : pool.phase worker = .idle ∨ pool.phase worker = .ended := by
  cases phase : pool.phase worker with
  | idle => exact Or.inl rfl
  | ended => exact Or.inr rfl
  | received message =>
    have refused := stuck (.lookup worker) trivial
    simp only [Pool.step, phase] at refused
    split at refused <;> cases refused
  | handling message =>
    have refused := stuck (.finish worker true) trivial
    simp [Pool.step, phase] at refused
  | raised message =>
    have refused := stuck (.requeue worker) trivial
    simp only [Pool.step, phase] at refused
    split at refused <;> cases refused
  | retrying message =>
    have refused := stuck (.put worker) trivial
    simp [Pool.step, phase] at refused
  | returned message guarded =>
    have refused := stuck (.count worker) trivial
    simp [Pool.step, phase] at refused
  | counted message guarded =>
    have refused := stuck (.taskDone worker) trivial
    simp only [Pool.step, phase] at refused
    split at refused <;> cases refused

/-- When no loop can move, nothing is in flight. -/
theorem inFlight_of_stuck
    (stuck : ∀ event : Event W, event.isWork → pool.step registered event = none)
    (message : Nat) : pool.inFlight message = 0 := by
  apply total_eq_zero
  intro worker
  rcases idle_of_stuck stuck worker with idle | ended
  · rw [idle]; rfl
  · rw [ended]; rfl

/-- When no loop can move and there is one, nothing waits in the queue. -/
theorem queue_of_stuck (worker : W) (conserved : pool.Conserved registered)
    (stuck : ∀ event : Event W, event.isWork → pool.step registered event = none) :
    pool.queue.queue = [] := by
  have idle : pool.phase worker = .idle := by
    rcases idle_of_stuck stuck worker with idle | ended
    · exact idle
    · have counted := single_le_total pool.phase worker Phase.isEnded
      rw [conserved.running, ended] at counted
      exact absurd counted (by decide)
  have refused := stuck (.dequeue worker) trivial
  cases waiting : pool.queue.queue with
  | nil => rfl
  | cons message rest => simp [Pool.step, idle, TaskQueue.dequeue, waiting] at refused

omit [DecidableEq W] in
/-- A message is handed out at most once more than it may be put back. -/
theorem Conserved.handed_le (conserved : pool.Conserved registered) (message : Nat) :
    pool.ledger.handed.count message ≤ (pool.object message).maxRetries + 1 := by
  have attempts := conserved.attempts message
  have settled := conserved.settled message
  have once := conserved.once message
  have history := congrArg (List.count message) conserved.records.whole
  have underWay : total pool.phase (Phase.attempts message) ≤
      total pool.phase (Phase.holds message) := by
    apply total_mono
    intro phase
    cases phase with
    | returned held guarded => cases guarded <;> simp [Phase.attempts, Phase.holds]
    | _ => simp [Phase.attempts, Phase.holds]
  rw [List.count_append] at history
  unfold occurrences inFlight at once
  by_cases created : message < pool.created
  · have retries := conserved.retries message created
    rw [if_pos created] at once
    omega
  · have fresh := conserved.fresh message (Nat.le_of_not_lt created)
    rw [if_neg created] at once
    omega

omit [DecidableEq W] in
/-- A message that is nowhere under way and whose handler never returned was handed out as often
as it may be. -/
theorem Conserved.handed_eq (conserved : pool.Conserved registered) {message : Nat}
    (created : message < pool.created)
    (handled : registered (pool.object message).messageType = true)
    (failed : message ∉ pool.ledger.completed) (waiting : message ∉ pool.queue.queue)
    (held : pool.inFlight message = 0) :
    pool.ledger.handed.count message = (pool.object message).maxRetries + 1 := by
  have atMost := conserved.handed_le message
  have attempts := conserved.attempts message
  have settled := conserved.settled message
  have once := conserved.once message
  have history := congrArg (List.count message) conserved.records.whole
  have notUnhandled : message ∉ pool.ledger.unhandled := by
    intro member
    rw [conserved.unhandled message member] at handled
    cases handled
  rw [List.count_eq_zero_of_not_mem failed, List.count_eq_zero_of_not_mem notUnhandled] at settled
  rw [if_pos created, occurrences, List.count_eq_zero_of_not_mem waiting, held, settled] at once
  rw [List.count_append] at history
  have dead : message ∈ pool.ledger.deadLettered := List.count_pos_iff.mp (by omega)
  have exhausted := conserved.exhausted message dead
  omega

/-- Queue conservation. Whatever producers and worker loops do, every enqueued message is in one
of five places; the counters count two of them; the dead letter deque is bounded and holds what
was dead lettered last; a message is handed out at most `max_retries + 1` times, and exactly that
often once it is settled without its handler ever returning. Worker steps alone soon settle
every message. -/
theorem queue_conservation (registered : MessageType → Bool)
    (events : List (Event W)) (pool : Pool W)
    (ran : Machine.run (Pool.step registered) (Pool.initial W) events = some pool) :
    (∀ message < pool.created,
      pool.queue.queue.count message + pool.inFlight message +
        pool.ledger.processed.count message + pool.queue.deadLetter.items.count message +
        pool.ledger.evicted.count message = 1) ∧
    pool.queue.processedCount = pool.ledger.processed.length ∧
    pool.queue.deadLetterDropped = pool.ledger.evicted.length ∧
    pool.queue.deadLetter.items.length ≤ deadLetterMaxSize ∧
    pool.queue.deadLetter.items =
      pool.ledger.deadLettered.drop (pool.ledger.deadLettered.length - deadLetterMaxSize) ∧
    (∀ message, pool.ledger.handed.count message ≤ (pool.object message).maxRetries + 1) ∧
    (∀ message < pool.created, registered (pool.object message).messageType = true →
      message ∉ pool.ledger.completed → message ∉ pool.queue.queue →
      pool.inFlight message = 0 →
      pool.ledger.handed.count message = (pool.object message).maxRetries + 1) ∧
    ∀ work : List (Event W), (∀ event ∈ work, event.isWork) → ∀ final : Pool W,
      Machine.run (Pool.step registered) pool work = some final →
      work.length ≤ pool.budget ∧
        ((∀ event : Event W, event.isWork → final.step registered event = none) →
          (∀ message, final.inFlight message = 0) ∧
            (Nonempty W → final.queue.queue = [])) := by
  have conserved := conserved_of_run ran
  refine ⟨?once, conserved.processed, conserved.dropped, pool.queue.deadLetter.within,
    conserved.records.items_eq, conserved.handed_le, ?exactly, ?drains⟩
  case once =>
    intro message created
    have once := conserved.once message
    rwa [if_pos created] at once
  case exactly =>
    intro message created handled failed waiting held
    exact conserved.handed_eq created handled failed waiting held
  case drains =>
    intro work onlyWork final ranOn
    have whole : Machine.run (Pool.step registered) (Pool.initial W) (events ++ work) =
        some final := by
      rw [Machine.run_append, ran]
      exact ranOn
    refine ⟨length_le_budget conserved onlyWork ranOn, fun stuck => ⟨?_, ?_⟩⟩
    · exact inFlight_of_stuck stuck
    · rintro ⟨worker⟩
      exact queue_of_stuck worker (conserved_of_run whole) stuck

/-- One loop handing out a message that fails both times it may. -/
def failingRun : List (Event Unit) :=
  [.enqueue
      { messageId := "m", messageType := .pipelineRun, tenantId := "t", maxRetries := 1 },
    .dequeue (), .lookup (), .finish () true, .requeue (), .put (),
    .dequeue (), .lookup (), .finish () true, .requeue ()]

/-- The message of the failing run was handed out exactly twice. -/
theorem queue_conservation_failingRun :
    ∃ pool, Machine.run (Pool.step fun _ => true) (Pool.initial Unit) failingRun = some pool ∧
      pool.ledger.handed.count 0 = 2 := by
  obtain ⟨pool, ran⟩ : ∃ pool,
      Machine.run (Pool.step fun _ => true) (Pool.initial Unit) failingRun = some pool :=
    ⟨_, rfl⟩
  obtain ⟨-, -, -, -, -, -, exactly, -⟩ := queue_conservation (fun _ => true) failingRun pool ran
  refine ⟨pool, ran, ?_⟩
  cases ran
  exact exactly 0 (by decide) rfl (by decide) (by decide) rfl

end Pool

end VelaFlow.Queue
