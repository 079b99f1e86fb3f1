import VelaFlow.Foundation.Counting
import VelaFlow.Foundation.Machine
import VelaFlow.Queue.Loops

/-!
# Queue conservation

Every enqueued message is in exactly one of five places at every moment, and is handed to a
handler at most once more than it may be retried. The invariant is a set of counts: of the
places a message is in, of the attempts it made against the retries it has behind it, and of
the tasks the queue believes unfinished. Each step moves one message between two counts.
-/
namespace VelaFlow.Queue

/-- How often a loop holds a message in flight: a message is processed once it is counted. -/
def Phase.holds (message : Nat) : Phase → Nat
  | .received held | .handling held | .raised held | .retrying held | .returned held _ =>
    if held = message then 1 else 0
  | .idle | .counted _ _ | .ended => 0

/-- Whether a loop is at an attempt on a message that is not settled in the ledger yet. -/
def Phase.attempts (message : Nat) : Phase → Nat
  | .handling held | .raised held | .returned held true => if held = message then 1 else 0
  | _ => 0

/-- Whether a loop still owes its queue a `task_done`. -/
def Phase.owes : Phase → Nat
  | .idle | .ended => 0
  | _ => 1

/-- Whether an exception left the loop. -/
def Phase.isEnded : Phase → Nat
  | .ended => 1
  | _ => 0

variable {W : Type} [Fintype W]

/-- How often a message is in flight in some worker. -/
def Pool.inFlight (pool : Pool W) (message : Nat) : Nat :=
  total pool.phase (Phase.holds message)

/-- How often a message is in the queue, in flight, processed, in the dead letter deque, or
evicted from it. -/
def Pool.occurrences (pool : Pool W) (message : Nat) : Nat :=
  pool.queue.queue.count message + pool.inFlight message +
    pool.ledger.processed.count message + pool.queue.deadLetter.items.count message +
    pool.ledger.evicted.count message

/-- The counts every step keeps. -/
structure Pool.Conserved (registered : MessageType → Bool) (pool : Pool W) : Prop where
  /-- Every created message is in exactly one place, and no other is anywhere. -/
  once : ∀ message, pool.occurrences message = if message < pool.created then 1 else 0
  /-- `processed_count` is the number of processed messages. -/
  processed : pool.queue.processedCount = pool.ledger.processed.length
  /-- A processed message was completed or had no handler. -/
  settled : ∀ message, pool.ledger.processed.count message =
    pool.ledger.completed.count message + pool.ledger.unhandled.count message
  /-- `_dead_letter_dropped` is the number of evicted messages. -/
  dropped : pool.queue.deadLetterDropped = pool.ledger.evicted.length
  /-- The dead letter deque records everything moved to it. -/
  records : pool.queue.deadLetter.Records pool.ledger.evicted pool.ledger.deadLettered
  /-- The queue knows of at least the tasks that are queued or still owed a `task_done`. -/
  owed : pool.queue.queue.length + total pool.phase Phase.owes ≤ pool.queue.unfinishedTasks
  /-- Each attempt led to a retry, is under way, or was the last. -/
  attempts : ∀ message, pool.ledger.handed.count message =
    (pool.object message).retryCount + total pool.phase (Phase.attempts message) +
      pool.ledger.completed.count message + pool.ledger.deadLettered.count message
  /-- No message was retried before it was created. -/
  fresh : ∀ message, pool.created ≤ message → (pool.object message).retryCount = 0
  /-- No message was retried more often than allowed. -/
  retries : ∀ message < pool.created,
    (pool.object message).retryCount ≤ (pool.object message).maxRetries
  /-- A dead lettered message used up its retries. -/
  exhausted : ∀ message ∈ pool.ledger.deadLettered,
    (pool.object message).maxRetries ≤ (pool.object message).retryCount
  /-- A message counted as unhandled had no handler. -/
  unhandled : ∀ message ∈ pool.ledger.unhandled,
    registered (pool.object message).messageType = false
  /-- A loop about to count a message outside its `try` block found no handler for it. -/
  unguarded : ∀ worker message, pool.phase worker = .returned message false →
    registered (pool.object message).messageType = false
  /-- No exception left a loop. -/
  running : total pool.phase Phase.isEnded = 0

namespace Pool

variable {registered : MessageType → Bool} {pool next : Pool W}

/-- A new pool has nothing to account for. -/
theorem initial_conserved : (Pool.initial W).Conserved registered where
  once message := by
    have idle : total (Pool.initial W).phase (Phase.holds message) = 0 :=
      total_eq_zero (fun _ => rfl)
    rw [occurrences, inFlight, idle]
    simp [Pool.initial]
  processed := rfl
  settled _ := rfl
  dropped := rfl
  records := BoundedDeque.records_empty
  owed := by
    have idle : total (Pool.initial W).phase Phase.owes = 0 := total_eq_zero (fun _ => rfl)
    rw [idle]
    rfl
  attempts message := by
    have idle : total (Pool.initial W).phase (Phase.attempts message) = 0 :=
      total_eq_zero (fun _ => rfl)
    rw [idle]
    rfl
  fresh _ _ := rfl
  retries message created := absurd created (Nat.not_lt_zero message)
  exhausted _ member := absurd member List.not_mem_nil
  unhandled _ member := absurd member List.not_mem_nil
  unguarded _ _ returned := by simp [Pool.initial] at returned
  running := total_eq_zero (fun _ => rfl)

/-- A message that is somewhere was created. -/
theorem Conserved.created_of_occurs (conserved : pool.Conserved registered) {message : Nat}
    (occurs : 0 < pool.occurrences message) : message < pool.created := by
  have once := conserved.once message
  by_contra absent
  rw [if_neg absent] at once
  omega

/-- A dead lettered message was created. -/
theorem Conserved.created_of_deadLettered (conserved : pool.Conserved registered)
    {message : Nat} (member : message ∈ pool.ledger.deadLettered) : message < pool.created := by
  apply conserved.created_of_occurs
  rw [← conserved.records.whole] at member
  have counted := List.count_pos_iff.mpr member
  rw [List.count_append] at counted
  unfold occurrences
  omega

/-- A message counted as unhandled was created. -/
theorem Conserved.created_of_unhandled (conserved : pool.Conserved registered)
    {message : Nat} (member : message ∈ pool.ledger.unhandled) : message < pool.created := by
  apply conserved.created_of_occurs
  have counted := List.count_pos_iff.mpr member
  have settled := conserved.settled message
  unfold occurrences
  omega

/-- A message some loop holds was created. -/
theorem Conserved.created_of_held (conserved : pool.Conserved registered) {message : Nat}
    {worker : W} (held : 0 < (pool.phase worker).holds message) : message < pool.created := by
  apply conserved.created_of_occurs
  have counted := single_le_total pool.phase worker (Phase.holds message)
  unfold occurrences inFlight
  omega

variable [DecidableEq W]

/-- A move of one loop changes a total by what that loop's number changes. -/
theorem total_move (pool : Pool W) (worker : W) (phase : Phase) (number : Phase → Nat) :
    total (pool.move worker phase).phase number + number (pool.phase worker) =
      total pool.phase number + number phase :=
  total_update pool.phase worker phase number

section Move

omit [Fintype W]

/-- A move leaves the queue alone. -/
@[simp] theorem move_queue (pool : Pool W) (worker : W) (phase : Phase) :
    (pool.move worker phase).queue = pool.queue := rfl

/-- A move creates no message. -/
@[simp] theorem move_created (pool : Pool W) (worker : W) (phase : Phase) :
    (pool.move worker phase).created = pool.created := rfl

/-- A move changes no message. -/
@[simp] theorem move_object (pool : Pool W) (worker : W) (phase : Phase) :
    (pool.move worker phase).object = pool.object := rfl

/-- A move enters nothing in the ledger. -/
@[simp] theorem move_ledger (pool : Pool W) (worker : W) (phase : Phase) :
    (pool.move worker phase).ledger = pool.ledger := rfl

/-- Every loop stands where it did, or is the one that moved. -/
theorem move_phase (pool : Pool W) (worker other : W) (phase : Phase) :
    (pool.move worker phase).phase other = if other = worker then phase else pool.phase other :=
  Function.update_apply _ _ _ _

end Move

/-- What is known of the loops outside their `try` block survives the move of a loop that found
no handler, or does not go there. -/
theorem Conserved.unguarded_move (conserved : pool.Conserved registered) {worker : W}
    {phase : Phase} (known : ∀ message, phase = .returned message false →
      registered (pool.object message).messageType = false) (other : W) (message : Nat)
    (returned : (pool.move worker phase).phase other = .returned message false) :
    registered (pool.object message).messageType = false := by
  rw [move_phase] at returned
  split at returned
  · exact known message returned
  · exact conserved.unguarded other message returned

/-- Enqueueing a new message keeps the counts. -/
theorem Conserved.enqueue (conserved : pool.Conserved registered) {message : QueueMessage}
    (moved : pool.step registered (.enqueue message) = some next) : next.Conserved registered := by
  simp only [Pool.step] at moved
  split at moved
  case isFalse => cases moved
  case isTrue fresh =>
  obtain rfl := Option.some.inj moved
  have unchanged : ∀ other < pool.created,
      Function.update pool.object pool.created message other = pool.object other :=
    fun other created => Function.update_of_ne (Nat.ne_of_lt created) _ _
  constructor
  case once =>
    intro other
    have once := conserved.once other
    simp only [occurrences, inFlight, TaskQueue.enqueue, List.count_append,
      List.count_singleton, beq_iff_eq] at once ⊢
    grind
  case processed => exact conserved.processed
  case settled => exact conserved.settled
  case dropped => exact conserved.dropped
  case records => exact conserved.records
  case owed =>
    have owed := conserved.owed
    simp only [TaskQueue.enqueue, List.length_append, List.length_singleton]
    omega
  case attempts =>
    intro other
    have attempts := conserved.attempts other
    by_cases same : other = pool.created
    · subst same
      simpa [fresh, conserved.fresh] using attempts
    · simpa only [Function.update_of_ne same] using attempts
  case fresh =>
    intro other absent
    have later : pool.created < other := absent
    simp only [Function.update_of_ne (Nat.ne_of_gt later)]
    exact conserved.fresh other (Nat.le_of_lt later)
  case retries =>
    intro other created
    by_cases same : other = pool.created
    · subst same
      simp [fresh]
    · simp only [Function.update_of_ne same]
      have before : other < pool.created := by
        simp only at created
        omega
      exact conserved.retries other before
  case exhausted =>
    intro other member
    simp only [unchanged other (conserved.created_of_deadLettered member)]
    exact conserved.exhausted other member
  case unhandled =>
    intro other member
    simp only [unchanged other (conserved.created_of_unhandled member)]
    exact conserved.unhandled other member
  case unguarded =>
    intro worker other returned
    have held : 0 < (pool.phase worker).holds other := by
      rw [show pool.phase worker = _ from returned]
      simp [Phase.holds]
    simp only [unchanged other (conserved.created_of_held held)]
    exact conserved.unguarded worker other returned
  case running => exact conserved.running

omit [Fintype W] [DecidableEq W] in
/-- What `dequeue` returns was the head of the queue. -/
theorem dequeue_eq_some {queue rest : TaskQueue} {message : Nat}
    (taken : queue.dequeue = (some message, rest)) :
    queue.queue = message :: rest.queue ∧ rest = { queue with queue := rest.queue } := by
  unfold TaskQueue.dequeue at taken
  split at taken
  case h_1 => simp at taken
  case h_2 head tail nonempty =>
    obtain ⟨same, rfl⟩ := Prod.mk.inj taken
    obtain rfl := Option.some.inj same
    exact ⟨nonempty, rfl⟩

/-- Dequeueing a message keeps the counts. -/
theorem Conserved.dequeue (conserved : pool.Conserved registered) {worker : W}
    (moved : pool.step registered (.dequeue worker) = some next) : next.Conserved registered := by
  simp only [Pool.step] at moved
  split at moved
  case h_2 => cases moved
  case h_1 message queue idle taken =>
  obtain rfl := Option.some.inj moved
  obtain ⟨head, same⟩ := dequeue_eq_some taken
  have moves := total_move pool worker (.received message)
  simp only [idle] at moves
  rw [same]
  constructor
  case once =>
    intro other
    apply Eq.trans _ (conserved.once other)
    have held := moves (Phase.holds other)
    simp only [occurrences, inFlight, head, List.count_cons, beq_iff_eq, Phase.holds,
      move_ledger] at held ⊢
    omega
  case processed => exact conserved.processed
  case settled => exact conserved.settled
  case dropped => exact conserved.dropped
  case records => exact conserved.records
  case owed =>
    have owed := conserved.owed
    have changed := moves Phase.owes
    simp only [head, List.length_cons, Phase.owes] at owed changed ⊢
    omega
  case attempts =>
    intro other
    have attempts := conserved.attempts other
    have changed := moves (Phase.attempts other)
    simp only [Phase.attempts, move_object, move_ledger] at changed ⊢
    omega
  case fresh => exact conserved.fresh
  case retries => exact conserved.retries
  case exhausted => exact conserved.exhausted
  case unhandled => exact conserved.unhandled
  case unguarded => exact conserved.unguarded_move (fun _ wrong => by cases wrong)
  case running =>
    have running := conserved.running
    have changed := moves Phase.isEnded
    simp only [Phase.isEnded] at changed ⊢
    omega

/-- A move that keeps the loop's hold on its message and its part in an attempt keeps the
counts. -/
theorem Conserved.move_within (conserved : pool.Conserved registered) {worker : W} {phase : Phase}
    (holds : ∀ message, phase.holds message = (pool.phase worker).holds message)
    (attempts : ∀ message, phase.attempts message = (pool.phase worker).attempts message)
    (owes : phase.owes = (pool.phase worker).owes)
    (runs : phase.isEnded = (pool.phase worker).isEnded)
    (known : ∀ message, phase = .returned message false →
      registered (pool.object message).messageType = false) :
    (pool.move worker phase).Conserved registered := by
  have moves := total_move pool worker phase
  constructor
  case once =>
    intro other
    apply Eq.trans _ (conserved.once other)
    have held := moves (Phase.holds other)
    simp only [occurrences, inFlight, holds, move_queue, move_ledger] at held ⊢
    omega
  case processed => exact conserved.processed
  case settled => exact conserved.settled
  case dropped => exact conserved.dropped
  case records => exact conserved.records
  case owed =>
    have owed := conserved.owed
    have changed := moves Phase.owes
    simp only [owes, move_queue] at changed ⊢
    omega
  case attempts =>
    intro other
    have before := conserved.attempts other
    have changed := moves (Phase.attempts other)
    simp only [attempts, move_object, move_ledger] at changed ⊢
    omega
  case fresh => exact conserved.fresh
  case retries => exact conserved.retries
  case exhausted => exact conserved.exhausted
  case unhandled => exact conserved.unhandled
  case unguarded => exact conserved.unguarded_move known
  case running =>
    have running := conserved.running
    have changed := moves Phase.isEnded
    rw [runs] at changed
    omega

/-- Looking up the handler of a message keeps the counts. -/
theorem Conserved.lookup (conserved : pool.Conserved registered) {worker : W}
    (moved : pool.step registered (.lookup worker) = some next) : next.Conserved registered := by
  simp only [Pool.step] at moved
  split at moved
  case h_2 => cases moved
  case h_1 message received =>
  split at moved
  case isFalse missing =>
    obtain rfl := Option.some.inj moved
    apply conserved.move_within
    case holds => simp [received, Phase.holds]
    case attempts => simp [received, Phase.attempts]
    case owes => rw [received]; rfl
    case runs => rw [received]; rfl
    case known =>
      intro other same
      obtain ⟨rfl, -⟩ := Phase.returned.inj same
      exact Bool.eq_false_iff.mpr missing
  case isTrue handled =>
    obtain rfl := Option.some.inj moved
    have moves := total_move pool worker (.handling message)
    simp only [received] at moves
    constructor
    case once =>
      intro other
      apply Eq.trans _ (conserved.once other)
      have held := moves (Phase.holds other)
      simp only [occurrences, inFlight, Phase.holds, move_queue] at held ⊢
      omega
    case processed => exact conserved.processed
    case settled => exact conserved.settled
    case dropped => exact conserved.dropped
    case records => exact conserved.records
    case owed =>
      have owed := conserved.owed
      have changed := moves Phase.owes
      simp only [Phase.owes, move_queue] at changed ⊢
      omega
    case attempts =>
      intro other
      have before := conserved.attempts other
      have changed := moves (Phase.attempts other)
      simp only [Phase.attempts, List.count_cons, beq_iff_eq, move_object] at changed ⊢
      omega
    case fresh => exact conserved.fresh
    case retries => exact conserved.retries
    case exhausted => exact conserved.exhausted
    case unhandled => exact conserved.unhandled
    case unguarded => exact conserved.unguarded_move (fun _ wrong => by cases wrong)
    case running =>
      have running := conserved.running
      have changed := moves Phase.isEnded
      simp only [Phase.isEnded] at changed ⊢
      omega

/-- The end of a handler call keeps the counts. -/
theorem Conserved.finish (conserved : pool.Conserved registered) {worker : W} {raises : Bool}
    (moved : pool.step registered (.finish worker raises) = some next) :
    next.Conserved registered := by
  simp only [Pool.step] at moved
  split at moved
  case h_2 => cases moved
  case h_1 message handling =>
  obtain rfl := Option.some.inj moved
  apply conserved.move_within
  case holds => cases raises <;> simp [handling, Phase.holds]
  case attempts => cases raises <;> simp [handling, Phase.attempts]
  case owes => cases raises <;> rw [handling] <;> rfl
  case runs => cases raises <;> rw [handling] <;> rfl
  case known => cases raises <;> simp

/-- Giving a message up keeps the counts. -/
theorem Conserved.giveUp (conserved : pool.Conserved registered) {worker : W} {message : Nat}
    (raised : pool.phase worker = .raised message)
    (exhausted : (pool.object message).exhausted = true) :
    Conserved registered { pool.move worker .idle with
      queue := pool.queue.moveToDeadLetter message
      ledger := { pool.ledger with
        deadLettered := pool.ledger.deadLettered ++ [message]
        evicted := pool.ledger.evicted ++ pool.queue.deadLetter.dropped message } } := by
  have moves := total_move pool worker .idle
  simp only [raised] at moves
  constructor
  case once =>
    intro other
    apply Eq.trans _ (conserved.once other)
    have held := moves (Phase.holds other)
    have shifted := congrArg (List.count other)
      (pool.queue.deadLetter.dropped_append message)
    simp only [occurrences, inFlight, TaskQueue.moveToDeadLetter_queue,
      TaskQueue.moveToDeadLetter_deadLetter, Phase.holds, List.count_append,
      List.count_singleton, beq_iff_eq] at held shifted ⊢
    omega
  case processed => simp only [TaskQueue.moveToDeadLetter_processedCount, conserved.processed]
  case settled => exact conserved.settled
  case dropped =>
    simp only [TaskQueue.moveToDeadLetter_deadLetterDropped, List.length_append,
      conserved.dropped]
  case records => exact conserved.records.append message
  case owed =>
    have owed := conserved.owed
    have changed := moves Phase.owes
    simp only [TaskQueue.moveToDeadLetter_queue, TaskQueue.moveToDeadLetter_unfinishedTasks,
      Phase.owes] at changed ⊢
    omega
  case attempts =>
    intro other
    have before := conserved.attempts other
    have changed := moves (Phase.attempts other)
    simp only [Phase.attempts, List.count_append, List.count_singleton, beq_iff_eq, move_object]
      at changed ⊢
    omega
  case fresh => exact conserved.fresh
  case retries => exact conserved.retries
  case exhausted =>
    intro other member
    rcases List.mem_append.mp member with before | last
    · exact conserved.exhausted other before
    · obtain rfl := List.mem_singleton.mp last
      exact of_decide_eq_true exhausted
  case unhandled => exact conserved.unhandled
  case unguarded =>
    intro other unhandled returned
    simp only [move_object] at returned ⊢
    exact conserved.unguarded_move (fun _ wrong => by cases wrong) other unhandled returned
  case running =>
    have running := conserved.running
    have changed := moves Phase.isEnded
    simp only [Phase.isEnded] at changed ⊢
    omega

/-- Counting one more retry of a message keeps the counts. -/
theorem Conserved.retry (conserved : pool.Conserved registered) {worker : W} {message : Nat}
    (raised : pool.phase worker = .raised message)
    (remaining : (pool.object message).exhausted = false) :
    Conserved registered { pool.move worker (.retrying message) with
      object := Function.update pool.object message (pool.object message).retried } := by
  have moves := total_move pool worker (.retrying message)
  simp only [raised] at moves
  have created : message < pool.created := by
    apply conserved.created_of_held
    rw [raised]
    simp [Phase.holds]
  have fewer : (pool.object message).retryCount < (pool.object message).maxRetries := by
    simpa [QueueMessage.exhausted] using remaining
  have sameType : ∀ other,
      (Function.update pool.object message (pool.object message).retried other).messageType =
        (pool.object other).messageType := by
    intro other
    rw [Function.update_apply]
    split
    case isTrue same => rw [same]; rfl
    case isFalse => rfl
  constructor
  case once =>
    intro other
    apply Eq.trans _ (conserved.once other)
    have held := moves (Phase.holds other)
    simp only [occurrences, inFlight, Phase.holds, move_queue, move_ledger] at held ⊢
    omega
  case processed => exact conserved.processed
  case settled => exact conserved.settled
  case dropped => exact conserved.dropped
  case records => exact conserved.records
  case owed =>
    have owed := conserved.owed
    have changed := moves Phase.owes
    simp only [Phase.owes, move_queue] at changed ⊢
    omega
  case attempts =>
    intro other
    have before := conserved.attempts other
    have changed := moves (Phase.attempts other)
    by_cases same : other = message
    · subst same
      simp only [Phase.attempts, if_true, Function.update_self, QueueMessage.retried, move_ledger]
        at changed ⊢
      omega
    · simp only [Phase.attempts, Ne.symm same, if_false, Function.update_of_ne same, move_ledger]
        at changed ⊢
      omega
  case fresh =>
    intro other absent
    have later : message < other := Nat.lt_of_lt_of_le created absent
    simp only [Function.update_of_ne (Nat.ne_of_gt later)]
    exact conserved.fresh other absent
  case retries =>
    intro other existing
    by_cases same : other = message
    · subst same
      simp only [Function.update_self, QueueMessage.retried]
      exact fewer
    · simp only [Function.update_of_ne same]
      exact conserved.retries other existing
  case exhausted =>
    intro other member
    have exhausted := conserved.exhausted other member
    by_cases same : other = message
    · subst same
      omega
    · simpa only [Function.update_of_ne same] using exhausted
  case unhandled =>
    intro other member
    simp only [sameType]
    exact conserved.unhandled other member
  case unguarded =>
    intro other unhandled returned
    simp only [sameType]
    exact conserved.unguarded_move (fun _ wrong => by cases wrong) other unhandled returned
  case running =>
    have running := conserved.running
    have changed := moves Phase.isEnded
    simp only [Phase.isEnded] at changed ⊢
    omega

/-- What `requeue` does before its `put` keeps the counts. -/
theorem Conserved.requeue (conserved : pool.Conserved registered) {worker : W}
    (moved : pool.step registered (.requeue worker) = some next) : next.Conserved registered := by
  simp only [Pool.step] at moved
  split at moved
  case h_2 => cases moved
  case h_1 message raised =>
  split at moved
  case isTrue exhausted =>
    obtain rfl := Option.some.inj moved
    exact conserved.giveUp raised exhausted
  case isFalse remaining =>
    obtain rfl := Option.some.inj moved
    exact conserved.retry raised (Bool.eq_false_iff.mpr remaining)

/-- Putting a message back keeps the counts. -/
theorem Conserved.put (conserved : pool.Conserved registered) {worker : W}
    (moved : pool.step registered (.put worker) = some next) : next.Conserved registered := by
  simp only [Pool.step] at moved
  split at moved
  case h_2 => cases moved
  case h_1 message retrying =>
  obtain rfl := Option.some.inj moved
  have moves := total_move pool worker .idle
  simp only [retrying] at moves
  constructor
  case once =>
    intro other
    apply Eq.trans _ (conserved.once other)
    have held := moves (Phase.holds other)
    simp only [occurrences, inFlight, TaskQueue.enqueue, Phase.holds, List.count_append,
      List.count_singleton, beq_iff_eq, move_ledger] at held ⊢
    omega
  case processed => exact conserved.processed
  case settled => exact conserved.settled
  case dropped => exact conserved.dropped
  case records => exact conserved.records
  case owed =>
    have owed := conserved.owed
    have changed := moves Phase.owes
    simp only [TaskQueue.enqueue, Phase.owes, List.length_append, List.length_singleton]
      at changed ⊢
    omega
  case attempts =>
    intro other
    have before := conserved.attempts other
    have changed := moves (Phase.attempts other)
    simp only [Phase.attempts, move_object, move_ledger] at changed ⊢
    omega
  case fresh => exact conserved.fresh
  case retries => exact conserved.retries
  case exhausted => exact conserved.exhausted
  case unhandled => exact conserved.unhandled
  case unguarded => exact conserved.unguarded_move (fun _ wrong => by cases wrong)
  case running =>
    have running := conserved.running
    have changed := moves Phase.isEnded
    simp only [Phase.isEnded] at changed ⊢
    omega

/-- Counting a message as processed keeps the counts. -/
theorem Conserved.count (conserved : pool.Conserved registered) {worker : W}
    (moved : pool.step registered (.count worker) = some next) : next.Conserved registered := by
  simp only [Pool.step] at moved
  split at moved
  case h_2 => cases moved
  case h_1 message guarded returned =>
  obtain rfl := Option.some.inj moved
  have moves := total_move pool worker (.counted message guarded)
  simp only [returned] at moves
  constructor
  case once =>
    intro other
    apply Eq.trans _ (conserved.once other)
    have held := moves (Phase.holds other)
    simp only [occurrences, inFlight, TaskQueue.countProcessed, Phase.holds, List.count_cons,
      beq_iff_eq] at held ⊢
    omega
  case processed =>
    have processed := conserved.processed
    simp only [TaskQueue.countProcessed, List.length_cons]
    omega
  case settled =>
    intro other
    have settled := conserved.settled other
    cases guarded <;>
      simp only [List.count_cons, beq_iff_eq, if_true, Bool.false_eq_true, if_false] <;> omega
  case dropped => exact conserved.dropped
  case records => exact conserved.records
  case owed =>
    have owed := conserved.owed
    have changed := moves Phase.owes
    simp only [TaskQueue.countProcessed, Phase.owes] at changed ⊢
    omega
  case attempts =>
    intro other
    have before := conserved.attempts other
    have changed := moves (Phase.attempts other)
    cases guarded <;>
      simp only [Phase.attempts, List.count_cons, beq_iff_eq, if_true, Bool.false_eq_true,
        if_false, move_object] at changed ⊢ <;> omega
  case fresh => exact conserved.fresh
  case retries => exact conserved.retries
  case exhausted => exact conserved.exhausted
  case unhandled =>
    intro other member
    cases guarded with
    | true => exact conserved.unhandled other (by simpa using member)
    | false =>
      have member : other ∈ message :: pool.ledger.unhandled := by simpa using member
      rcases List.mem_cons.mp member with rfl | before
      · exact conserved.unguarded worker other returned
      · exact conserved.unhandled other before
  case unguarded => exact conserved.unguarded_move (fun _ wrong => by cases wrong)
  case running =>
    have running := conserved.running
    have changed := moves Phase.isEnded
    simp only [Phase.isEnded] at changed ⊢
    omega

omit [DecidableEq W] in
/-- A loop that still owes a `task_done` finds an unfinished task. -/
theorem Conserved.unfinished (conserved : pool.Conserved registered) {worker : W}
    {message : Nat} {guarded : Bool} (counted : pool.phase worker = .counted message guarded) :
    0 < pool.queue.unfinishedTasks := by
  have owed := conserved.owed
  have owes := single_le_total pool.phase worker Phase.owes
  rw [counted] at owes
  simp only [Phase.owes] at owes
  omega

omit [DecidableEq W] in
/-- `task_done` never raises. -/
theorem Conserved.taskDone_eq (conserved : pool.Conserved registered) {worker : W}
    {message : Nat} {guarded : Bool} (counted : pool.phase worker = .counted message guarded) :
    pool.queue.taskDone =
      some { pool.queue with unfinishedTasks := pool.queue.unfinishedTasks - 1 } :=
  if_neg (Nat.ne_of_gt (conserved.unfinished counted))

/-- `task_done` keeps the counts. -/
theorem Conserved.taskDone (conserved : pool.Conserved registered) {worker : W}
    (moved : pool.step registered (.taskDone worker) = some next) : next.Conserved registered := by
  simp only [Pool.step] at moved
  split at moved
  case h_2 => cases moved
  case h_1 message guarded counted =>
  rw [conserved.taskDone_eq counted] at moved
  obtain rfl := Option.some.inj moved
  have moves := total_move pool worker .idle
  simp only [counted] at moves
  constructor
  case once =>
    intro other
    apply Eq.trans _ (conserved.once other)
    have held := moves (Phase.holds other)
    simp only [occurrences, inFlight, Phase.holds, move_ledger] at held ⊢
    omega
  case processed => exact conserved.processed
  case settled => exact conserved.settled
  case dropped => exact conserved.dropped
  case records => exact conserved.records
  case owed =>
    have owed := conserved.owed
    have changed := moves Phase.owes
    simp only [Phase.owes] at changed ⊢
    omega
  case attempts =>
    intro other
    have before := conserved.attempts other
    have changed := moves (Phase.attempts other)
    simp only [Phase.attempts, move_object, move_ledger] at changed ⊢
    omega
  case fresh => exact conserved.fresh
  case retries => exact conserved.retries
  case exhausted => exact conserved.exhausted
  case unhandled => exact conserved.unhandled
  case unguarded => exact conserved.unguarded_move (fun _ wrong => by cases wrong)
  case running =>
    have running := conserved.running
    have changed := moves Phase.isEnded
    simp only [Phase.isEnded] at changed ⊢
    omega

/-- Every step keeps the counts. -/
theorem Conserved.step (conserved : pool.Conserved registered) {event : Event W}
    (moved : pool.step registered event = some next) : next.Conserved registered := by
  cases event with
  | enqueue message => exact conserved.enqueue moved
  | dequeue worker => exact conserved.dequeue moved
  | lookup worker => exact conserved.lookup moved
  | finish worker raises => exact conserved.finish moved
  | requeue worker => exact conserved.requeue moved
  | put worker => exact conserved.put moved
  | count worker => exact conserved.count moved
  | taskDone worker => exact conserved.taskDone moved

/-- Every run from a new pool keeps the counts. -/
theorem conserved_of_run {events : List (Event W)}
    (ran : Machine.run (Pool.step registered) (Pool.initial W) events = some pool) :
    pool.Conserved registered :=
  Machine.run_invariant (fun pool => pool.Conserved registered)
    (fun _ _ _ conserved moved => conserved.step moved) initial_conserved ran

end Pool

end VelaFlow.Queue
