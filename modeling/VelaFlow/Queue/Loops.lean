import Mathlib.Logic.Function.Basic
import VelaFlow.Queue.Tasks

/-!
# Producers and worker loops over one task queue

Any number of producers and of `QueueWorker._run_loop` threads share one queue. A loop is cut at
every point where another thread may run: between the sections of `queue/tasks.py`, before and
after a handler call, and between the increment of a retry counter and the `put` that follows.
The pool also keeps a ledger of what happened to the messages; no step reads it.
-/
namespace VelaFlow.Queue

/-- Where one `_run_loop` stands. -/
inductive Phase where
  /-- At the top of the loop. -/
  | idle
  /-- Holding a message whose handler is not looked up yet. -/
  | received (message : Nat)
  /-- Inside `handler(msg)`. -/
  | handling (message : Nat)
  /-- In the `except` branch, before `requeue`. -/
  | raised (message : Nat)
  /-- In `requeue`, between the increment of the retry counter and the `put`. -/
  | retrying (message : Nat)
  /-- Before `mark_done`, inside the `try` block or not. -/
  | returned (message : Nat) (guarded : Bool)
  /-- In `mark_done`, between counting the message and `task_done`. -/
  | counted (message : Nat) (guarded : Bool)
  /-- An exception left the loop. -/
  | ended
  deriving DecidableEq, Repr

/-- What happened to the messages so far. -/
structure Ledger where
  /-- Every call of a handler, by its message. -/
  handed : List Nat := []
  /-- The messages counted as processed. -/
  processed : List Nat := []
  /-- The processed messages whose handler returned. -/
  completed : List Nat := []
  /-- The processed messages that had no handler. -/
  unhandled : List Nat := []
  /-- Every message moved to the dead letter deque, in order. -/
  deadLettered : List Nat := []
  /-- The messages the dead letter deque dropped, in order. -/
  evicted : List Nat := []

/-- A queue, the message objects created for it, the loops that share it, and the ledger. -/
structure Pool (W : Type) where
  /-- The shared queue. -/
  queue : TaskQueue
  /-- How many message objects producers have created. -/
  created : Nat
  /-- The message objects, by reference. -/
  object : Nat → QueueMessage
  /-- Where each worker loop stands. -/
  phase : W → Phase
  /-- What happened so far. -/
  ledger : Ledger

/-- A step of a producer or of one worker loop. -/
inductive Event (W : Type) where
  /-- A producer creates a message and enqueues it. -/
  | enqueue (message : QueueMessage)
  /-- `dequeue` returns a message to the worker. -/
  | dequeue (worker : W)
  /-- The worker looks up the handler, and calls it when there is one. -/
  | lookup (worker : W)
  /-- The handler returns or raises. -/
  | finish (worker : W) (raises : Bool)
  /-- `requeue` gives the message up or counts one more retry. -/
  | requeue (worker : W)
  /-- The `put` at the end of `requeue`. -/
  | put (worker : W)
  /-- The locked section of `mark_done`. -/
  | count (worker : W)
  /-- The `task_done` at the end of `mark_done`. -/
  | taskDone (worker : W)

/-- A new queue with every loop at its top. -/
def Pool.initial (W : Type) : Pool W := ⟨{}, 0, fun _ => default, fun _ => .idle, {}⟩

variable {W : Type} [DecidableEq W]

/-- The pool after one loop moves on, everything else unchanged. -/
def Pool.move (pool : Pool W) (worker : W) (phase : Phase) : Pool W :=
  { pool with phase := Function.update pool.phase worker phase }

/-- One step. A producer's messages start with no retries; a worker's step exists only where its
loop stands at that step. `registered` says which message types have a handler. -/
def Pool.step (registered : MessageType → Bool) (pool : Pool W) : Event W → Option (Pool W)
  | .enqueue message =>
    if message.retryCount = 0 then
      some { pool with
        queue := pool.queue.enqueue pool.created
        created := pool.created + 1
        object := Function.update pool.object pool.created message }
    else none
  | .dequeue worker =>
    match pool.phase worker, pool.queue.dequeue with
    | .idle, (some message, queue) =>
      some { pool.move worker (.received message) with queue := queue }
    | _, _ => none
  | .lookup worker =>
    match pool.phase worker with
    | .received message =>
      if registered (pool.object message).messageType then
        some { pool.move worker (.handling message) with
          ledger := { pool.ledger with handed := message :: pool.ledger.handed } }
      else some (pool.move worker (.returned message false))
    | _ => none
  | .finish worker raises =>
    match pool.phase worker with
    | .handling message =>
      some (pool.move worker (if raises then .raised message else .returned message true))
    | _ => none
  | .requeue worker =>
    match pool.phase worker with
    | .raised message =>
      if (pool.object message).exhausted then
        some { pool.move worker .idle with
          queue := pool.queue.moveToDeadLetter message
          ledger := { pool.ledger with
            deadLettered := pool.ledger.deadLettered ++ [message]
            evicted := pool.ledger.evicted ++ pool.queue.deadLetter.dropped message } }
      else
        some { pool.move worker (.retrying message) with
          object := Function.update pool.object message (pool.object message).retried }
    | _ => none
  | .put worker =>
    match pool.phase worker with
    | .retrying message =>
      some { pool.move worker .idle with queue := pool.queue.enqueue message }
    | _ => none
  | .count worker =>
    match pool.phase worker with
    | .returned message guarded =>
      some { pool.move worker (.counted message guarded) with
        queue := pool.queue.countProcessed
        ledger := { pool.ledger with
          processed := message :: pool.ledger.processed
          completed := if guarded then message :: pool.ledger.completed else pool.ledger.completed
          unhandled :=
            if guarded then pool.ledger.unhandled else message :: pool.ledger.unhandled } }
    | _ => none
  | .taskDone worker =>
    match pool.phase worker with
    | .counted message guarded =>
      match pool.queue.taskDone with
      | some queue => some { pool.move worker .idle with queue := queue }
      | none => some (pool.move worker (if guarded then .raised message else .ended))
    | _ => none

end VelaFlow.Queue
