import VelaFlow.Foundation.Json
import VelaFlow.Foundation.BoundedDeque

/-!
# The task queue of `queue/tasks.py`

Messages are Python objects: a queue holds references to them, and a retry changes the retry
counter of the one object. A reference is a number, given out in the order of creation. Each
method is written from the sections that run without another thread between them: a `put` or
`get` of `queue.Queue`, a body of `with self._lock`, and a `task_done`.
-/
namespace VelaFlow.Queue

/-- `MessageType`. -/
inductive MessageType where
  /-- `"pipeline_run"`. -/
  | pipelineRun
  /-- `"digest_generate"`. -/
  | digestGenerate
  /-- `"llm_generate"`. -/
  | llmGenerate
  /-- `"notion_sync"`. -/
  | notionSync
  /-- `"board_analysis"`. -/
  | boardAnalysis
  /-- `"scoring_config"`. -/
  | scoringConfig
  /-- `"tenant_operation"`. -/
  | tenantOperation
  /-- `"notebooklm_extract"`. -/
  | notebooklmExtract
  /-- `"rag_query"`. -/
  | ragQuery
  deriving DecidableEq, Repr, Inhabited

/-- `QueueMessage`: the fields its consumers read. -/
structure QueueMessage where
  /-- `message_id`. -/
  messageId : String
  /-- `message_type`. -/
  messageType : MessageType
  /-- `tenant_id`. -/
  tenantId : String
  /-- `payload`. -/
  payload : Dict := []
  /-- `retry_count`, how often the message was put back. -/
  retryCount : Nat := 0
  /-- `max_retries`, how often it may be put back. -/
  maxRetries : Nat := 3
  deriving Repr, Inhabited

/-- `TaskQueue.DEAD_LETTER_MAX_SIZE`. -/
def deadLetterMaxSize : Nat := 10000

/-- The fields of a `TaskQueue`, and the count of unfinished tasks its `queue.Queue` keeps. -/
structure TaskQueue where
  /-- `_queue`, first in first out. -/
  queue : List Nat := []
  /-- `_queue.unfinished_tasks`. -/
  unfinishedTasks : Nat := 0
  /-- `_dead_letter`. -/
  deadLetter : BoundedDeque Nat deadLetterMaxSize := .empty
  /-- `_dead_letter_dropped`. -/
  deadLetterDropped : Nat := 0
  /-- `_processed_count`. -/
  processedCount : Nat := 0

namespace TaskQueue

/-- `enqueue`: `queue.Queue.put` of an unbounded queue. -/
def enqueue (queue : TaskQueue) (message : Nat) : TaskQueue :=
  { queue with
    queue := queue.queue ++ [message]
    unfinishedTasks := queue.unfinishedTasks + 1 }

/-- `dequeue`: the next message, or `None` when the wait for one times out. -/
def dequeue (queue : TaskQueue) : Option Nat × TaskQueue :=
  match queue.queue with
  | [] => (none, queue)
  | message :: rest => (some message, { queue with queue := rest })

/-- The locked section of `requeue` that gives a message up. -/
def moveToDeadLetter (queue : TaskQueue) (message : Nat) : TaskQueue :=
  { queue with
    deadLetterDropped :=
      if deadLetterMaxSize ≤ queue.deadLetter.items.length then queue.deadLetterDropped + 1
      else queue.deadLetterDropped
    deadLetter := queue.deadLetter.append message }

/-- The locked section of `mark_done`. -/
def countProcessed (queue : TaskQueue) : TaskQueue :=
  { queue with processedCount := queue.processedCount + 1 }

/-- `queue.Queue.task_done`, which raises `ValueError` when called too many times. -/
def taskDone (queue : TaskQueue) : Option TaskQueue :=
  if queue.unfinishedTasks = 0 then none
  else some { queue with unfinishedTasks := queue.unfinishedTasks - 1 }

/-- Giving a message up leaves the waiting messages alone. -/
@[simp] theorem moveToDeadLetter_queue (queue : TaskQueue) (message : Nat) :
    (queue.moveToDeadLetter message).queue = queue.queue := by
  unfold moveToDeadLetter
  rfl

/-- Giving a message up finishes no task. -/
@[simp] theorem moveToDeadLetter_unfinishedTasks (queue : TaskQueue) (message : Nat) :
    (queue.moveToDeadLetter message).unfinishedTasks = queue.unfinishedTasks := by
  unfold moveToDeadLetter
  rfl

/-- Giving a message up counts nothing as processed. -/
@[simp] theorem moveToDeadLetter_processedCount (queue : TaskQueue) (message : Nat) :
    (queue.moveToDeadLetter message).processedCount = queue.processedCount := by
  unfold moveToDeadLetter
  rfl

/-- Giving a message up appends it to the dead letter deque. -/
@[simp] theorem moveToDeadLetter_deadLetter (queue : TaskQueue) (message : Nat) :
    (queue.moveToDeadLetter message).deadLetter = queue.deadLetter.append message := rfl

/-- Giving a message up counts what the dead letter deque drops. -/
theorem moveToDeadLetter_deadLetterDropped (queue : TaskQueue) (message : Nat) :
    (queue.moveToDeadLetter message).deadLetterDropped =
      queue.deadLetterDropped + (queue.deadLetter.dropped message).length := by
  unfold moveToDeadLetter
  rw [BoundedDeque.dropped_length]
  simp only
  split <;> rfl

end TaskQueue

/-- Whether `requeue` gives the message up: no retries remain. -/
def QueueMessage.exhausted (message : QueueMessage) : Bool :=
  decide (message.maxRetries ≤ message.retryCount)

/-- `message.retry_count += 1`. -/
def QueueMessage.retried (message : QueueMessage) : QueueMessage :=
  { message with retryCount := message.retryCount + 1 }

end VelaFlow.Queue
