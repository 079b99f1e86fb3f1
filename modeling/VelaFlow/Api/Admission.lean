import VelaFlow.Api.JobStatus
import VelaFlow.Api.Pipelines
import VelaFlow.Queue.Charging

/-!
# The two ways into a pipeline

A body reaches the pipeline through `POST /pipelines/run`, or through `POST /webhooks/pipeline` and
the worker. The first counts the items and moderates three lists. The second moderates the tasks
alone, in two of their fields, and neither its route nor the worker counts.
-/
namespace VelaFlow.Api

open Process Queue Security Tenants
open Program (Only)

section Executions

variable {worker : QueueWorker} {message : QueueMessage}

end Executions

/-- The same body sent to both routes, and what the worker makes of the second. -/
structure Submitted (worker : QueueWorker) where
  /-- The body. -/
  body : PipelineBody
  /-- The request to the webhook. -/
  call : WebhookCall
  /-- The rate limiter of the webhooks. -/
  limiter : RateLimiter
  /-- `_daily_run_counts`, when the pipeline route is asked. -/
  counts : RunCounts
  /-- `date.today().isoformat()`. -/
  today : String
  /-- What the pipeline route finds. -/
  world : World
  /-- The answers that it is given. -/
  answers : Answers
  /-- The attempts of the worker to handle the message. -/
  attempts : List (Attempt worker.tenantMgr call.claims.tenantId)

namespace Submitted

variable {worker : QueueWorker} (pipelines : PipelineService) (webhooks : WebhookService)
  (submitted : Submitted worker)

/-- What the webhook submits for the body, when it accepts it. -/
def submission : Submission where
  messageType := .pipelineRun
  payload :=
    [("todoist_tasks", jsonList submitted.body.todoistTasks),
     ("todoist_projects", jsonList submitted.body.todoistProjects),
     ("todoist_sections", jsonList submitted.body.todoistSections),
     ("calendar_events", jsonList submitted.body.calendarEvents),
     ("emails", jsonList submitted.body.emails),
     ("weekend_mode", .bool submitted.body.weekendMode)]
  jobType := "pipeline_run"
  note := "Pipeline run queued for async processing"

/-- The message of the body. -/
def message : QueueMessage :=
  submitted.submission.message submitted.call.claims.tenantId submitted.call.token

variable {webhooks submitted}

section Sample

/-- A pipeline route without patterns. -/
def samplePipelines : PipelineService where
  manager := sampleWorker.tenantMgr
  moderation := ⟨[]⟩
  str _ := ""

/-- A task. -/
def milk : Dict := [("content", .str "Buy milk")]

/-- A thousand and one tasks are within the limits of a body. -/
theorem milk_limits : (List.replicate 1001 milk).length ≤ 10000 ∧ ([] : List Dict).length ≤ 1000 ∧
    ([] : List Dict).length ≤ 1000 ∧ ([] : List Dict).length ≤ 10000 ∧
    ([] : List Dict).length ≤ 5000 := by
  rw [List.length_replicate]
  decide

/-- More tasks than the quota of the standard tier has room for, sent to both routes. -/
def oversized : Submitted sampleWorker where
  body := { todoistTasks := List.replicate 1001 milk, limits := milk_limits }
  call := Deployment.sampleCall
  limiter := { maxRequests := 20, window := 60 }
  counts _ := ("", 0)
  today := "2025-01-01"
  world := storedWorld sampleTenant
  answers := sampleAnswers dayOne
  attempts := [sampleAttempt sampleTenant rfl rfl]

/-- The sample tenant is found. -/
theorem storedTenant_oversized :
    storedTenant sampleWorker.tenantMgr dayOne oversized.world "tn_a" = .ok (some sampleTenant) :=
  storedTenant_storedWorld sampleTenant rfl rfl dayOne

end Sample

end Submitted

end VelaFlow.Api
