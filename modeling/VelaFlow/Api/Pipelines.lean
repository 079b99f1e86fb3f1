import Mathlib.Logic.Function.Basic
import VelaFlow.Api.Webhooks

/-!
# The pipeline route

`POST /pipelines/run` of `api/routes/pipelines.py`: what it checks before the execution, in its
order, with the daily counter that it keeps in the memory of the API process, and the execution.
The results of the single stages are left out.
-/
namespace VelaFlow.Api

open Process Security Tenants

/-- What the pipeline route is configured with. -/
structure PipelineService where
  /-- The tenant manager. -/
  manager : TenantManager
  /-- `get_rbac`. -/
  policy : RBACPolicy := {}
  /-- The patterns of the moderation. -/
  moderation : Moderation
  /-- `str` of a number, for a text. -/
  str : Nat → String

/-- `_daily_run_counts.get(tenant_id, ("", 0))`. -/
abbrev RunCounts := String → String × Nat

/-- `PipelineRunResponse`, without the stages. -/
structure PipelineRunResponse where
  /-- `run_id`. -/
  runId : String
  /-- `tenant_id`. -/
  tenantId : String
  /-- `status`. -/
  status : String
  /-- `duration_ms`. -/
  durationMs : Int

/-- `total_items`. -/
def PipelineBody.totalItems (body : PipelineBody) : Nat :=
  body.todoistTasks.length + body.todoistProjects.length + body.todoistSections.length +
    body.calendarEvents.length + body.emails.length

/-- The lists of a body that `trigger_pipeline` moderates. -/
def PipelineBody.moderated (body : PipelineBody) : List (List Dict) :=
  [body.todoistTasks, body.calendarEvents, body.emails]

/-- The fields that `trigger_pipeline` moderates. -/
def moderatedFields : List String := ["content", "subject", "summary", "name", "description"]

/-- The inputs of an execution. -/
def PipelineBody.inputs (body : PipelineBody) : RunInputs where
  rawTodoistTasks := jsonList body.todoistTasks
  rawProjects := jsonList body.todoistProjects
  rawSections := jsonList body.todoistSections
  rawCalendarEvents := jsonList body.calendarEvents
  rawEmails := jsonList body.emails
  weekendMode := .bool body.weekendMode

namespace PipelineService

variable (service : PipelineService)

/-- The atomic section of `trigger_pipeline`. -/
def chargeRun (counts : RunCounts) (tenant : Tenant) (tenantId today : String) :
    Reply Unit × RunCounts :=
  let count := if (counts tenantId).1 = today then (counts tenantId).2 else 0
  let limit := tenant.quota.maxPipelineRunsPerDay
  if limit ≤ count then
    (.error ⟨429, "Daily pipeline run quota exceeded (" ++ service.str limit ++ "/day for " ++
      tenant.tier.value ++ " tier)."⟩, counts)
  else (.ok (), Function.update counts tenantId (today, count + 1))

/-- The check of the number of items. -/
def checkSize (tenant : Tenant) (body : PipelineBody) : Reply Unit :=
  if tenant.quota.maxTasks < body.totalItems then
    .error ⟨413, "Payload exceeds task quota (" ++ service.str body.totalItems ++ " items, max " ++
      service.str tenant.quota.maxTasks ++ " for " ++ tenant.tier.value ++ " tier)."⟩
  else .ok ()

/-- The moderation of the lists, in order. -/
def checkModeration : List (List Dict) → Reply Unit
  | [] => .ok ()
  | items :: rest =>
    let result := service.moderation.checkBulkContent items moderatedFields
    if result.isAllowed = false then .error ⟨451, "Content blocked: " ++ result.reason⟩
    else checkModeration rest

/-- The checks of a body, of a tenant that is found. -/
def admitBody (counts : RunCounts) (tenant : Tenant) (tenantId today : String)
    (body : PipelineBody) : Reply Unit × RunCounts :=
  match service.chargeRun counts tenant tenantId today with
  | (.error refusal, after) => (.error refusal, after)
  | (.ok (), after) =>
    (do
      service.checkSize tenant body
      service.checkModeration body.moderated, after)

/-- `trigger_pipeline`, up to the execution: the tenant that it is for, and the counters. -/
def admitRun (claims : TokenClaims) (counts : RunCounts) (today : String) (body : PipelineBody) :
    Routine (Reply Tenant × RunCounts) :=
  match requirePermission service.policy claims .runPipeline, getCurrentTenantId claims with
  | .error refusal, _ | .ok (), .error refusal => pure (.error refusal, counts)
  | .ok (), .ok tenantId => do
    match ← service.manager.getTenant tenantId with
    | none => pure (.error ⟨404, "Tenant not found"⟩, counts)
    | some tenant =>
      match service.admitBody counts tenant tenantId today body with
      | (.error refusal, after) => pure (.error refusal, after)
      | (.ok (), after) => pure (.ok tenant, after)

/-- `trigger_pipeline`. -/
def triggerPipeline (claims : TokenClaims) (counts : RunCounts) (today : String)
    (body : PipelineBody) : Routine (Reply PipelineRunResponse) := do
  match (← service.admitRun claims counts today body).1 with
  | .error refusal => pure (.error refusal)
  | .ok tenant =>
    let run ← execute tenant body.inputs
    pure (.ok ⟨run.runId, tenant.tenantId, run.status, run.durationMs⟩)

end PipelineService

end VelaFlow.Api
