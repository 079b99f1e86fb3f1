import VelaFlow.Api.Auth
import VelaFlow.Queue.Tasks
import VelaFlow.Security.Moderation
import VelaFlow.Security.RateLimiter
import VelaFlow.Security.Sanitization

/-!
# The webhook routes

The routes of `api/routes/webhooks.py` that put a message into the task queue, the table of job
statuses that they keep, and the route that reads it. A route checks its caller, the signature of
the request and the rate limit, then its body, and answers with what it submits. The catalog
query, which submits nothing, is left out.
-/
namespace VelaFlow.Api

open Queue Security

/-- `PipelineRunRequest`, and `WebhookPipelineRequest`, which has the same fields and limits. -/
structure PipelineBody where
  /-- `todoist_tasks`. -/
  todoistTasks : List Dict := []
  /-- `todoist_projects`. -/
  todoistProjects : List Dict := []
  /-- `todoist_sections`. -/
  todoistSections : List Dict := []
  /-- `calendar_events`. -/
  calendarEvents : List Dict := []
  /-- `emails`. -/
  emails : List Dict := []
  /-- `weekend_mode`. -/
  weekendMode : Bool := false
  /-- The limits of the lists. -/
  limits : todoistTasks.length ≤ 10000 ∧ todoistProjects.length ≤ 1000 ∧
    todoistSections.length ≤ 1000 ∧ calendarEvents.length ≤ 10000 ∧ emails.length ≤ 5000

/-- `WebhookLLMRequest`. -/
structure WebhookLLMRequest where
  /-- `prompt`. -/
  prompt : String
  /-- `system_prompt`. -/
  systemPrompt : String := "You are VelaFlow, an AI productivity assistant."
  /-- `use_local`. -/
  useLocal : Bool := false
  /-- The limits of the texts. -/
  limits : 1 ≤ prompt.length ∧ prompt.length ≤ 4000 ∧ systemPrompt.length ≤ 2000

/-- `WebhookTenantRequest`. -/
structure WebhookTenantRequest where
  /-- `action`. -/
  action : String
  /-- `config`. -/
  config : Dict := []

/-- `WebhookNotionSyncRequest`. -/
structure WebhookNotionSyncRequest where
  /-- `direction`. -/
  direction : String := "todoist_to_notion"
  /-- `database_id`. -/
  databaseId : String := ""

/-- `WebhookBoardAnalysisRequest`. -/
structure WebhookBoardAnalysisRequest where
  /-- `project_id`. -/
  projectId : String := ""
  /-- `include_sections`. -/
  includeSections : Bool := true

/-- `WebhookScoringConfigRequest`. -/
structure WebhookScoringConfigRequest where
  /-- `priority_weight`. -/
  priorityWeight : ℚ := 1
  /-- `due_date_weight`. -/
  dueDateWeight : ℚ := 1
  /-- `label_bonus`. -/
  labelBonus : ℚ := 1 / 2
  /-- `overdue_penalty`. -/
  overduePenalty : ℚ := 2
  /-- The ranges of the weights. -/
  ranges : (0 ≤ priorityWeight ∧ priorityWeight ≤ 5) ∧ (0 ≤ dueDateWeight ∧ dueDateWeight ≤ 5) ∧
    (0 ≤ labelBonus ∧ labelBonus ≤ 3) ∧ (0 ≤ overduePenalty ∧ overduePenalty ≤ 10)

/-- `WebhookNotebookLMRequest`. -/
structure WebhookNotebookLMRequest where
  /-- `source_type`. -/
  sourceType : String := "digest"
  /-- `content`. -/
  content : String := ""
  /-- The limit of the text. -/
  limit : content.length ≤ 10000

/-- A request to one of the routes, with its body. -/
inductive WebhookRequest where
  /-- `POST /webhooks/pipeline`. -/
  | pipeline (body : PipelineBody)
  /-- `POST /webhooks/digest`. -/
  | digest
  /-- `POST /webhooks/llm`. -/
  | llm (body : WebhookLLMRequest)
  /-- `POST /webhooks/tenant`. -/
  | tenant (body : WebhookTenantRequest)
  /-- `POST /webhooks/notion-sync`. -/
  | notionSync (body : WebhookNotionSyncRequest)
  /-- `POST /webhooks/board-analysis`. -/
  | boardAnalysis (body : WebhookBoardAnalysisRequest)
  /-- `POST /webhooks/scoring-config`. -/
  | scoringConfig (body : WebhookScoringConfigRequest)
  /-- `POST /webhooks/notebooklm`. -/
  | notebooklm (body : WebhookNotebookLMRequest)

/-- What a request brings besides its body: the claims of its token, its bytes and signature, the
token drawn for its message, and the readings of the clock by the rate limit. -/
structure WebhookCall where
  /-- The claims of the verified token. -/
  claims : TokenClaims
  /-- `request.body()`. -/
  rawBody : String := ""
  /-- `x_webhook_signature`. -/
  signature : Option String := none
  /-- `secrets.token_hex(8)`. -/
  token : HexToken
  /-- The reading of `allow`. -/
  asked : ℚ := 0
  /-- The reading of `remaining`. -/
  refused : ℚ := 0

/-- What the webhook routes are configured with. -/
structure WebhookService where
  /-- `get_rbac`. -/
  policy : RBACPolicy := {}
  /-- `_WEBHOOK_SECRET`. -/
  secret : String := ""
  /-- The hexadecimal HMAC-SHA256 of a key and a text. -/
  hmacSha256 : String → String → String
  /-- The patterns of the moderation. -/
  moderation : Moderation
  /-- The patterns of the sanitization. -/
  patterns : Patterns
  /-- `str` of a number, for a text. -/
  str : Nat → String

/-- What a route submits for its caller. -/
structure Submission where
  /-- `message_type`. -/
  messageType : MessageType
  /-- `payload`. -/
  payload : Dict := []
  /-- The type under which the job is tracked. -/
  jobType : String
  /-- `message` of the response. -/
  note : String

/-- A list of dictionaries as JSON. -/
def jsonList (items : List Dict) : Json := .arr (items.map Json.obj)

namespace WebhookService

variable (service : WebhookService)

/-- `verify_webhook_signature`. -/
def verifyWebhookSignature (call : WebhookCall) : Reply Unit :=
  if service.secret = "" then .ok ()
  else if call.signature.getD "" = "" then
    .error ⟨401, "Missing X-Webhook-Signature header"⟩
  else if "sha256=" ++ service.hmacSha256 service.secret call.rawBody =
      call.signature.getD "" then .ok ()
  else .error ⟨401, "Invalid webhook signature"⟩

/-- `_check_rate_limit`. -/
def checkRateLimit (limiter : RateLimiter) (tenantId : String) (call : WebhookCall) :
    Reply Unit × RateLimiter :=
  match limiter.allow tenantId call.asked with
  | (true, after) => (.ok (), after)
  | (false, after) =>
    (.error ⟨429, "Rate limit exceeded (" ++ service.str (after.remaining tenantId call.refused) ++
      " remaining). Try again in 60s."⟩, after)

/-- `webhook_trigger_pipeline`, after the rate limit. -/
def webhookTriggerPipeline (body : PipelineBody) : Reply Submission :=
  let result := service.moderation.checkBulkContent body.todoistTasks ["content", "description"]
  if body.todoistTasks ≠ [] ∧ result.isAllowed = false then
    .error ⟨422, "Content blocked: " ++ result.reason⟩
  else
    .ok
      { messageType := .pipelineRun
        payload :=
          [("todoist_tasks", jsonList body.todoistTasks),
           ("todoist_projects", jsonList body.todoistProjects),
           ("todoist_sections", jsonList body.todoistSections),
           ("calendar_events", jsonList body.calendarEvents),
           ("emails", jsonList body.emails),
           ("weekend_mode", .bool body.weekendMode)]
        jobType := "pipeline_run"
        note := "Pipeline run queued for async processing" }

/-- `webhook_trigger_digest`, after the rate limit. -/
def webhookTriggerDigest : Submission where
  messageType := .digestGenerate
  jobType := "digest_generate"
  note := "Digest generation queued"

/-- `webhook_trigger_llm`, after the rate limit. -/
def webhookTriggerLlm (body : WebhookLLMRequest) : Reply Submission :=
  if hasPromptInjection service.patterns body.systemPrompt = true then
    .error ⟨422, "System prompt contains disallowed content"⟩
  else
    .ok
      { messageType := .llmGenerate
        payload :=
          [("prompt", .str (sanitizeForLlm service.patterns body.prompt)),
           ("system_prompt", .str (sanitizeForLlm service.patterns body.systemPrompt)),
           ("use_local", .bool body.useLocal)]
        jobType := "llm_generate"
        note := "LLM generation queued" }

/-- `webhook_tenant_operation`, after the rate limit. -/
def webhookTenantOperation (body : WebhookTenantRequest) : Submission where
  messageType := .tenantOperation
  payload := [("action", .str body.action), ("config", .obj body.config)]
  jobType := "tenant_operation"
  note := "Tenant operation '" ++ body.action ++ "' queued"

/-- `webhook_notion_sync`, after the rate limit. -/
def webhookNotionSync (body : WebhookNotionSyncRequest) : Submission where
  messageType := .notionSync
  payload := [("direction", .str body.direction), ("database_id", .str body.databaseId)]
  jobType := "notion_sync"
  note := "Notion sync (" ++ body.direction ++ ") queued"

/-- `webhook_board_analysis`, after the rate limit. -/
def webhookBoardAnalysis (body : WebhookBoardAnalysisRequest) : Submission where
  messageType := .boardAnalysis
  payload :=
    [("project_id", .str body.projectId), ("include_sections", .bool body.includeSections)]
  jobType := "board_analysis"
  note := "Board analysis queued"

/-- `webhook_scoring_config`, after the rate limit. -/
def webhookScoringConfig (body : WebhookScoringConfigRequest) : Submission where
  messageType := .scoringConfig
  payload :=
    [("priority_weight", .float body.priorityWeight),
     ("due_date_weight", .float body.dueDateWeight),
     ("label_bonus", .float body.labelBonus),
     ("overdue_penalty", .float body.overduePenalty)]
  jobType := "scoring_config"
  note := "Scoring configuration update queued"

/-- `webhook_notebooklm`, after the rate limit. -/
def webhookNotebooklm (body : WebhookNotebookLMRequest) : Submission where
  messageType := .notebooklmExtract
  payload := [("source_type", .str body.sourceType), ("content", .str body.content)]
  jobType := "notebooklm"
  note := "NotebookLM extraction queued"

/-- The permission that a route requires. -/
def permission : WebhookRequest → Permission
  | .pipeline _ => .runPipeline
  | .digest => .generateDigest
  | .llm _ => .useLlm
  | .tenant _ => .manageTenant
  | .notionSync _ => .runPipeline
  | .boardAnalysis _ => .readGold
  | .scoringConfig _ => .manageTenant
  | .notebooklm _ => .useLlm

/-- What the route of a request submits, after the rate limit. -/
def submission : WebhookRequest → Reply Submission
  | .pipeline body => service.webhookTriggerPipeline body
  | .digest => .ok webhookTriggerDigest
  | .llm body => service.webhookTriggerLlm body
  | .tenant body => .ok (webhookTenantOperation body)
  | .notionSync body => .ok (webhookNotionSync body)
  | .boardAnalysis body => .ok (webhookBoardAnalysis body)
  | .scoringConfig body => .ok (webhookScoringConfig body)
  | .notebooklm body => .ok (webhookNotebooklm body)

/-- The dependencies of a route: the tenant of an admitted caller. -/
def authorize (call : WebhookCall) (request : WebhookRequest) : Reply String := do
  requirePermission service.policy call.claims (permission request)
  service.verifyWebhookSignature call
  getCurrentTenantId call.claims

/-- A route: the tenant and the submission of a request that is accepted, and the limiter. -/
def receive (limiter : RateLimiter) (call : WebhookCall) (request : WebhookRequest) :
    Reply (String × Submission) × RateLimiter :=
  match service.authorize call request with
  | .error refusal => (.error refusal, limiter)
  | .ok tenantId =>
    match service.checkRateLimit limiter tenantId call with
    | (.error refusal, after) => (.error refusal, after)
    | (.ok (), after) =>
      ((service.submission request).map fun submission => (tenantId, submission), after)

end WebhookService

/-- The message of a submission. -/
def Submission.message (submission : Submission) (tenantId : String) (token : HexToken) :
    QueueMessage where
  messageId := "wh_" ++ token.text
  messageType := submission.messageType
  tenantId := tenantId
  payload := submission.payload

/-- An entry of `_job_status`. -/
structure Job where
  /-- `status`. -/
  status : String := "queued"
  /-- `tenant_id`. -/
  tenantId : String
  /-- `type`. -/
  jobType : String
  /-- `created_at`. -/
  createdAt : String
  deriving DecidableEq, Repr

/-- `_job_status`, in insertion order. -/
abbrev JobTable := List (String × Job)

/-- `_MAX_JOB_HISTORY`. -/
def maxJobHistory : Nat := 1000

namespace JobTable

/-- `_job_status[message_id] = job`. -/
def set : JobTable → String → Job → JobTable
  | [], messageId, job => [(messageId, job)]
  | entry :: rest, messageId, job =>
    if entry.1 = messageId then (messageId, job) :: rest else entry :: set rest messageId job

/-- The hundred oldest entries leave a full table. -/
def trim (jobs : JobTable) : JobTable :=
  if maxJobHistory ≤ jobs.length then
    let byAge := jobs.mergeSort fun first second => decide (first.2.createdAt ≤ second.2.createdAt)
    let oldest := (byAge.take 100).map Prod.fst
    jobs.filter fun entry => !oldest.contains entry.1
  else jobs

/-- `_track_job`. -/
def trackJob (jobs : JobTable) (messageId tenantId jobType : String) (now : DateTime) : JobTable :=
  set (trim jobs) messageId { tenantId, jobType, createdAt := now.isoformat }

/-- `webhook_job_status`, for a caller of the tenant. -/
def webhookJobStatus (jobs : JobTable) (messageId tenantId : String) : Dict :=
  let unknown : Dict :=
    [("message_id", .str messageId), ("status", .str "unknown"),
     ("message", .str "Job not found or expired")]
  match List.lookup messageId jobs with
  | none => unknown
  | some job =>
    if job.tenantId = tenantId then
      [("message_id", .str messageId), ("status", .str job.status),
       ("tenant_id", .str job.tenantId), ("type", .str job.jobType),
       ("created_at", .str job.createdAt)]
    else unknown

end JobTable

/-- `GET /webhooks/status/{message_id}`. -/
def webhookStatusRoute (policy : RBACPolicy) (claims : TokenClaims) (jobs : JobTable)
    (messageId : String) : Reply Dict := do
  requirePermission policy claims .viewPipelineRuns
  let tenantId ← getCurrentTenantId claims
  return jobs.webhookJobStatus messageId tenantId

end VelaFlow.Api
