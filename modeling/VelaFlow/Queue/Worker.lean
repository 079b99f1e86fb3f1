import VelaFlow.Queue.Tasks
import VelaFlow.Tenant.Manager

/-!
# The queue worker

The handlers of `QueueWorker` in `queue/worker.py`. Logging is left out; so are the platform
settings, except that a tenant's credentials are decrypted before they are built.
-/
namespace VelaFlow.Queue

open Process Tenants

/-- What a `QueueWorker` is built from, besides its queue and its storage. -/
structure QueueWorker where
  /-- `_tenant_mgr`. -/
  tenantMgr : TenantManager
  /-- `str(value)` in an f-string. -/
  str : Json → String

/-- A job result with an error. -/
def errorResult (status error : String) : Dict := [("status", .str status), ("error", .str error)]

/-- The result of a message for a demo that has expired. -/
def demoExpiredResult : Dict := errorResult "demo_expired" "Demo account has expired"

/-- The result of a pipeline message beyond the quota. -/
def pipelineQuotaResult : Dict :=
  errorResult "quota_exceeded" "Daily pipeline run quota exceeded"

/-- The result of a language model message beyond the quota. -/
def llmQuotaResult : Dict := errorResult "quota_exceeded" "Daily LLM call quota exceeded"

/-- The result of a RAG query beyond the quota. -/
def ragQuotaResult : Dict := errorResult "quota_exceeded" "Daily LLM/RAG query quota exceeded"

/-- The result of a pipeline message beyond the demo cost cap. -/
def demoCostCapResult : Dict :=
  errorResult "demo_cost_cap" "Demo cost cap reached for pipeline runs"

/-- The key of a job result. -/
def jobResultKey (tenantId messageId : String) : String :=
  "tenants/" ++ tenantId ++ "/job_results/" ++ messageId ++ ".json"

/-- The key of a tenant's scoring configuration. -/
def scoringConfigKey (tenantId : String) : String :=
  "tenants/" ++ tenantId ++ "/scoring_config.json"

/-- `_store_job_result`. -/
def storeJobResult (message : QueueMessage) (result : Dict) : Routine Unit :=
  writeJson (jobResultKey message.tenantId message.messageId) result

/-- `_persist_usage`. -/
def persistUsage (tenantId : String) : Routine Unit := do
  match ← readUsage tenantId with
  | none => pure ()
  | some usage => writeJson (dailyUsageKey tenantId) usage

/-- `_is_demo_expired`. -/
def isDemoExpired (tenant : Tenant) : Routine Bool :=
  if tenant.isDemo then
    match tenant.demoExpiresAt with
    | none => pure false
    | some expires => do
      let time ← now .expiry
      pure (decide (expires.instant ≤ time.instant))
  else pure false

/-- `_check_quota`. -/
def checkQuota (tenant : Tenant) (usageType : UsageType) : Routine Bool := do
  let time ← now .quota
  askQuota tenant.tenantId usageType (usageType.limit tenant.quota) time.dayKey

/-- The demo cost cap check of `_handle_pipeline_run`: whether the cap is exceeded. -/
def overDemoCap (tenant : Tenant) (tenantId : String) : Routine Bool :=
  if tenant.isDemo then do
    let usage ← readUsage tenantId
    match ((usage.getD []).getD "pipeline_runs" (.int 0)).number? with
    | none => Program.raise (.typeError "pipeline_runs")
    | some runs => pure (decide ((tenant.demoCostCapPipeline : ℚ) < runs))
  else pure false

/-- The decryptions of `_build_tenant_settings`, the part of it that can raise. -/
def buildTenantSettings (manager : TenantManager) (tenant : Tenant) :
    Except PyException Unit := do
  let decrypt := manager.decryptCredential tenant
  let _ ← decrypt tenant.config.todoistApiTokenEncrypted "todoist_api_token"
  let _ ← decrypt tenant.config.notionApiTokenEncrypted "notion_api_token"
  let _ ← decrypt tenant.config.gmailImapPasswordEncrypted "gmail_imap_password"
  let _ ← decrypt tenant.config.litellmProxyTokenEncrypted "litellm_proxy_token"
  let _ ← decrypt tenant.config.geminiApiKeyEncrypted "gemini_api_key"
  return ()

/-- How every handler begins: a message for an unknown tenant is dropped. -/
def withTenant (worker : QueueWorker) (message : QueueMessage) (work : Tenant → Routine Unit) :
    Routine Unit := do
  match ← worker.tenantMgr.getTenant message.tenantId with
  | none => pure ()
  | some tenant => work tenant

/-- The expiry check some handlers make next. -/
def unlessExpired (message : QueueMessage) (tenant : Tenant) (work : Routine Unit) :
    Routine Unit := do
  if ← isDemoExpired tenant then storeJobResult message demoExpiredResult else work

/-- The quota check some handlers make next, with the result of a refusal. -/
def withinQuota (message : QueueMessage) (tenant : Tenant) (usageType : UsageType)
    (refusal : Dict) (work : Routine Unit) : Routine Unit := do
  if ← checkQuota tenant usageType then work else storeJobResult message refusal

/-- What a pipeline message hands to the execution. -/
def pipelineInputs (payload : Dict) : RunInputs where
  rawTodoistTasks := payload.getD "todoist_tasks" (.arr [])
  rawProjects := payload.getD "todoist_projects" (.arr [])
  rawSections := payload.getD "todoist_sections" (.arr [])
  rawCalendarEvents := payload.getD "calendar_events" (.arr [])
  rawEmails := payload.getD "emails" (.arr [])
  weekendMode := payload.getD "weekend_mode" (.bool false)

/-- `_handle_pipeline_run` from its execution on. -/
def runPipeline (message : QueueMessage) (tenant : Tenant) : Routine Unit := do
  let run ← execute tenant (pipelineInputs message.payload)
  persistUsage message.tenantId
  storeJobResult message
    [("status", .str "completed"), ("run_id", .str run.runId),
     ("pipeline_status", .str run.status), ("duration_ms", .int run.durationMs)]

/-- `_handle_pipeline_run` after its quota check. -/
def pipelineWork (worker : QueueWorker) (message : QueueMessage) (tenant : Tenant) :
    Routine Unit := do
  if ← overDemoCap tenant message.tenantId then storeJobResult message demoCostCapResult
  else do
    pureOf (buildTenantSettings worker.tenantMgr tenant)
    runPipeline message tenant

/-- `_handle_pipeline_run`. -/
def handlePipelineRun (worker : QueueWorker) (message : QueueMessage) : Routine Unit :=
  withTenant worker message fun tenant =>
    unlessExpired message tenant
      (withinQuota message tenant .pipelineRun pipelineQuotaResult
        (pipelineWork worker message tenant))

/-- `_handle_digest_generate` after its quota check. -/
def digestWork (message : QueueMessage) (tenant : Tenant) : Routine Unit := do
  let run ← execute tenant {}
  persistUsage message.tenantId
  storeJobResult message
    [("status", .str "completed"), ("run_id", .str run.runId),
     ("pipeline_status", .str run.status)]

/-- `_handle_digest_generate`, which makes no expiry check. -/
def handleDigestGenerate (worker : QueueWorker) (message : QueueMessage) : Routine Unit :=
  withTenant worker message fun tenant =>
    withinQuota message tenant .pipelineRun pipelineQuotaResult (digestWork message tenant)

/-- The prompt augmentation of `_handle_llm_generate`; a failure leaves the plain prompt. -/
def augmentSystemPrompt (tenant : Tenant) (tenantId : String) (prompt systemPrompt : Json) :
    Routine Json :=
  if tenant.config.ragEnabled && tenant.quota.ragEnabled then
    Program.tryCatch
      (do
        let augmented ← augmentPrompt tenantId prompt systemPrompt
        pure (.str augmented))
      fun _ => pure systemPrompt
  else pure systemPrompt

/-- Whether the fallback to the cloud catches an exception. -/
def PyException.isLocalFailure : PyException → Bool
  | .importError _ | .valueError _ => true
  | _ => false

/-- The local model part of `_handle_llm_generate`. -/
def generateLocally (useLocal : Bool) (tenantId : String) (prompt systemPrompt : Json) :
    Routine (Option String) :=
  if useLocal then
    Program.tryCatch
      (do
        localClient
        if ← localAvailable then localChat tenantId prompt systemPrompt else pure none)
      fun exception =>
        if PyException.isLocalFailure exception then pure none else Program.raise exception
  else pure none

/-- The cloud model part of `_handle_llm_generate`, when there is no local result. -/
def generateInCloud (worker : QueueWorker) (tenant : Tenant) (tenantId : String)
    (prompt systemPrompt : Json) : Option String → Routine (Option String)
  | some text => pure (some text)
  | none => do
    pureOf (buildTenantSettings worker.tenantMgr tenant)
    callLlm tenantId prompt systemPrompt

/-- Whether a message asks for the local model, and the tier has it. -/
def usesLocal (message : QueueMessage) (tenant : Tenant) : Bool :=
  (message.payload.getD "use_local" (.bool false)).truthy && tenant.quota.localLlmEnabled

/-- `_handle_llm_generate` after its quota check. -/
def llmWork (worker : QueueWorker) (message : QueueMessage) (tenant : Tenant) :
    Routine Unit := do
  let prompt := message.payload.getD "prompt" (.str "")
  let systemPrompt ← augmentSystemPrompt tenant message.tenantId prompt
    (message.payload.getD "system_prompt" (.str "You are a helpful assistant."))
  let local? ← generateLocally (usesLocal message tenant) message.tenantId prompt systemPrompt
  let result ← generateInCloud worker tenant message.tenantId prompt systemPrompt local?
  persistUsage message.tenantId
  storeJobResult message
    [("status", .str "completed"), ("result", .str (result.getD ""))]

/-- `_handle_llm_generate`. -/
def handleLlmGenerate (worker : QueueWorker) (message : QueueMessage) : Routine Unit :=
  withTenant worker message fun tenant =>
    unlessExpired message tenant
      (withinQuota message tenant .llmCall llmQuotaResult (llmWork worker message tenant))

/-- How the handlers of a connected service go on: without its token the service is not
connected, with one the credentials are decrypted and the message counts as done. -/
def withConnection (worker : QueueWorker) (message : QueueMessage) (tenant : Tenant)
    (token notConnected : String) (done : Dict) : Routine Unit :=
  if token = "" then storeJobResult message (errorResult "error" notConnected)
  else do
    pureOf (buildTenantSettings worker.tenantMgr tenant)
    storeJobResult message done

/-- `_handle_notion_sync`. -/
def handleNotionSync (worker : QueueWorker) (message : QueueMessage) : Routine Unit :=
  withTenant worker message fun tenant =>
    withConnection worker message tenant tenant.config.notionApiTokenEncrypted
      "Notion not connected. Please connect Notion in your dashboard."
      [("status", .str "completed"),
       ("direction", message.payload.getD "direction" (.str "todoist_to_notion"))]

/-- `_handle_board_analysis`. -/
def handleBoardAnalysis (worker : QueueWorker) (message : QueueMessage) : Routine Unit :=
  withTenant worker message fun tenant =>
    withConnection worker message tenant tenant.config.todoistApiTokenEncrypted
      "Todoist not connected. Please connect Todoist in your dashboard."
      [("status", .str "completed"),
       ("project_id", message.payload.getD "project_id" (.str "all"))]

/-- `_handle_scoring_config`. -/
def handleScoringConfig (worker : QueueWorker) (message : QueueMessage) : Routine Unit :=
  withTenant worker message fun _ => writeJson (scoringConfigKey message.tenantId) message.payload

/-- `_handle_tenant_operation`, which only logs. -/
def handleTenantOperation (worker : QueueWorker) (message : QueueMessage) : Routine Unit :=
  withTenant worker message fun _ => pure ()

/-- `_handle_notebooklm_extract`, which only logs. -/
def handleNotebooklmExtract (worker : QueueWorker) (message : QueueMessage) : Routine Unit :=
  withTenant worker message fun _ => pure ()

/-- `min(top_k, 10)`; what is no number does not compare. -/
def capTopK (topK : Json) : Except PyException Json :=
  match topK.number? with
  | none => .error (.typeError "top_k")
  | some number => .ok (if (10 : ℚ) < number then .int 10 else topK)

/-- A RAG query that the quota admits. -/
def ragQueryWork (message : QueueMessage) (topK : Json) : Routine Unit := do
  let results ← ragQuery message.tenantId (message.payload.getD "query" (.str "")) topK
  persistUsage message.tenantId
  storeJobResult message
    [("status", .str "completed"), ("action", .str "query"),
     ("results", .arr (results.map fun result => .obj
       [("content", .str result.content), ("score", .float result.score),
        ("document_id", .str result.documentId)]))]

/-- What a RAG message asks for. -/
inductive RagRequest where
  /-- `"ingest"`. -/
  | ingest
  /-- `"query"`. -/
  | query
  /-- `"delete"`. -/
  | delete
  /-- Any other action. -/
  | unknown (action : Json)

/-- The action of a payload, a query by default. -/
def ragRequest (payload : Dict) : RagRequest :=
  match payload.getD "action" (.str "query") with
  | .str "ingest" => .ingest
  | .str "query" => .query
  | .str "delete" => .delete
  | action => .unknown action

/-- The `top_k` of a payload, capped. -/
def ragTopK (payload : Dict) : Except PyException Json :=
  capTopK (payload.getD "top_k" (.int 5))

/-- The body of the `try` of `_handle_rag_query`. -/
def ragAction (worker : QueueWorker) (message : QueueMessage) (tenant : Tenant) : Routine Unit :=
  match ragRequest message.payload with
  | .ingest => do
    let payload := message.payload
    let count ← ragIngest message.tenantId (payload.getD "text" (.str ""))
      (payload.getD "document_id" (.str "")) (payload.getD "metadata" (.obj []))
      tenant.quota.maxRagDocuments
    storeJobResult message
      [("status", .str "completed"), ("action", .str "ingest"), ("chunks_stored", .int count)]
  | .query => do
    let topK ← pureOf (ragTopK message.payload)
    withinQuota message tenant .llmCall ragQuotaResult (ragQueryWork message topK)
  | .delete => do
    let count ← ragDelete message.tenantId (message.payload.getD "document_id" (.str ""))
    storeJobResult message
      [("status", .str "completed"), ("action", .str "delete"), ("chunks_deleted", .int count)]
  | .unknown action => storeJobResult message
      [("status", .str "error"), ("error", .str ("Unknown RAG action: " ++ worker.str action))]

/-- The `except` clauses of `_handle_rag_query`. -/
def ragFailure (message : QueueMessage) : PyException → Routine Unit
  | .permissionError text => storeJobResult message (errorResult "error" text)
  | _ => storeJobResult message (errorResult "error" "RAG operation failed")

/-- `_handle_rag_query`. -/
def handleRagQuery (worker : QueueWorker) (message : QueueMessage) : Routine Unit :=
  withTenant worker message fun tenant =>
    unlessExpired message tenant
      (if tenant.quota.ragEnabled then
        Program.tryCatch (ragAction worker message tenant) (ragFailure message)
      else
        storeJobResult message (errorResult "error"
          "Native RAG is not available for your tier. Upgrade to VIP."))

/-- `_handlers`. -/
def handler (worker : QueueWorker) (message : QueueMessage) : Routine Unit :=
  match message.messageType with
  | .pipelineRun => handlePipelineRun worker message
  | .digestGenerate => handleDigestGenerate worker message
  | .llmGenerate => handleLlmGenerate worker message
  | .notionSync => handleNotionSync worker message
  | .boardAnalysis => handleBoardAnalysis worker message
  | .scoringConfig => handleScoringConfig worker message
  | .tenantOperation => handleTenantOperation worker message
  | .notebooklmExtract => handleNotebooklmExtract worker message
  | .ragQuery => handleRagQuery worker message

end VelaFlow.Queue
