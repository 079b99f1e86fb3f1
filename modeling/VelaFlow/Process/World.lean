import VelaFlow.Foundation.Program
import VelaFlow.Rag.VectorStore
import VelaFlow.Storage.Local
import VelaFlow.Tenant.Models

/-!
# The world of a worker process

What the handlers of the worker and the methods of the tenant manager act on: the storage, the
module memory of the worker, the table of RAG chunks, and the libraries and services whose
answers are given from outside. Everything done to the outside is also entered in a list of
effects, which no action reads.
-/
namespace VelaFlow.Process

open Tenants Storage Rag

/-- The two counters of `_check_quota`. -/
inductive UsageType where
  /-- `"pipeline_run"`. -/
  | pipelineRun
  /-- `"llm_call"`. -/
  | llmCall
  deriving DecidableEq, Repr

/-- The key of a counter in the usage of a day. -/
def UsageType.key : UsageType → String
  | .pipelineRun => "pipeline_runs"
  | .llmCall => "llm_calls"

/-- The daily limit of a counter. -/
def UsageType.limit (quota : TenantQuota) : UsageType → Nat
  | .pipelineRun => quota.maxPipelineRunsPerDay
  | .llmCall => quota.maxLlmCallsPerDay

/-- The call sites that read the clock. -/
inductive ClockSite where
  /-- `_from_dict`, for a record without a creation time. -/
  | record
  /-- `_is_demo_expired`. -/
  | expiry
  /-- `_check_quota`. -/
  | quota
  /-- `create_tenant`. -/
  | creation
  deriving DecidableEq, Repr

/-- The fields of a `PipelineRun` that the handlers report. -/
structure PipelineRun where
  /-- `run_id`. -/
  runId : String
  /-- `status.value`. -/
  status : String
  /-- `duration_ms`. -/
  durationMs : Int

/-- What a handler hands to `PipelineScheduler.execute`. -/
structure RunInputs where
  /-- `raw_todoist_tasks`. -/
  rawTodoistTasks : Json := .arr []
  /-- `raw_projects`. -/
  rawProjects : Json := .arr []
  /-- `raw_sections`. -/
  rawSections : Json := .arr []
  /-- `raw_calendar_events`. -/
  rawCalendarEvents : Json := .arr []
  /-- `raw_emails`. -/
  rawEmails : Json := .arr []
  /-- `weekend_mode`. -/
  weekendMode : Json := .bool false

/-- The storage layers a pipeline run writes. -/
inductive Layer where
  /-- `bronze`. -/
  | bronze
  /-- `silver`. -/
  | silver
  /-- `gold`. -/
  | gold
  /-- `runs`. -/
  | runs
  deriving DecidableEq, Repr

/-- The directory of a layer. -/
def Layer.name : Layer → String
  | .bronze => "bronze"
  | .silver => "silver"
  | .gold => "gold"
  | .runs => "runs"

/-- What an execution leaves: the documents written to the tenant's layers, by layer and name,
and how it ended. -/
structure Execution where
  /-- The documents. -/
  written : List (Layer × String × Dict)
  /-- The run, or the exception. -/
  result : Except PyException PipelineRun

/-- An action of the worker or of the tenant manager. -/
inductive Action where
  /-- `storage.read_json`. -/
  | readJson (key : String)
  /-- `storage.write_json`. -/
  | writeJson (key : String) (data : Dict)
  /-- `storage.list_keys`. -/
  | listKeys (keyPrefix : String)
  /-- `storage.delete`. -/
  | delete (key : String)
  /-- `datetime.now(timezone.utc)`. -/
  | now (site : ClockSite)
  /-- `secrets.token_hex(8)`. -/
  | tokenHex
  /-- `secrets.token_urlsafe(32)`. -/
  | tokenUrlsafe
  /-- The nonce an encryption of the named field draws. -/
  | nonce (fieldName : String)
  /-- The locked section of `_check_quota`. -/
  | checkQuota (tenantId : String) (usageType : UsageType) (limit : Nat) (today : String)
  /-- `_daily_usage.get(tenant_id)`. -/
  | usage (tenantId : String)
  /-- `PipelineScheduler.execute`. -/
  | execute (tenant : Tenant) (inputs : RunInputs)
  /-- `RAGPipeline.augment_prompt`. -/
  | augmentPrompt (tenantId : String) (prompt systemPrompt : Json)
  /-- `RAGPipeline.ingest`. -/
  | ragIngest (tenantId : String) (text documentId metadata : Json) (maxDocuments : Nat)
  /-- `RAGPipeline.query`. -/
  | ragQuery (tenantId : String) (query topK : Json)
  /-- `RAGPipeline.delete_document`. -/
  | ragDelete (tenantId : String) (documentId : Json)
  /-- `LocalLLMClient()`. -/
  | localClient
  /-- `LocalLLMClient.is_available`. -/
  | localAvailable
  /-- `LocalLLMClient.chat`, for a tenant. -/
  | localChat (tenantId : String) (prompt systemPrompt : Json)
  /-- `call_llm`, for a tenant. -/
  | callLlm (tenantId : String) (prompt systemPrompt : Json)

/-- The type of the answer to an action. -/
abbrev Action.Answer : Action → Type
  | readJson _ => Option Dict
  | writeJson _ _ => Unit
  | listKeys _ => List String
  | delete _ => Bool
  | now _ => DateTime
  | tokenHex | tokenUrlsafe | nonce _ => String
  | checkQuota _ _ _ _ => Bool
  | usage _ => Option Dict
  | execute _ _ => PipelineRun
  | augmentPrompt _ _ _ => String
  | ragIngest _ _ _ _ _ => Nat
  | ragQuery _ _ _ => List (RetrievalResult ℚ)
  | ragDelete _ _ => Nat
  | localClient => Unit
  | localAvailable => Bool
  | localChat _ _ _ => Option String
  | callLlm _ _ _ => Option String

/-- A method of the worker or of the tenant manager. -/
abbrev Routine (α : Type) := Program Action Action.Answer PyException α

/-- An effect on the outside. -/
inductive Effect where
  /-- A document was written. -/
  | wrote (key : String) (data : Dict)
  /-- A document was deleted. -/
  | deleted (key : String)
  /-- A pipeline execution was started for a tenant. -/
  | executed (tenantId : String) (started : DateTime)
  /-- A call of a language model was started for a tenant. -/
  | calledLlm (tenantId : String) (started : DateTime)
  /-- The RAG pipeline was called for a tenant. -/
  | calledRag (tenantId : String)

/-- The state of the worker process and of what it shares. -/
structure World where
  /-- The shared storage. -/
  storage : LocalStorage
  /-- The module variable `_daily_usage`. -/
  dailyUsage : String → Option Dict := fun _ => none
  /-- The table of RAG chunks. -/
  chunks : VectorStore ℚ := .empty
  /-- Everything done to the outside, in order. -/
  effects : List Effect := []

/-- What the libraries and services answer. A handler asks each of these at most once. -/
structure Answers where
  /-- The clock at each of its call sites. -/
  clock : ClockSite → DateTime
  /-- The time an execution or a call of a language model starts. -/
  started : DateTime
  /-- `secrets.token_hex(8)`. -/
  tokenHex : String
  /-- `secrets.token_urlsafe(32)`. -/
  tokenUrlsafe : String
  /-- The nonce of each encryption. -/
  nonce : String → String
  /-- `PipelineScheduler.execute`. -/
  execute : Execution
  /-- `RAGPipeline.augment_prompt`. -/
  augmentPrompt : VectorStore ℚ → Except PyException String
  /-- `RAGPipeline.ingest`, and the table it leaves. -/
  ragIngest : VectorStore ℚ → Except PyException Nat × VectorStore ℚ
  /-- `RAGPipeline.query`. -/
  ragQuery : VectorStore ℚ → Except PyException (List (RetrievalResult ℚ))
  /-- `RAGPipeline.delete_document`, and the table it leaves. -/
  ragDelete : VectorStore ℚ → Except PyException Nat × VectorStore ℚ
  /-- `LocalLLMClient()`. -/
  localClient : Except PyException Unit
  /-- `LocalLLMClient.is_available`. -/
  localAvailable : Except PyException Bool
  /-- `LocalLLMClient.chat`. -/
  localChat : Except PyException (Option String)
  /-- `call_llm`. -/
  callLlm : Except PyException (Option String)

/-- The key of a tenant's stored usage. -/
def dailyUsageKey (tenantId : String) : String := "tenants/" ++ tenantId ++ "/daily_usage.json"

/-- The usage of a new day. -/
def freshUsage (today : String) : Dict :=
  [("pipeline_runs", .int 0), ("llm_calls", .int 0), ("date", .str today)]

/-- Whether a usage is that of the given day. -/
def isToday (usage : Dict) (today : String) : Bool :=
  match usage.get? "date" with
  | some (.str date) => decide (date = today)
  | _ => false

namespace World

/-- The world with another usage in memory. -/
def setUsage (world : World) (tenantId : String) (usage : Dict) : World :=
  { world with dailyUsage := Function.update world.dailyUsage tenantId (some usage) }

/-- The world over another storage. -/
def withStorage (world : World) (storage : LocalStorage) : World := { world with storage }

/-- The world after one more effect. -/
def log (world : World) (effect : Effect) : World :=
  { world with effects := world.effects ++ [effect] }

/-- `_load_usage`: what memory holds of a tenant after loading a stored usage. -/
def loadUsage (world : World) (tenantId : String) : Except PyException (Option Dict) :=
  (world.storage.readJson (dailyUsageKey tenantId)).map fun stored =>
    match stored with
    | some data => if data.truthy then some data else world.dailyUsage tenantId
    | none => world.dailyUsage tenantId

/-- The usage `_check_quota` looks at: that of today in memory, else in storage, else a new
one. -/
def currentUsage (world : World) (tenantId today : String) : Except PyException Dict :=
  if (world.dailyUsage tenantId).any (isToday · today) then
    .ok ((world.dailyUsage tenantId).getD [])
  else
    (world.loadUsage tenantId).map fun loaded =>
      if loaded.any (isToday · today) then loaded.getD [] else freshUsage today

/-- The locked section of `_check_quota`. -/
def checkQuota (world : World) (tenantId : String) (usageType : UsageType) (limit : Nat)
    (today : String) : Except PyException Bool × World :=
  match world.currentUsage tenantId today with
  | .error exception => (.error exception, world)
  | .ok usage =>
    let reached := world.setUsage tenantId usage
    match usage.get? usageType.key with
    | none => (.error (.keyError usageType.key), reached)
    | some count =>
      match count.number? with
      | none => (.error (.typeError usageType.key), reached)
      | some number =>
        if (limit : ℚ) ≤ number then (.ok false, reached)
        else (.ok true, reached.setUsage tenantId (usage.set usageType.key count.increment))

/-- `write_json`, when its key resolves. -/
def writeJson (world : World) (key : String) (data : Dict) : Except PyException Unit × World :=
  match world.storage.writeJson key data with
  | .error exception => (.error exception, world)
  | .ok storage => (.ok (), { world.log (.wrote key data) with storage })

/-- The storage after the documents of an execution; a name that does not resolve is none. -/
def writeLayers (storage : LocalStorage) (tenantId : String) :
    List (Layer × String × Dict) → LocalStorage
  | [] => storage
  | (layer, name, data) :: rest =>
    match storage.writeJson (layer.name ++ "/" ++ tenantId ++ "/" ++ name) data with
    | .ok written => writeLayers written tenantId rest
    | .error _ => writeLayers storage tenantId rest

/-- `delete`, when its key resolves. -/
def deleteKey (world : World) (key : String) : Except PyException Bool × World :=
  match world.storage.delete key with
  | .error exception => (.error exception, world)
  | .ok (existed, storage) => (.ok existed, { world.log (.deleted key) with storage })

/-- The world after an execution for a tenant. -/
def afterExecute (world : World) (answers : Answers) (tenantId : String) : World :=
  { world.log (.executed tenantId answers.started) with
    storage := writeLayers world.storage tenantId answers.execute.written }

/-- What an action answers, and the world it leaves. -/
def respond (answers : Answers) :
    (action : Action) → World → Except PyException action.Answer × World
  | .readJson key, world => (world.storage.readJson key, world)
  | .writeJson key data, world => world.writeJson key data
  | .listKeys keyPrefix, world => (world.storage.listKeys keyPrefix, world)
  | .delete key, world => world.deleteKey key
  | .now site, world => (.ok (answers.clock site), world)
  | .tokenHex, world => (.ok answers.tokenHex, world)
  | .tokenUrlsafe, world => (.ok answers.tokenUrlsafe, world)
  | .nonce fieldName, world => (.ok (answers.nonce fieldName), world)
  | .checkQuota tenantId usageType limit today, world =>
    world.checkQuota tenantId usageType limit today
  | .usage tenantId, world => (.ok (world.dailyUsage tenantId), world)
  | .execute tenant _, world =>
    (answers.execute.result, world.afterExecute answers tenant.tenantId)
  | .augmentPrompt tenantId _ _, world =>
    (answers.augmentPrompt world.chunks, world.log (.calledRag tenantId))
  | .ragIngest tenantId _ _ _ _, world =>
    ((answers.ragIngest world.chunks).1,
      { world.log (.calledRag tenantId) with chunks := (answers.ragIngest world.chunks).2 })
  | .ragQuery tenantId _ _, world =>
    (answers.ragQuery world.chunks, world.log (.calledRag tenantId))
  | .ragDelete tenantId _, world =>
    ((answers.ragDelete world.chunks).1,
      { world.log (.calledRag tenantId) with chunks := (answers.ragDelete world.chunks).2 })
  | .localClient, world => (answers.localClient, world)
  | .localAvailable, world => (answers.localAvailable, world)
  | .localChat tenantId _ _, world =>
    (answers.localChat, world.log (.calledLlm tenantId answers.started))
  | .callLlm tenantId _ _, world =>
    (answers.callLlm, world.log (.calledLlm tenantId answers.started))

end World

/-- Runs a routine to its end. -/
abbrev Routine.run {α : Type} (routine : Routine α) (answers : Answers) (world : World) :
    Except PyException α × World :=
  Program.run (World.respond answers) routine world

end VelaFlow.Process
