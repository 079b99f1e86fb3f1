import VelaFlow.Process.World

/-!
# Actions as routines

Each action as a routine of its own, at the type of its answer, and the equations through which
routines are run.
-/
namespace VelaFlow.Process

open Tenants Rag

/-- `storage.read_json`. -/
def readJson (key : String) : Routine (Option Dict) := Program.act (Action.readJson key)

/-- `storage.write_json`. -/
def writeJson (key : String) (data : Dict) : Routine Unit :=
  Program.act (Action.writeJson key data)

/-- `storage.list_keys`. -/
def listKeys (keyPrefix : String) : Routine (List String) :=
  Program.act (Action.listKeys keyPrefix)

/-- `storage.delete`. -/
def delete (key : String) : Routine Bool := Program.act (Action.delete key)

/-- `datetime.now(timezone.utc)`. -/
def now (site : ClockSite) : Routine DateTime := Program.act (Action.now site)

/-- `secrets.token_hex(8)`. -/
def tokenHex : Routine String := Program.act Action.tokenHex

/-- `secrets.token_urlsafe(32)`. -/
def tokenUrlsafe : Routine String := Program.act Action.tokenUrlsafe

/-- The nonce an encryption draws. -/
def drawNonce (fieldName : String) : Routine String := Program.act (Action.nonce fieldName)

/-- `_daily_usage.get(tenant_id)`. -/
def readUsage (tenantId : String) : Routine (Option Dict) :=
  Program.act (Action.usage tenantId)

/-- The locked section of `_check_quota`. -/
def askQuota (tenantId : String) (usageType : UsageType) (limit : Nat) (today : String) :
    Routine Bool :=
  Program.act (Action.checkQuota tenantId usageType limit today)

/-- `PipelineScheduler.execute`. -/
def execute (tenant : Tenant) (inputs : RunInputs) : Routine PipelineRun :=
  Program.act (Action.execute tenant inputs)

/-- `RAGPipeline.augment_prompt`. -/
def augmentPrompt (tenantId : String) (prompt systemPrompt : Json) : Routine String :=
  Program.act (Action.augmentPrompt tenantId prompt systemPrompt)

/-- `RAGPipeline.ingest`. -/
def ragIngest (tenantId : String) (text documentId metadata : Json) (maxDocuments : Nat) :
    Routine Nat :=
  Program.act (Action.ragIngest tenantId text documentId metadata maxDocuments)

/-- `RAGPipeline.query`. -/
def ragQuery (tenantId : String) (query topK : Json) : Routine (List (RetrievalResult ℚ)) :=
  Program.act (Action.ragQuery tenantId query topK)

/-- `RAGPipeline.delete_document`. -/
def ragDelete (tenantId : String) (documentId : Json) : Routine Nat :=
  Program.act (Action.ragDelete tenantId documentId)

/-- `LocalLLMClient()`. -/
def localClient : Routine Unit := Program.act Action.localClient

/-- `LocalLLMClient.is_available`. -/
def localAvailable : Routine Bool := Program.act Action.localAvailable

/-- `LocalLLMClient.chat`. -/
def localChat (tenantId : String) (prompt systemPrompt : Json) : Routine (Option String) :=
  Program.act (Action.localChat tenantId prompt systemPrompt)

/-- `call_llm`. -/
def callLlm (tenantId : String) (prompt systemPrompt : Json) : Routine (Option String) :=
  Program.act (Action.callLlm tenantId prompt systemPrompt)

/-- A computation without actions. -/
abbrev pureOf {α : Type} (computation : Except PyException α) : Routine α :=
  Program.lift computation

section Run

variable (answers : Answers) (world : World)

/-- Reading leaves the world alone. -/
@[simp] theorem run_readJson (key : String) :
    (readJson key).run answers world = (world.storage.readJson key, world) :=
  Program.run_act (World.respond answers) (Action.readJson key) world

/-- Writing is `World.writeJson`. -/
@[simp] theorem run_writeJson (key : String) (data : Dict) :
    (writeJson key data).run answers world = world.writeJson key data :=
  Program.run_act (World.respond answers) (Action.writeJson key data) world

/-- Listing leaves the world alone. -/
@[simp] theorem run_listKeys (keyPrefix : String) :
    (listKeys keyPrefix).run answers world = (world.storage.listKeys keyPrefix, world) :=
  Program.run_act (World.respond answers) (Action.listKeys keyPrefix) world

/-- Deleting is `World.deleteKey`. -/
@[simp] theorem run_delete (key : String) :
    (delete key).run answers world = world.deleteKey key :=
  Program.run_act (World.respond answers) (Action.delete key) world

/-- The clock leaves the world alone. -/
@[simp] theorem run_now (site : ClockSite) :
    (now site).run answers world = (.ok (answers.clock site), world) :=
  Program.run_act (World.respond answers) (Action.now site) world

/-- A token leaves the world alone. -/
@[simp] theorem run_tokenHex : tokenHex.run answers world = (.ok answers.tokenHex, world) :=
  Program.run_act (World.respond answers) Action.tokenHex world

/-- A key leaves the world alone. -/
@[simp] theorem run_tokenUrlsafe :
    tokenUrlsafe.run answers world = (.ok answers.tokenUrlsafe, world) :=
  Program.run_act (World.respond answers) Action.tokenUrlsafe world

/-- A nonce leaves the world alone. -/
@[simp] theorem run_drawNonce (fieldName : String) :
    (drawNonce fieldName).run answers world = (.ok (answers.nonce fieldName), world) :=
  Program.run_act (World.respond answers) (Action.nonce fieldName) world

/-- The quota section is `World.checkQuota`. -/
@[simp] theorem run_askQuota (tenantId : String) (usageType : UsageType) (limit : Nat)
    (today : String) :
    (askQuota tenantId usageType limit today).run answers world =
      world.checkQuota tenantId usageType limit today :=
  Program.run_act (World.respond answers) (Action.checkQuota tenantId usageType limit today) world

/-- Reading the memory leaves the world alone. -/
@[simp] theorem run_readUsage (tenantId : String) :
    (readUsage tenantId).run answers world = (.ok (world.dailyUsage tenantId), world) :=
  Program.run_act (World.respond answers) (Action.usage tenantId) world

/-- An execution is logged and leaves its documents. -/
@[simp] theorem run_execute (tenant : Tenant) (inputs : RunInputs) :
    (execute tenant inputs).run answers world =
      (answers.execute.result, world.afterExecute answers tenant.tenantId) :=
  Program.run_act (World.respond answers) (Action.execute tenant inputs) world

/-- A prompt augmentation calls the RAG pipeline. -/
@[simp] theorem run_augmentPrompt (tenantId : String) (prompt systemPrompt : Json) :
    (augmentPrompt tenantId prompt systemPrompt).run answers world =
      (answers.augmentPrompt world.chunks, world.log (.calledRag tenantId)) :=
  Program.run_act (World.respond answers) (Action.augmentPrompt tenantId prompt systemPrompt) world

/-- An ingest calls the RAG pipeline. -/
@[simp] theorem run_ragIngest (tenantId : String) (text documentId metadata : Json)
    (maxDocuments : Nat) :
    (ragIngest tenantId text documentId metadata maxDocuments).run answers world =
      ((answers.ragIngest world.chunks).1,
        { world.log (.calledRag tenantId) with chunks := (answers.ragIngest world.chunks).2 }) :=
  Program.run_act (World.respond answers)
    (Action.ragIngest tenantId text documentId metadata maxDocuments) world

/-- A query calls the RAG pipeline. -/
@[simp] theorem run_ragQuery (tenantId : String) (query topK : Json) :
    (ragQuery tenantId query topK).run answers world =
      (answers.ragQuery world.chunks, world.log (.calledRag tenantId)) :=
  Program.run_act (World.respond answers) (Action.ragQuery tenantId query topK) world

/-- A deletion calls the RAG pipeline. -/
@[simp] theorem run_ragDelete (tenantId : String) (documentId : Json) :
    (ragDelete tenantId documentId).run answers world =
      ((answers.ragDelete world.chunks).1,
        { world.log (.calledRag tenantId) with chunks := (answers.ragDelete world.chunks).2 }) :=
  Program.run_act (World.respond answers) (Action.ragDelete tenantId documentId) world

/-- Building the local client leaves the world alone. -/
@[simp] theorem run_localClient : localClient.run answers world = (answers.localClient, world) :=
  Program.run_act (World.respond answers) Action.localClient world

/-- Asking for the local model leaves the world alone. -/
@[simp] theorem run_localAvailable :
    localAvailable.run answers world = (answers.localAvailable, world) :=
  Program.run_act (World.respond answers) Action.localAvailable world

/-- A call of the local model is logged. -/
@[simp] theorem run_localChat (tenantId : String) (prompt systemPrompt : Json) :
    (localChat tenantId prompt systemPrompt).run answers world =
      (answers.localChat, world.log (.calledLlm tenantId answers.started)) :=
  Program.run_act (World.respond answers) (Action.localChat tenantId prompt systemPrompt) world

/-- A call of a cloud model is logged. -/
@[simp] theorem run_callLlm (tenantId : String) (prompt systemPrompt : Json) :
    (callLlm tenantId prompt systemPrompt).run answers world =
      (answers.callLlm, world.log (.calledLlm tenantId answers.started)) :=
  Program.run_act (World.respond answers) (Action.callLlm tenantId prompt systemPrompt) world

/-- A computation without actions leaves the world alone. -/
@[simp] theorem run_lift {α : Type} (computation : Except PyException α) :
    Routine.run (Program.lift computation) answers world = (computation, world) :=
  Program.run_lift _ computation world

/-- A routine that returns leaves the world alone. -/
@[simp] theorem run_pure {α : Type} (value : α) :
    Routine.run (pure value) answers world = (.ok value, world) := rfl

/-- A routine that raises leaves the world alone. -/
@[simp] theorem run_raise {α : Type} (exception : PyException) :
    Routine.run (Program.raise exception : Routine α) answers world =
      (.error exception, world) := rfl

/-- A sequence runs its first part and, when that returns, the rest on what it left. -/
theorem run_bind {α β : Type} (routine : Routine α) (rest : α → Routine β) :
    Routine.run (routine >>= rest) answers world =
      match routine.run answers world with
      | (.ok value, left) => (rest value).run answers left
      | (.error exception, left) => (.error exception, left) := by
  unfold Routine.run
  rw [Program.run_bind]
  cases Program.run (World.respond answers) routine world with
  | mk outcome left => cases outcome <;> rfl

/-- A guarded routine runs its handler, when it raises, on what it left. -/
theorem run_tryCatch {α : Type} (routine : Routine α) (handler : PyException → Routine α) :
    Routine.run (Program.tryCatch routine handler) answers world =
      match routine.run answers world with
      | (.ok value, left) => (.ok value, left)
      | (.error exception, left) => (handler exception).run answers left := by
  unfold Routine.run
  rw [Program.run_tryCatch]
  cases Program.run (World.respond answers) routine world with
  | mk outcome left => cases outcome <;> rfl

end Run

end VelaFlow.Process
