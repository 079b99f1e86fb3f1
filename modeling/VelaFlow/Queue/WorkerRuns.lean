import VelaFlow.Process.Effects
import VelaFlow.Queue.Worker

/-!
# Runs of the handlers

What the parts of the handlers do from a given world under given answers. A handler looks its
tenant up, gates the message, and only then works; the lemmas follow these three parts.
-/
namespace VelaFlow.Queue

open Process Tenants

variable (worker : QueueWorker) (answers : Answers) (world : World) (message : QueueMessage)

/-- The tenant a world has stored under an id. -/
def storedTenant (manager : TenantManager) (recorded : DateTime) (world : World)
    (tenantId : String) : Except PyException (Option Tenant) :=
  match world.storage.readJson (tenantKey tenantId) with
  | .error exception => .error exception
  | .ok none => .ok none
  | .ok (some data) => (fromDict manager.encryptor recorded data).map some

/-- Looking a tenant up leaves the world alone. -/
@[simp] theorem run_getTenant (manager : TenantManager) (tenantId : String) :
    (manager.getTenant tenantId).run answers world =
      (storedTenant manager (answers.clock .record) world tenantId, world) := by
  unfold TenantManager.getTenant storedTenant
  rw [run_bind, run_readJson]
  cases world.storage.readJson (tenantKey tenantId) with
  | error exception => rfl
  | ok data =>
    cases data with
    | none => rfl
    | some data =>
      simp only [run_bind, run_now, run_lift]
      cases fromDict manager.encryptor (answers.clock .record) data <;> rfl

/-- The expiry check leaves the world alone. -/
@[simp] theorem run_isDemoExpired (tenant : Tenant) :
    (isDemoExpired tenant).run answers world =
      (.ok (tenant.demoExpired (answers.clock .expiry)), world) := by
  unfold isDemoExpired Tenant.demoExpired
  cases tenant.isDemo with
  | false => rfl
  | true =>
    cases tenant.demoExpiresAt with
    | none => rfl
    | some expires => simp [run_bind]

/-- The quota check is its locked section. -/
@[simp] theorem run_checkQuota (tenant : Tenant) (usageType : UsageType) :
    (checkQuota tenant usageType).run answers world =
      world.checkQuota tenant.tenantId usageType (usageType.limit tenant.quota)
        (answers.clock .quota).dayKey := by
  simp [checkQuota, run_bind]

/-- Storing a job result writes its document. -/
@[simp] theorem run_storeJobResult (result : Dict) :
    (storeJobResult message result).run answers world =
      world.writeJson (jobResultKey message.tenantId message.messageId) result := by
  simp [storeJobResult]

/-- What `_persist_usage` does to a world. -/
def persisted (world : World) (tenantId : String) : Except PyException Unit × World :=
  match world.dailyUsage tenantId with
  | none => (.ok (), world)
  | some usage => world.writeJson (dailyUsageKey tenantId) usage

/-- Persisting writes what memory holds of the tenant. -/
@[simp] theorem run_persistUsage (tenantId : String) :
    (persistUsage tenantId).run answers world = persisted world tenantId := by
  unfold persistUsage persisted
  rw [run_bind, run_readUsage]
  cases usage : world.dailyUsage tenantId with
  | none => rfl
  | some usage => simp

/-- Whether the demo cost cap is exceeded, or the exception of a count that is no number. -/
def demoCapExceeded (world : World) (tenant : Tenant) (tenantId : String) :
    Except PyException Bool :=
  if tenant.isDemo then
    match (((world.dailyUsage tenantId).getD []).getD "pipeline_runs" (.int 0)).number? with
    | none => .error (.typeError "pipeline_runs")
    | some runs => .ok (decide ((tenant.demoCostCapPipeline : ℚ) < runs))
  else .ok false

/-- The cost cap check leaves the world alone. -/
@[simp] theorem run_overDemoCap (tenant : Tenant) (tenantId : String) :
    (overDemoCap tenant tenantId).run answers world =
      (demoCapExceeded world tenant tenantId, world) := by
  unfold overDemoCap demoCapExceeded
  cases tenant.isDemo with
  | false => rfl
  | true =>
    simp only [if_true, run_bind, run_readUsage]
    cases (((world.dailyUsage tenantId).getD []).getD "pipeline_runs" (.int 0)).number? <;> rfl

/-- A handler works on the tenant that is stored, when one is. -/
theorem run_withTenant (work : Tenant → Routine Unit) :
    (withTenant worker message work).run answers world =
      match storedTenant worker.tenantMgr (answers.clock .record) world message.tenantId with
      | .error exception => (.error exception, world)
      | .ok none => (.ok (), world)
      | .ok (some tenant) => (work tenant).run answers world := by
  unfold withTenant
  rw [run_bind, run_getTenant]
  cases storedTenant worker.tenantMgr (answers.clock .record) world message.tenantId with
  | error exception => rfl
  | ok stored => cases stored <;> rfl

/-- An expired demo is refused. -/
theorem run_unlessExpired (tenant : Tenant) (work : Routine Unit) :
    (unlessExpired message tenant work).run answers world =
      if tenant.demoExpired (answers.clock .expiry) then
        world.writeJson (jobResultKey message.tenantId message.messageId) demoExpiredResult
      else work.run answers world := by
  unfold unlessExpired
  rw [run_bind, run_isDemoExpired]
  cases tenant.demoExpired (answers.clock .expiry) with
  | false => rfl
  | true => exact run_storeJobResult answers world message demoExpiredResult

/-- A message beyond the quota is refused, one within it is charged and worked on. -/
theorem run_withinQuota (tenant : Tenant) (usageType : UsageType) (refusal : Dict)
    (work : Routine Unit) :
    (withinQuota message tenant usageType refusal work).run answers world =
      match world.checkQuota tenant.tenantId usageType (usageType.limit tenant.quota)
        (answers.clock .quota).dayKey with
      | (.error exception, left) => (.error exception, left)
      | (.ok true, left) => work.run answers left
      | (.ok false, left) =>
        left.writeJson (jobResultKey message.tenantId message.messageId) refusal := by
  unfold withinQuota
  rw [run_bind, run_checkQuota]
  cases world.checkQuota tenant.tenantId usageType (usageType.limit tenant.quota)
    (answers.clock .quota).dayKey with
  | mk outcome left =>
    cases outcome with
    | error exception => rfl
    | ok admitted => cases admitted <;> simp

/-- A service that is not connected is refused; else the credentials are decrypted first. -/
theorem run_withConnection (tenant : Tenant) (token notConnected : String) (done : Dict) :
    (withConnection worker message tenant token notConnected done).run answers world =
      if token = "" then
        world.writeJson (jobResultKey message.tenantId message.messageId)
          (errorResult "error" notConnected)
      else
        match buildTenantSettings worker.tenantMgr tenant with
        | .error exception => (.error exception, world)
        | .ok _ => world.writeJson (jobResultKey message.tenantId message.messageId) done := by
  unfold withConnection
  split
  · exact run_storeJobResult answers world message _
  · simp only [run_bind, run_lift]
    cases buildTenantSettings worker.tenantMgr tenant with
    | error exception => rfl
    | ok settings => exact run_storeJobResult answers world message done

/-- The day on which the quota is asked. -/
def quotaDay (answers : Answers) : String := (answers.clock .quota).dayKey

/-- Whether no unit of the tenant's quota is left. -/
def quotaSpent (tenant : Tenant) (usageType : UsageType) (answers : Answers) (world : World) :
    Bool :=
  !world.hasQuota tenant.tenantId usageType (usageType.limit tenant.quota) (quotaDay answers)

section Quota

variable {message : QueueMessage} {tenant : Tenant} {answers : Answers} {world : World}

/-- A charge stays in memory when the work that follows leaves the memory alone. -/
theorem dailyUsage_withinQuota {usageType : UsageType} {refusal : Dict} {work : Routine Unit}
    {usage : Dict}
    (admits : world.checkQuota tenant.tenantId usageType (usageType.limit tenant.quota)
      (quotaDay answers) = (.ok true, world.charge tenant.tenantId usageType usage))
    (keeps : ∀ left, (work.run answers left).2.dailyUsage = left.dailyUsage) :
    ((withinQuota message tenant usageType refusal work).run answers world).2.dailyUsage =
      (world.charge tenant.tenantId usageType usage).dailyUsage := by
  rw [run_withinQuota]
  unfold quotaDay at admits
  rw [admits]
  exact keeps _

/-- A message within the quota is charged. -/
theorem exists_charge_of_not_spent {usageType : UsageType}
    (left : ¬ quotaSpent tenant usageType answers world = true) :
    ∃ usage number, world.currentUsage tenant.tenantId (quotaDay answers) = .ok usage ∧
      countIn usage usageType = some number ∧
      world.checkQuota tenant.tenantId usageType (usageType.limit tenant.quota)
        (quotaDay answers) = (.ok true, world.charge tenant.tenantId usageType usage) := by
  have some : world.hasQuota tenant.tenantId usageType (usageType.limit tenant.quota)
      (quotaDay answers) = true := by simpa [quotaSpent] using left
  obtain ⟨usage, number, current, counts, -, admits⟩ := World.checkQuota_of_hasQuota some
  exact ⟨usage, number, current, counts, admits⟩

end Quota

section Sample

/-- Noon of a day of January 2025, in UTC. -/
def noon (day : Nat) (valid : 1 ≤ day ∧ day ≤ 31) : DateTime where
  date := ⟨2025, 1, day, Date.valid_january valid⟩
  hour := 12
  minute := 0
  second := 0
  microsecond := 0
  offset := some 0
  valid := DateTime.valid_noon

/-- The first day of the samples. -/
def dayOne : DateTime := noon 1 (by decide)

/-- A worker whose ciphers leave the plaintext as it is. -/
def sampleWorker : QueueWorker where
  tenantMgr :=
    { encryptor := ⟨fun _ plaintext _ _ => plaintext, fun encrypted _ _ => .ok encrypted⟩
      cred := ⟨fun _ plaintext _ _ _ => plaintext, fun encrypted _ _ _ => .ok encrypted⟩
      sha256 := id }
  str _ := ""

/-- A tenant. -/
def sampleTenant : Tenant where
  tenantId := "tn_a"
  name := "A"
  email := "a@a"
  tier := .standard
  role := "standard"
  apiKey := "key"
  createdAt := dayOne

/-- The world that has one tenant stored and nothing else. -/
def storedWorld (tenant : Tenant) : World :=
  (World.writeJson { storage := .empty } (tenantKey tenant.tenantId)
    (toDict sampleWorker.tenantMgr.encryptor sampleWorker.tenantMgr.sha256 "" tenant)).2

/-- The sample cipher gives a stored key back. -/
theorem readApiKey_sample (tenant : Tenant) :
    readApiKey sampleWorker.tenantMgr.encryptor
      (toDict sampleWorker.tenantMgr.encryptor sampleWorker.tenantMgr.sha256 "" tenant) =
        tenant.apiKey := by
  have stored : (toDict sampleWorker.tenantMgr.encryptor sampleWorker.tenantMgr.sha256 ""
      tenant).getD "api_key_encrypted" .null = .str tenant.apiKey := by
    by_cases empty : tenant.apiKey = ""
    · rw [empty]
      simp [toDict, Dict.getD, empty]
    · simp [toDict, Dict.getD, empty, sampleWorker]
  unfold readApiKey
  rw [stored]
  by_cases empty : tenant.apiKey = ""
  · rw [empty]
    rfl
  · simp only [Json.truthy, empty, ne_eq, not_false_eq_true, decide_true, if_true]
    rfl

/-- The path of the sample tenant's record. -/
def samplePath : Storage.Path := ⟨["tenants".toList, "tn_a.json".toList], by decide⟩

/-- The key of the sample tenant resolves. -/
theorem resolve_sample : Storage.resolve (tenantKey "tn_a") = .ok samplePath :=
  Storage.resolve_eq_ok (by decide +kernel)

/-- The tenant of a world that has one stored. -/
theorem storedTenant_storedWorld (tenant : Tenant) (named : tenant.tenantId = "tn_a")
    (aligned : tenant.postInit = tenant) (recorded : DateTime) :
    storedTenant sampleWorker.tenantMgr recorded (storedWorld tenant) "tn_a" =
      .ok (some tenant) := by
  have held : (storedWorld tenant).storage.readJson (tenantKey "tn_a") =
      .ok (some (toDict sampleWorker.tenantMgr.encryptor sampleWorker.tenantMgr.sha256 ""
        tenant)) := by
    simp [storedWorld, named, World.writeJson, Storage.LocalStorage.writeJson,
      Storage.LocalStorage.readJson, resolve_sample, Except.map]
  unfold storedTenant
  rw [held]
  simp only [fromDict_toDict, readApiKey_sample, aligned, Except.map]

/-- Answers at a given time from services that all succeed. -/
def sampleAnswers (time : DateTime) : Answers where
  clock _ := time
  started := time
  tokenHex := "0"
  tokenUrlsafe := "key"
  nonce _ := ""
  execute := ⟨[], .ok ⟨"run_1", "completed", 0⟩⟩
  augmentPrompt _ := .ok ""
  ragIngest chunks := (.ok 0, chunks)
  ragQuery _ := .ok []
  ragDelete chunks := (.ok 0, chunks)
  localClient := .ok ()
  localAvailable := .ok false
  localChat := .ok none
  callLlm := .ok (some "answer")

/-- A message for the sample tenant. -/
def sampleMessage (messageType : MessageType) : QueueMessage where
  messageId := "m1"
  messageType := messageType
  tenantId := "tn_a"

end Sample

end VelaFlow.Queue
