import VelaFlow.Pipeline.Records
import VelaFlow.Pipeline.Runs
import VelaFlow.Planner.Ranking
import VelaFlow.Queue.Charging

/-!
# Whose settings a digest follows

For a pipeline message the worker builds the settings of its tenant and runs a scheduler that was
built over the settings of the platform. The digest it stores follows the latter. It is the digest
its tenant's settings ask for when the two limits of top priorities come to the same for the tasks
of the run.
-/
namespace VelaFlow.Queue

open Pipeline Planner Process Storage Tenants

/-- `_build_tenant_settings`, the settings the planner reads. -/
def tenantSettings (settings : Planner.Settings) (tenant : Tenant) : Planner.Settings where
  todoistFocusLabel := settings.todoistFocusLabel
  todoistWeekendLabel := settings.todoistWeekendLabel
  defaultTaskDurationMinutes := settings.defaultTaskDurationMinutes
  dailyTopTaskLimit := tenant.config.dailyTopTaskLimit
  overdueSectionLimit := settings.overdueSectionLimit

/-- The key of a tenant's daily digest. -/
def digestKey (tenantId : String) : String := layerKey .gold tenantId "daily_digest.json"

section Execution

variable {scheduler : PipelineScheduler} {readings : Readings} {tenantId : String}
  {inputs : RunInputs} {storage : LocalStorage}

/-- What the silver layer hands on in an execution. -/
def cleanedBy (scheduler : PipelineScheduler) (readings : Readings) (tenantId : String)
    (inputs : RunInputs) (storage : LocalStorage) : Except PyException Cleaned :=
  let landed := ((bronzeBody readings tenantId inputs).on ⟨storage, []⟩).2
  ((silverBody scheduler.silver readings tenantId).on landed).1

/-- The batch of tasks an execution reads, after landing its own. -/
def batchRead (readings : Readings) (tenantId : String) (inputs : RunInputs)
    (storage : LocalStorage) : Option Dict :=
  let landed := ((bronzeBody readings tenantId inputs).on ⟨storage, []⟩).2
  (readLatest landed.storage tenantId .todoist).toOption.join

/-- Every key of a layer resolves into the layer. -/
theorem inDirectory_layerKey {layer : Layer} {name : String} {path : Path}
    (resolved : resolve (layerKey layer tenantId name) = .ok path) :
    InDirectory layer.name path := by
  have part : IsPart layer.name.toList := by cases layer <;> decide
  unfold layerKey at resolved
  rw [String.append_assoc, String.append_assoc] at resolved
  exact inDirectory_of_resolve part resolved

/-- The silver stage hands on the tasks of the batch that is read. -/
theorem ids_silverBody {layer : SilverLayer} {landed processed : Staging} {cleaned : Cleaned}
    (done : (silverBody layer readings tenantId).on landed = (.ok cleaned, processed)) :
    (cleaned.tasks.map Task.id).dedup.length =
      (batchTaskIds layer
        (readLatest landed.storage tenantId .todoist).toOption.join).dedup.length := by
  unfold silverBody at done
  obtain ⟨tasks, _, isTasks, done⟩ := Staged.on_bind_ok_iff.mp done
  obtain ⟨_, _, -, done⟩ := Staged.on_bind_ok_iff.mp done
  obtain ⟨_, _, -, done⟩ := Staged.on_bind_ok_iff.mp done
  cases done
  show (tasks.map Task.id).dedup.length = _
  unfold processLatest at isTasks
  obtain ⟨batch, middle, read, isTasks⟩ := Staged.on_bind_ok_iff.mp isTasks
  rw [Staged.on_latestBatch] at read
  obtain ⟨found, rfl⟩ := Prod.mk.inj read
  rw [found]
  cases batch with
  | none =>
    cases isTasks
    rfl
  | some bronze =>
    show _ = (batchTaskIds layer (some bronze)).dedup.length
    by_cases filled : Dict.truthy bronze = true
    · simp only [if_pos filled] at isTasks
      obtain ⟨cleaned, _, isCleaned, saved⟩ := Staged.on_bind_ok_iff.mp isTasks
      obtain ⟨_, _, -, same⟩ := Staged.on_bind_ok_iff.mp saved
      cases same
      exact ids_cleanTasks (Prod.mk.inj isCleaned).1
    · simp only [if_neg filled] at isTasks
      cases isTasks
      have empty : bronze = [] := by simpa [Dict.truthy] using filled
      subst empty
      rfl

/-- What a completed execution cleans, the digest it makes of it, and where it stores it. -/
theorem digest_stored {run : PipelineRun}
    (result : (scheduler.execution readings tenantId inputs storage).result = .ok run)
    (completed : run.status = "completed") :
    ∃ cleaned digest path, cleanedBy scheduler readings tenantId inputs storage = .ok cleaned ∧
      (cleaned.tasks.map Task.id).dedup.length = (batchTaskIds scheduler.silver
        (batchRead readings tenantId inputs storage)).dedup.length ∧
      scheduler.digestUnder readings scheduler.settings cleaned = .ok digest ∧
      resolve (digestKey tenantId) = .ok path ∧
      (World.writeLayers storage tenantId
        (scheduler.execution readings tenantId inputs storage).written).lookup path =
          some (dailyDigestDocument tenantId readings.digestAt digest) := by
  obtain ⟨more, log, stored⟩ :=
    @PipelineScheduler.logs_execute scheduler readings tenantId inputs ⟨storage, []⟩
  rw [PipelineScheduler.execution_eq] at result ⊢
  show ∃ cleaned digest path, _ ∧ _ ∧ _ ∧ _ ∧ (World.writeLayers storage tenantId
    ((scheduler.execute readings tenantId inputs).on ⟨storage, []⟩).2.written).lookup path = _
  rw [log, List.nil_append, ← stored]
  cases ran : (scheduler.execute readings tenantId inputs).on ⟨storage, []⟩ with
  | mk outcome left =>
    rw [ran] at result
    cases outcome with
    | error exception => cases result
    | ok staged =>
      obtain rfl := Except.ok.inj result
      have status : staged.status = .completed := by
        cases is : staged.status with
        | completed => rfl
        | failed =>
          simp only [is] at completed
          exact absurd completed (by decide)
      obtain ⟨ended, ⟨stages, -⟩, persisted⟩ :=
        PipelineScheduler.execute_completed_iff.mp ⟨ran, status⟩
      obtain ⟨count, landed, cleaned, processed, scored, ranked, bronze, silver, -, digested, -⟩ :=
        PipelineScheduler.runStages_completed_iff.mp ⟨stages, status⟩
      obtain ⟨digest, _, built, saved⟩ := Staged.on_bind_ok_iff.mp digested
      obtain ⟨isDigest, -⟩ := Prod.mk.inj built
      obtain ⟨path, resolved, rfl⟩ := Staged.on_save_ok saved
      obtain ⟨recordPath, recordResolved, rfl⟩ := Staged.on_save_ok persisted
      refine ⟨cleaned, digest, path, ?_, ?_, isDigest, resolved, ?_⟩
      · unfold cleanedBy
        rw [bronze]
        simp only [silver]
      · unfold batchRead
        rw [bronze]
        exact ids_silverBody silver
      · have apart : path ≠ recordPath := by
          rintro rfl
          have one := inDirectory_layerKey resolved
          have other := inDirectory_layerKey recordResolved
          exact absurd (one.eq other) (by decide)
        show ((_ : LocalStorage).put recordPath _).lookup path = _
        rw [LocalStorage.lookup_put_ne _ _ apart]
        exact LocalStorage.lookup_put_self _ path _

end Execution

section Message

variable {worker : QueueWorker} {message : QueueMessage} {answers : Answers} {world : World}
  {tenant : Tenant}

/-- A pipeline message that starts an execution starts it on the storage as it was. -/
theorem run_of_starts (pipeline : message.messageType = .pipelineRun)
    (found : storedTenant worker.tenantMgr (answers.clock .record) world message.tenantId =
      .ok (some tenant))
    (starts : world.tally startsWork <
      ((handler worker message).run answers world).2.tally startsWork) :
    ∃ admitted : World, admitted.storage = world.storage ∧
      (handler worker message).run answers world =
        (runPipeline message tenant).run answers admitted := by
  have charged : chargedTo message.messageType = some .pipelineRun := by
    rw [pipeline]
    rfl
  rw [run_handler_of_chargedTo charged, found] at starts ⊢
  simp only at starts ⊢
  by_cases expired : message.messageType ≠ .digestGenerate ∧
      tenant.demoExpired (answers.clock .expiry) = true
  · rw [if_pos expired, tally_recordResult] at starts
    exact absurd starts (lt_irrefl _)
  · rw [if_neg expired] at starts ⊢
    by_cases spent : quotaSpent tenant .pipelineRun answers world = true
    · rw [tally_withinQuota_of_spent spent] at starts
      exact absurd starts (lt_irrefl _)
    · rw [run_withinQuota_of_left spent] at starts ⊢
      obtain ⟨dailyUsage, frame⟩ := World.checkQuota_frame world tenant.tenantId .pipelineRun
        (UsageType.limit tenant.quota .pipelineRun) (quotaDay answers)
      rw [frame] at starts ⊢
      have same : ({ world with dailyUsage } : World).tally startsWork =
          world.tally startsWork := rfl
      have work : admittedWork worker message tenant = pipelineWork worker message tenant := by
        unfold admittedWork
        rw [pipeline]
      rw [work, ← same] at starts
      rw [work]
      refine ⟨{ world with dailyUsage }, rfl, ?_⟩
      have conditions := starts_pipelineWork.mp starts
      unfold pipelineWork
      rw [run_bind, run_overDemoCap]
      cases cap : demoCapExceeded { world with dailyUsage } tenant message.tenantId with
      | error exception =>
        rw [cap] at conditions
        cases conditions
      | ok exceeded =>
        rw [cap] at conditions
        cases exceeded with
        | true => cases conditions
        | false =>
          simp only [Bool.false_eq_true, if_false, run_bind, run_lift]
          cases settings : buildTenantSettings worker.tenantMgr tenant with
          | error exception =>
            rw [settings] at conditions
            cases conditions
          | ok built => rfl

/-- A pipeline message of a customer with a unit left starts an execution, when the credentials
decrypt. -/
theorem starts_of_left (pipeline : message.messageType = .pipelineRun)
    (found : storedTenant worker.tenantMgr (answers.clock .record) world message.tenantId =
      .ok (some tenant)) (customer : tenant.isDemo = false)
    (left : quotaSpent tenant .pipelineRun answers world = false)
    (decrypts : (buildTenantSettings worker.tenantMgr tenant).isOk = true) :
    world.tally startsWork < ((handler worker message).run answers world).2.tally startsWork := by
  have charged : chargedTo message.messageType = some .pipelineRun := by
    rw [pipeline]
    rfl
  have current : ¬ (message.messageType ≠ .digestGenerate ∧
      tenant.demoExpired (answers.clock .expiry) = true) := by
    rintro ⟨-, expired⟩
    unfold Tenant.demoExpired at expired
    rw [customer] at expired
    cases expired
  have work : admittedWork worker message tenant = pipelineWork worker message tenant := by
    unfold admittedWork
    rw [pipeline]
  have unspent : ¬ quotaSpent tenant .pipelineRun answers world = true := by
    rw [left]
    exact Bool.false_ne_true
  obtain ⟨dailyUsage, frame⟩ := World.checkQuota_frame world tenant.tenantId .pipelineRun
    (UsageType.limit tenant.quota .pipelineRun) (quotaDay answers)
  rw [run_handler_of_chargedTo charged, found]
  simp only
  rw [if_neg current, run_withinQuota_of_left unspent, frame, work]
  have same : ({ world with dailyUsage } : World).tally startsWork = world.tally startsWork := rfl
  rw [← same]
  apply starts_pipelineWork.mpr
  unfold demoCapExceeded
  rw [customer, decrypts]
  rfl

/-- A key of the tenants' directory is no path elsewhere. -/
theorem resolve_ne_of_elsewhere {rest : String} {path : Path}
    (elsewhere : ¬ InDirectory "tenants" path) : resolve ("tenants/" ++ rest) ≠ .ok path := by
  intro resolved
  rw [show "tenants/" = "tenants" ++ "/" from by decide] at resolved
  exact elsewhere (inDirectory_of_resolve (by decide) resolved)

/-- After an execution that returned, the documents outside the tenants' directory are those the
execution left. -/
theorem lookup_runPipeline {admitted : World} {run : PipelineRun} {path : Path}
    (returned : answers.execute.result = .ok run) (elsewhere : ¬ InDirectory "tenants" path) :
    ((runPipeline message tenant).run answers admitted).2.storage.lookup path =
      (World.writeLayers admitted.storage tenant.tenantId answers.execute.written).lookup path := by
  have usageKey : resolve (dailyUsageKey message.tenantId) ≠ .ok path := by
    unfold dailyUsageKey
    rw [String.append_assoc]
    exact resolve_ne_of_elsewhere elsewhere
  have resultKey : resolve (jobResultKey message.tenantId message.messageId) ≠ .ok path := by
    unfold jobResultKey
    rw [String.append_assoc, String.append_assoc, String.append_assoc]
    exact resolve_ne_of_elsewhere elsewhere
  have recorded : ∀ (world : World) (result : Dict),
      ((storeJobResult message result).run answers world).2.storage.lookup path =
        world.storage.lookup path := by
    intro world result
    rw [run_storeJobResult]
    exact world.lookup_writeJson_ne resultKey result
  have executed : (World.afterExecute admitted answers tenant.tenantId).storage =
      World.writeLayers admitted.storage tenant.tenantId answers.execute.written := rfl
  unfold runPipeline
  rw [run_bind, run_execute, returned, ← executed]
  show ((persistUsage message.tenantId >>= fun _ => storeJobResult message _ : Routine Unit).run
    answers (World.afterExecute admitted answers tenant.tenantId)).2.storage.lookup path = _
  rw [run_bind, run_persistUsage]
  unfold persisted
  cases (World.afterExecute admitted answers tenant.tenantId).dailyUsage message.tenantId with
  | none => simp only [recorded]
  | some usage =>
    have kept := World.lookup_writeJson_ne (World.afterExecute admitted answers tenant.tenantId)
      usageKey usage
    cases wrote : World.writeJson (World.afterExecute admitted answers tenant.tenantId)
        (dailyUsageKey message.tenantId) usage with
    | mk outcome left =>
      rw [wrote] at kept
      simp only [wrote]
      cases outcome with
      | error exception => exact kept
      | ok done =>
        simp only [recorded]
        exact kept

end Message

/-- The daily digest that a message left in storage is the one its tenant's settings ask for. -/
structure FollowsTenant (scheduler : PipelineScheduler) (readings : Readings) (tenant : Tenant)
    (cleaned : Cleaned) (storage : LocalStorage) : Prop where
  /-- The stored digest lists at most the tenant's number of top priorities. -/
  limited : ∃ ranked, scheduler.rank readings false cleaned.tasks = .ok ranked ∧
    storage.readJson (digestKey tenant.tenantId) = .ok (some (dailyDigestDocument tenant.tenantId
      readings.digestAt (renderDaily scheduler.silver.library.repr scheduler.settings readings.today
        (sections scheduler.settings readings.today ranked) cleaned.events cleaned.emails))) ∧
    ((sections scheduler.settings readings.today ranked).top.length : Int) ≤
      tenant.config.dailyTopTaskLimit
  /-- It is the digest under the settings built for the tenant. -/
  same : ∃ digest, scheduler.digestUnder readings (tenantSettings scheduler.settings tenant)
      cleaned = .ok digest ∧
    storage.readJson (digestKey tenant.tenantId) =
      .ok (some (dailyDigestDocument tenant.tenantId readings.digestAt digest))

/-- A digest is known by its document. -/
theorem dailyDigestDocument_inj {tenantId : String} {producedAt : DateTime}
    {first second : DigestResult}
    (same : dailyDigestDocument tenantId producedAt first =
      dailyDigestDocument tenantId producedAt second) : first = second := by
  obtain ⟨subject, bodyText⟩ := first
  obtain ⟨otherSubject, otherBody⟩ := second
  unfold dailyDigestDocument at same
  simp only [List.cons.injEq, Prod.mk.injEq, true_and, and_true, Json.str.injEq] at same
  obtain ⟨rfl, rfl⟩ := same
  rfl

/-- The digest a pipeline message leaves is the one its tenant's settings ask for exactly when the
limit of the tenant is not negative and comes, for the tasks of the batch, to the same number as the
limit of the platform. -/
theorem follows_tenant_iff {worker : QueueWorker} {message : QueueMessage} {answers : Answers}
    {world : World} {tenant : Tenant} {scheduler : PipelineScheduler} {readings : Readings}
    {run : PipelineRun} {cleaned : Cleaned} (pipeline : message.messageType = .pipelineRun)
    (found : storedTenant worker.tenantMgr (answers.clock .record) world message.tenantId =
      .ok (some tenant))
    (starts : world.tally startsWork <
      ((handler worker message).run answers world).2.tally startsWork)
    (executes : answers.execute = scheduler.execution readings tenant.tenantId
      (pipelineInputs message.payload) world.storage)
    (returned : answers.execute.result = .ok run) (completed : run.status = "completed")
    (cleans : cleanedBy scheduler readings tenant.tenantId (pipelineInputs message.payload)
      world.storage = .ok cleaned) :
    FollowsTenant scheduler readings tenant cleaned
        ((handler worker message).run answers world).2.storage ↔
      0 ≤ tenant.config.dailyTopTaskLimit ∧
        min scheduler.settings.dailyTopTaskLimit.toNat
          (batchTaskIds scheduler.silver (batchRead readings tenant.tenantId
            (pipelineInputs message.payload) world.storage)).dedup.length =
        min tenant.config.dailyTopTaskLimit.toNat
          (batchTaskIds scheduler.silver (batchRead readings tenant.tenantId
            (pipelineInputs message.payload) world.storage)).dedup.length := by
  obtain ⟨admitted, unchanged, ran⟩ := run_of_starts pipeline found starts
  have result := returned
  rw [executes] at result
  obtain ⟨handed, digest, path, isHanded, ids, built, resolved, stored⟩ :=
    digest_stored result completed
  rw [cleans] at isHanded
  obtain rfl := Except.ok.inj isHanded
  have elsewhere : ¬ InDirectory "tenants" path := by
    intro inside
    have gold := inDirectory_layerKey resolved
    exact absurd (gold.eq inside) (by decide)
  have held : ((handler worker message).run answers world).2.storage.readJson
      (digestKey tenant.tenantId) =
        .ok (some (dailyDigestDocument tenant.tenantId readings.digestAt digest)) := by
    unfold LocalStorage.readJson
    rw [resolved, ran]
    refine congrArg Except.ok ?_
    rw [lookup_runPipeline returned elsewhere, unchanged, executes]
    exact stored
  obtain ⟨ranked, isRanked, rendered⟩ := bind_ok_iff.mp built
  have count : (sections scheduler.settings readings.today ranked).top.length =
      topCount scheduler.settings.dailyTopTaskLimit cleaned.tasks := length_top isRanked
  have limits : scheduler.digestUnder readings scheduler.settings cleaned =
        scheduler.digestUnder readings (tenantSettings scheduler.settings tenant) cleaned ↔
      topCount scheduler.settings.dailyTopTaskLimit cleaned.tasks =
        topCount tenant.config.dailyTopTaskLimit cleaned.tasks :=
    buildDailyDigest_limit_iff tenant.config.dailyTopTaskLimit isRanked
  unfold topCount at count limits
  rw [ids] at count limits
  rw [← limits]
  have shown : digest = renderDaily scheduler.silver.library.repr scheduler.settings readings.today
      (sections scheduler.settings readings.today ranked) cleaned.events cleaned.emails := by
    cases rendered
    rfl
  constructor
  · rintro ⟨⟨other, isOther, -, few⟩, asked, isAsked, same⟩
    have one : ranked = other := Except.ok.inj (isRanked.symm.trans isOther)
    subst one
    rw [held] at same
    have documents := dailyDigestDocument_inj (Option.some.inj (Except.ok.inj same))
    refine ⟨le_trans (Int.natCast_nonneg _) few, ?_⟩
    rw [built, isAsked, documents]
  · rintro ⟨positive, same⟩
    refine ⟨⟨ranked, isRanked, shown ▸ held, ?_⟩, digest, same.symm.trans built, held⟩
    rw [count, limits.mp same]
    calc ((min tenant.config.dailyTopTaskLimit.toNat _ : Nat) : Int)
        ≤ (tenant.config.dailyTopTaskLimit.toNat : Int) := by exact_mod_cast Nat.min_le_left _ _
      _ = tenant.config.dailyTopTaskLimit := Int.toNat_of_nonneg positive

section Sample

/-- A standard library that parses nothing. -/
def plainLibrary : TextLibrary where
  repr _ := ""
  lower := id
  parseInt _ := none
  dateFromIsoformat _ := none
  datetimeFromIsoformat _ := none
  sha256 := id

/-- A scheduler over the default settings. -/
def plainScheduler : PipelineScheduler := ⟨⟨plainLibrary, ⟨[]⟩⟩, {}⟩

/-- Clocks that show noon of the first day. -/
def noonReadings : Readings where
  today := dayOne.date
  runId := dayOne
  startedAt := dayOne
  completedAt := dayOne
  durationMs := 0
  elapsedMs _ := 0
  landed _ := dayOne
  utc _ := rfl
  ingestedAt _ := dayOne
  processedAt _ := dayOne
  scoredAt := dayOne
  digestAt := dayOne

/-- A raw task. -/
def rawTask (id : String) : Json := .obj [("id", .str id), ("content", .str "x")]

/-- A pipeline message with raw tasks. -/
def pipelineMessage (rawTasks : List Json) : QueueMessage :=
  { sampleMessage .pipelineRun with payload := [("todoist_tasks", .arr rawTasks)] }

/-- What a sample execution does on the world that has one tenant stored. -/
def plainExecution (tenant : Tenant) (rawTasks : List Json) : Execution :=
  plainScheduler.execution noonReadings tenant.tenantId
    (pipelineInputs (pipelineMessage rawTasks).payload) (storedWorld tenant).storage

/-- Answers at noon, with the sample execution. -/
def executionAnswers (tenant : Tenant) (rawTasks : List Json) : Answers :=
  { sampleAnswers dayOne with execute := plainExecution tenant rawTasks }

/-- A result of a completed run is one. -/
theorem completed_of_status {result : Except PyException PipelineRun}
    (status : (result.toOption.map PipelineRun.status) = some "completed") :
    ∃ run, result = .ok run ∧ run.status = "completed" := by
  cases result with
  | error exception => cases status
  | ok run => exact ⟨run, rfl, Option.some.inj status⟩

/-- What the sample execution cleans. -/
def sampleCleaned (tenant : Tenant) (rawTasks : List Json) : Except PyException Cleaned :=
  cleanedBy plainScheduler noonReadings tenant.tenantId
    (pipelineInputs (pipelineMessage rawTasks).payload) (storedWorld tenant).storage

/-- The world after the message is handled. -/
def handledWorld (tenant : Tenant) (rawTasks : List Json) : World :=
  ((handler sampleWorker (pipelineMessage rawTasks)).run (executionAnswers tenant rawTasks)
    (storedWorld tenant)).2

/-- The sample message of a customer with a unit left starts an execution. -/
theorem starts_handled (tenant : Tenant) (rawTasks : List Json) (named : tenant.tenantId = "tn_a")
    (aligned : tenant.postInit = tenant) (customer : tenant.isDemo = false)
    (left : quotaSpent tenant .pipelineRun (executionAnswers tenant rawTasks)
      (storedWorld tenant) = false)
    (decrypts : (buildTenantSettings sampleWorker.tenantMgr tenant).isOk = true) :
    (storedWorld tenant).tally startsWork < (handledWorld tenant rawTasks).tally startsWork :=
  starts_of_left rfl (storedTenant_storedWorld tenant named aligned dayOne) customer left decrypts

/-- The digest of one task follows a tenant with the limit of the platform. -/
theorem follows_one : ∃ cleaned, sampleCleaned sampleTenant [rawTask "1"] = .ok cleaned ∧
    FollowsTenant plainScheduler noonReadings sampleTenant cleaned
      (handledWorld sampleTenant [rawTask "1"]).storage := by
  have status : (plainExecution sampleTenant [rawTask "1"]).result.toOption.map
      PipelineRun.status = some "completed" := by decide +kernel
  obtain ⟨run, returned, completed⟩ := completed_of_status status
  obtain ⟨cleaned, _, _, cleans, -⟩ := @digest_stored plainScheduler noonReadings
    sampleTenant.tenantId (pipelineInputs (pipelineMessage [rawTask "1"]).payload)
    (storedWorld sampleTenant).storage run returned completed
  have starts := starts_handled sampleTenant [rawTask "1"] rfl (by decide +kernel) rfl
    (by decide +kernel) (by decide +kernel)
  have found := storedTenant_storedWorld sampleTenant rfl (by decide +kernel) dayOne
  exact ⟨cleaned, cleans, (@follows_tenant_iff sampleWorker (pipelineMessage [rawTask "1"])
    (executionAnswers sampleTenant [rawTask "1"]) (storedWorld sampleTenant) sampleTenant
    plainScheduler noonReadings run cleaned rfl found starts rfl returned completed cleans).mpr
      ⟨by decide, rfl⟩⟩

/-- A tenant that wants one top priority. -/
def terseTenant : Tenant := { sampleTenant with config := { dailyTopTaskLimit := 1 } }

/-- The digest of two tasks is executed for a tenant that wants one top priority, and lists two. -/
theorem terse_digest_ignored :
    (storedWorld terseTenant).tally startsWork <
        (handledWorld terseTenant [rawTask "1", rawTask "2"]).tally startsWork ∧
      ∃ cleaned, sampleCleaned terseTenant [rawTask "1", rawTask "2"] = .ok cleaned ∧
        ¬ FollowsTenant plainScheduler noonReadings terseTenant cleaned
          (handledWorld terseTenant [rawTask "1", rawTask "2"]).storage := by
  have starts := starts_handled terseTenant [rawTask "1", rawTask "2"] rfl (by decide +kernel) rfl
    (by decide +kernel) (by decide +kernel)
  refine ⟨starts, ?_⟩
  have ids : (sampleCleaned terseTenant [rawTask "1", rawTask "2"]).toOption.map
      (fun cleaned => cleaned.tasks.map Task.id) = some ["1", "2"] := by decide +kernel
  cases cleans : sampleCleaned terseTenant [rawTask "1", rawTask "2"] with
  | error exception =>
    rw [cleans] at ids
    cases ids
  | ok cleaned =>
    rw [cleans] at ids
    have two : cleaned.tasks.map Task.id = ["1", "2"] := Option.some.inj ids
    refine ⟨cleaned, rfl, ?_⟩
    rintro ⟨⟨ranked, isRanked, -, few⟩, -⟩
    have count : (sections plainScheduler.settings noonReadings.today ranked).top.length =
      topCount plainScheduler.settings.dailyTopTaskLimit cleaned.tasks := length_top isRanked
    unfold topCount at count
    rw [two] at count
    rw [count] at few
    exact absurd few (by decide)

end Sample

end VelaFlow.Queue
