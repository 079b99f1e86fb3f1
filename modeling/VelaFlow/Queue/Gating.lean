import Mathlib.Tactic.Linarith
import VelaFlow.Queue.Conduct

/-!
# Gating by the handlers

Nine handlers each decide for themselves whether a message is worked on. For every message and
every stored tenant this gives the exact condition under which a handler does no tenant work;
none of them looks at `is_active`, so a barred tenant is refused only where some other check
refuses it.
-/
namespace VelaFlow.Queue

open Process Tenants Storage

/-- Whether a tenant is an expired demo or is deactivated. -/
def barred (tenant : Tenant) (now : DateTime) : Bool :=
  tenant.demoExpired now || !tenant.isActive

/-- A job result that refuses its message. -/
def Refusal (result : Dict) : Prop :=
  ∃ status, result.get? "status" = some (.str status) ∧ status ≠ "completed"

/-- The record of a refusal of a message. -/
def RecordsRefusal (message : QueueMessage) : Effect → Prop
  | .wrote key data => key = jobResultKey message.tenantId message.messageId ∧ Refusal data
  | _ => False

/-- Between two worlds no work was done for the tenant of a message on a day. -/
structure NoWork (message : QueueMessage) (tenant : Tenant) (today : String)
    (before after : World) : Prop where
  /-- Nothing was done to the outside but to record a refusal. -/
  effects : ∃ done, after.effects = before.effects ++ done ∧
    ∀ effect ∈ done, RecordsRefusal message effect
  /-- Every document but the job result is as it was. -/
  files : ∀ path, resolve (jobResultKey message.tenantId message.messageId) ≠ .ok path →
    after.storage.lookup path = before.storage.lookup path
  /-- The RAG chunks are as they were. -/
  chunks : after.chunks = before.chunks
  /-- The counters, read over the stored ones as they were, are as they were. -/
  usage : (after.withStorage before.storage).currentUsage tenant.tenantId today =
    before.currentUsage tenant.tenantId today

section NoWork

variable {message : QueueMessage} {tenant : Tenant} {today : String} {before after : World}

/-- Doing nothing is no work. -/
theorem NoWork.refl (message : QueueMessage) (tenant : Tenant) (today : String) (world : World) :
    NoWork message tenant today world world where
  effects := ⟨[], by simp, by simp⟩
  files _ _ := rfl
  chunks := rfl
  usage := rfl

/-- Recording a refusal is no work. -/
theorem NoWork.refuse (quiet : NoWork message tenant today before after) {result : Dict}
    (refusal : Refusal result) :
    NoWork message tenant today before
      (after.writeJson (jobResultKey message.tenantId message.messageId) result).2 := by
  unfold World.writeJson LocalStorage.writeJson
  cases resolved : resolve (jobResultKey message.tenantId message.messageId) with
  | error exception => exact quiet
  | ok target =>
    obtain ⟨done, grown, refusals⟩ := quiet.effects
    refine ⟨⟨done ++ [.wrote (jobResultKey message.tenantId message.messageId) result], ?_, ?_⟩,
      ?_, quiet.chunks, quiet.usage⟩
    · simp [Except.map, World.log, grown]
    · intro effect member
      rcases List.mem_append.mp member with earlier | last
      · exact refusals effect earlier
      · obtain rfl := List.mem_singleton.mp last
        exact ⟨rfl, refusal⟩
    · intro path apart
      have other : path ≠ target := fun same => apart (by rw [resolved, same])
      have kept := quiet.files path apart
      simpa [Except.map, LocalStorage.lookup_put_ne _ _ other] using kept

/-- Asking the quota where none is left is no work. -/
theorem NoWork.checked {usageType : UsageType} {limit : Nat}
    (spent : before.hasQuota tenant.tenantId usageType limit today = false) :
    NoWork message tenant today before
      (before.checkQuota tenant.tenantId usageType limit today).2 := by
  have usage := World.currentUsage_of_not_hasQuota spent
  obtain ⟨dailyUsage, same⟩ :=
    World.checkQuota_frame before tenant.tenantId usageType limit today
  rw [same] at usage ⊢
  exact ⟨⟨[], by simp, by simp⟩, fun _ _ => rfl, rfl, usage⟩

/-- A charge that stays in memory is work. -/
theorem not_noWork_of_charge {usageType : UsageType} {usage : Dict} {number : ℚ}
    (current : before.currentUsage tenant.tenantId today = .ok usage)
    (counts : countIn usage usageType = some number)
    (stays : after.dailyUsage = (before.charge tenant.tenantId usageType usage).dailyUsage) :
    ¬ NoWork message tenant today before after := by
  intro quiet
  have charged := World.counter_charge current counts
  have same : (after.withStorage before.storage).currentUsage tenant.tenantId today =
      (before.charge tenant.tenantId usageType usage).currentUsage tenant.tenantId today := by
    apply World.currentUsage_congr
    · exact congrFun stays tenant.tenantId
    · rfl
  have unchanged : (before.charge tenant.tenantId usageType usage).counter tenant.tenantId
      usageType today = before.counter tenant.tenantId usageType today := by
    unfold World.counter
    rw [← same, quiet.usage]
  rw [charged, World.counter_eq current, counts] at unchanged
  have impossible := Option.some.inj unchanged
  linarith

/-- An effect that is no refusal is work. -/
theorem not_noWork_of_effect {effect : Effect} {more : List Effect}
    (grown : after.effects = before.effects ++ effect :: more)
    (work : ¬ RecordsRefusal message effect) : ¬ NoWork message tenant today before after := by
  intro quiet
  obtain ⟨done, same, refusals⟩ := quiet.effects
  rw [grown] at same
  have done_eq := List.append_cancel_left same
  exact work (refusals effect (done_eq ▸ List.mem_cons_self))

end NoWork

section Parts

variable {worker : QueueWorker} {message : QueueMessage} {tenant : Tenant} {answers : Answers}
  {world : World}

/-- Whether a handling under these answers leaves no work undone that would count. -/
def Quiet (message : QueueMessage) (tenant : Tenant) (answers : Answers) (world : World)
    (routine : Routine Unit) : Prop :=
  NoWork message tenant (quotaDay answers) world (routine.run answers world).2

/-- A message beyond the quota is not worked on. -/
theorem quiet_withinQuota_of_spent {usageType : UsageType} {refusal : Dict} {work : Routine Unit}
    (refused : Refusal refusal) (spent : quotaSpent tenant usageType answers world = true) :
    Quiet message tenant answers world
      (withinQuota message tenant usageType refusal work) := by
  have none : world.hasQuota tenant.tenantId usageType (usageType.limit tenant.quota)
      (quotaDay answers) = false := by simpa [quotaSpent] using spent
  have quiet : NoWork message tenant (quotaDay answers) world _ := NoWork.checked none
  have outcome := (World.checkQuota_of_not_hasQuota none).1
  unfold Quiet
  rw [run_withinQuota]
  unfold quotaDay at quiet outcome ⊢
  cases asked : world.checkQuota tenant.tenantId usageType (usageType.limit tenant.quota)
    (answers.clock .quota).dayKey with
  | mk answer left =>
    rw [asked] at quiet outcome
    cases answer with
    | error exception => exact quiet
    | ok admitted =>
      cases admitted with
      | true => exact absurd rfl outcome
      | false => exact quiet.refuse refused

/-- A handler that checks the quota does no work exactly when none is left. -/
theorem quiet_withinQuota_iff {usageType : UsageType} {refusal : Dict} {work : Routine Unit}
    (refused : Refusal refusal)
    (keeps : ∀ left, (work.run answers left).2.dailyUsage = left.dailyUsage) :
    Quiet message tenant answers world (withinQuota message tenant usageType refusal work) ↔
      quotaSpent tenant usageType answers world = true := by
  refine ⟨fun quiet => ?_, quiet_withinQuota_of_spent refused⟩
  by_contra left
  obtain ⟨usage, number, current, counts, admits⟩ := exists_charge_of_not_spent left
  exact not_noWork_of_charge current counts (dailyUsage_withinQuota admits keeps) quiet

/-- A handler that checks the expiry does no work when the demo has expired. -/
theorem quiet_unlessExpired_iff {work : Routine Unit} :
    Quiet message tenant answers world (unlessExpired message tenant work) ↔
      tenant.demoExpired (answers.clock .expiry) = true ∨
        Quiet message tenant answers world work := by
  unfold Quiet
  rw [run_unlessExpired]
  by_cases expired : tenant.demoExpired (answers.clock .expiry) = true
  · simp only [expired, if_true, true_or, iff_true]
    exact (NoWork.refl message tenant _ world).refuse ⟨"demo_expired", rfl, by decide⟩
  · simp [expired]

/-- A result that is no refusal is work, where it can be written. -/
theorem noWork_write_iff {key : String} {data : Dict}
    (work : ¬ RecordsRefusal message (.wrote key data)) :
    NoWork message tenant (quotaDay answers) world (world.writeJson key data).2 ↔
      (resolve key).isOk = false := by
  unfold World.writeJson LocalStorage.writeJson
  cases resolved : resolve key with
  | error exception =>
    simp only [Except.isOk, Except.toBool, iff_true]
    exact NoWork.refl message tenant _ world
  | ok path =>
    simp only [Except.isOk, Except.toBool, Bool.true_eq_false, iff_false]
    apply not_noWork_of_effect _ work
    · exact []
    · rfl

/-- A handler of a connected service does no work when the service is not connected, or the
credentials do not decrypt, or the result cannot be written. -/
theorem quiet_withConnection_iff {token notConnected : String} {done : Dict}
    (completed : done.get? "status" = some (.str "completed")) :
    Quiet message tenant answers world
        (withConnection worker message tenant token notConnected done) ↔
      token = "" ∨ (buildTenantSettings worker.tenantMgr tenant).isOk = false ∨
        (resolve (jobResultKey message.tenantId message.messageId)).isOk = false := by
  have work : ¬ RecordsRefusal message
      (.wrote (jobResultKey message.tenantId message.messageId) done) := by
    rintro ⟨-, status, is, other⟩
    rw [completed] at is
    obtain rfl := Json.str.inj (Option.some.inj is)
    exact other rfl
  unfold Quiet
  rw [run_withConnection]
  by_cases missing : token = ""
  · simp only [missing, if_true, true_or, iff_true]
    exact (NoWork.refl message tenant _ world).refuse ⟨"error", rfl, by decide⟩
  · simp only [missing, if_false, false_or]
    cases buildTenantSettings worker.tenantMgr tenant with
    | error exception =>
      simp only [Except.isOk, Except.toBool, true_or, iff_true]
      exact NoWork.refl message tenant _ world
    | ok settings =>
      rw [noWork_write_iff work]
      simp [Except.isOk, Except.toBool]

/-- The `except` clauses of the RAG handler record an error. -/
theorem ragFailure_eq (message : QueueMessage) (exception : PyException) :
    ∃ text, ragFailure message exception = storeJobResult message (errorResult "error" text) := by
  cases exception <;> exact ⟨_, rfl⟩

/-- A failure of the RAG handler is no work. -/
theorem noWork_ragFailure {before : World} (exception : PyException)
    (quiet : NoWork message tenant (quotaDay answers) before world) :
    NoWork message tenant (quotaDay answers) before
      ((ragFailure message exception).run answers world).2 := by
  obtain ⟨text, same⟩ := ragFailure_eq message exception
  rw [same, run_storeJobResult]
  exact quiet.refuse ⟨"error", rfl, by decide⟩

/-- A failure of the RAG handler leaves the memory alone. -/
theorem dailyUsage_ragFailure (exception : PyException) :
    ((ragFailure message exception).run answers world).2.dailyUsage = world.dailyUsage := by
  obtain ⟨text, same⟩ := ragFailure_eq message exception
  rw [same, run_storeJobResult]
  unfold World.writeJson
  cases world.storage.writeJson _ (errorResult "error" text) <;> rfl

/-- A RAG query that is admitted leaves the memory alone. -/
theorem dailyUsage_ragQueryWork (worker : QueueWorker) (topK : Json) :
    ((ragQueryWork message topK).run answers world).2.dailyUsage = world.dailyUsage := by
  have safe : Program.Safe (conduct worker message fun _ => True) Settles
      (ragQueryWork message topK) { checked := true } := safe_ragQueryWork topK rfl
  exact dailyUsage_of_safe rfl safe answers world

/-- A RAG query does no work when it fails before the quota, or none is left. -/
theorem quiet_ragQuery_iff (query : ragRequest message.payload = .query) :
    Quiet message tenant answers world
        (Program.tryCatch (ragAction worker message tenant) (ragFailure message)) ↔
      (ragTopK message.payload).isOk = false ∨
        quotaSpent tenant .llmCall answers world = true := by
  have action : ragAction worker message tenant = (do
      let topK ← pureOf (ragTopK message.payload)
      withinQuota message tenant .llmCall ragQuotaResult (ragQueryWork message topK)) := by
    unfold ragAction
    rw [query]
  unfold Quiet
  rw [run_tryCatch, action, run_bind, run_lift]
  cases ragTopK message.payload with
  | error exception =>
    simp only [Except.isOk, Except.toBool, true_or, iff_true]
    exact noWork_ragFailure exception (NoWork.refl message tenant _ world)
  | ok topK =>
    simp only [Except.isOk, Except.toBool, Bool.true_eq_false, false_or]
    by_cases spent : quotaSpent tenant .llmCall answers world = true
    · have quiet : Quiet message tenant answers world
          (withinQuota message tenant .llmCall ragQuotaResult (ragQueryWork message topK)) :=
        quiet_withinQuota_of_spent ⟨"quota_exceeded", rfl, by decide⟩ spent
      simp only [spent, iff_true]
      unfold Quiet at quiet
      revert quiet
      cases (withinQuota message tenant .llmCall ragQuotaResult
        (ragQueryWork message topK)).run answers world with
      | mk outcome left =>
        intro quiet
        cases outcome with
        | ok value => exact quiet
        | error exception => exact noWork_ragFailure exception quiet
    · obtain ⟨usage, number, current, counts, admits⟩ := exists_charge_of_not_spent spent
      have stays : ((withinQuota message tenant .llmCall ragQuotaResult
          (ragQueryWork message topK)).run answers world).2.dailyUsage = _ :=
        dailyUsage_withinQuota admits fun left => dailyUsage_ragQueryWork worker topK
      apply iff_of_false _ spent
      apply not_noWork_of_charge current counts
      rw [← stays]
      cases (withinQuota message tenant .llmCall ragQuotaResult
        (ragQueryWork message topK)).run answers world with
      | mk outcome left =>
        cases outcome with
        | ok value => rfl
        | error exception => exact dailyUsage_ragFailure exception

/-- A routine that begins with a call of the RAG pipeline does work, however it goes on. -/
theorem not_quiet_of_calledRag {routine : Routine Unit} {action : Action}
    {next : Except PyException action.Answer → Routine Unit}
    (begins : routine = Program.perform action next)
    (called : (world.respond answers action).2.effects =
      world.effects ++ [.calledRag message.tenantId]) :
    ¬ Quiet message tenant answers world routine := by
  obtain ⟨later, grown⟩ := World.effects_run answers (next (world.respond answers action).1)
    (world.respond answers action).2
  subst begins
  rw [called, List.append_assoc] at grown
  exact not_noWork_of_effect grown fun refusal => refusal

/-- The RAG handler past its checks does no work exactly when it makes no call. -/
theorem quiet_ragWork_iff :
    Quiet message tenant answers world
        (Program.tryCatch (ragAction worker message tenant) (ragFailure message)) ↔
      match ragRequest message.payload with
      | .ingest | .delete => False
      | .query => (ragTopK message.payload).isOk = false ∨
        quotaSpent tenant .llmCall answers world = true
      | .unknown _ => True := by
  cases request : ragRequest message.payload with
  | query => exact quiet_ragQuery_iff request
  | ingest =>
    unfold ragAction
    rw [request]
    exact iff_false_intro (not_quiet_of_calledRag rfl rfl)
  | delete =>
    unfold ragAction
    rw [request]
    exact iff_false_intro (not_quiet_of_calledRag rfl rfl)
  | unknown action =>
    unfold ragAction Quiet
    rw [request]
    simp only [iff_true, run_tryCatch, run_storeJobResult]
    have refusal : Refusal [("status", .str "error"),
        ("error", .str ("Unknown RAG action: " ++ worker.str action))] :=
      ⟨"error", rfl, by decide⟩
    have quiet := (NoWork.refl message tenant (quotaDay answers) world).refuse refusal
    revert quiet
    cases world.writeJson (jobResultKey message.tenantId message.messageId) _ with
    | mk outcome left =>
      intro quiet
      cases outcome with
      | ok value => exact quiet
      | error exception => exact noWork_ragFailure exception quiet

end Parts

/-- The checks under which a handler does no work for a tenant, by message type. -/
def Refuses (worker : QueueWorker) (message : QueueMessage) (answers : Answers) (world : World)
    (tenant : Tenant) : Prop :=
  match message.messageType with
  | .pipelineRun =>
    tenant.demoExpired (answers.clock .expiry) = true ∨
      quotaSpent tenant .pipelineRun answers world = true
  | .digestGenerate => quotaSpent tenant .pipelineRun answers world = true
  | .llmGenerate =>
    tenant.demoExpired (answers.clock .expiry) = true ∨
      quotaSpent tenant .llmCall answers world = true
  | .notionSync =>
    tenant.config.notionApiTokenEncrypted = "" ∨
      (buildTenantSettings worker.tenantMgr tenant).isOk = false ∨
      (resolve (jobResultKey message.tenantId message.messageId)).isOk = false
  | .boardAnalysis =>
    tenant.config.todoistApiTokenEncrypted = "" ∨
      (buildTenantSettings worker.tenantMgr tenant).isOk = false ∨
      (resolve (jobResultKey message.tenantId message.messageId)).isOk = false
  | .scoringConfig => (resolve (scoringConfigKey message.tenantId)).isOk = false
  | .tenantOperation | .notebooklmExtract => True
  | .ragQuery =>
    tenant.demoExpired (answers.clock .expiry) = true ∨ tenant.quota.ragEnabled = false ∨
      match ragRequest message.payload with
      | .ingest | .delete => False
      | .query => (ragTopK message.payload).isOk = false ∨
        quotaSpent tenant .llmCall answers world = true
      | .unknown _ => True

section Handlers

variable {worker : QueueWorker} {message : QueueMessage} {tenant : Tenant} {answers : Answers}
  {world : World}

/-- A handler is judged by its work on the tenant that is stored. -/
theorem quiet_withTenant_iff {work : Tenant → Routine Unit}
    (stored : storedTenant worker.tenantMgr (answers.clock .record) world message.tenantId =
      .ok (some tenant)) :
    Quiet message tenant answers world (withTenant worker message work) ↔
      Quiet message tenant answers world (work tenant) := by
  unfold Quiet
  rw [run_withTenant, stored]

/-- The scoring configuration is not stored as a job result. -/
theorem scoringConfigKey_ne_jobResultKey (tenantId messageId : String) :
    scoringConfigKey tenantId ≠ jobResultKey tenantId messageId := by
  intro same
  have characters := congrArg String.toList same
  simp [scoringConfigKey, jobResultKey] at characters

/-- A handler does no work exactly when one of its checks refuses the message. -/
theorem quiet_handler_iff
    (stored : storedTenant worker.tenantMgr (answers.clock .record) world message.tenantId =
      .ok (some tenant)) :
    Quiet message tenant answers world (handler worker message) ↔
      Refuses worker message answers world tenant := by
  unfold Refuses
  cases kind : message.messageType with
  | pipelineRun =>
    rw [handler, kind]
    have safe : Program.Safe (conduct worker message fun _ => True) Settles
        (pipelineWork worker message tenant) { checked := true, credit := some .pipelineRun } :=
      safe_pipelineWork trivial rfl rfl
    exact (quiet_withTenant_iff stored).trans (quiet_unlessExpired_iff.trans
      (or_congr_right (quiet_withinQuota_iff ⟨"quota_exceeded", rfl, by decide⟩
        (dailyUsage_of_safe rfl safe answers))))
  | digestGenerate =>
    rw [handler, kind]
    have safe : Program.Safe (conduct worker message fun _ => True) Settles
        (digestWork message tenant) { checked := true, credit := some .pipelineRun } :=
      safe_digestWork kind trivial rfl rfl
    exact (quiet_withTenant_iff stored).trans (quiet_withinQuota_iff
      ⟨"quota_exceeded", rfl, by decide⟩ (dailyUsage_of_safe rfl safe answers))
  | llmGenerate =>
    rw [handler, kind]
    have safe : Program.Safe (conduct worker message fun _ => True) Settles
        (llmWork worker message tenant) { checked := true, credit := some .llmCall } :=
      safe_llmWork rfl rfl
    exact (quiet_withTenant_iff stored).trans (quiet_unlessExpired_iff.trans
      (or_congr_right (quiet_withinQuota_iff ⟨"quota_exceeded", rfl, by decide⟩
        (dailyUsage_of_safe rfl safe answers))))
  | notionSync =>
    rw [handler, kind]
    exact (quiet_withTenant_iff stored).trans (quiet_withConnection_iff rfl)
  | boardAnalysis =>
    rw [handler, kind]
    exact (quiet_withTenant_iff stored).trans (quiet_withConnection_iff rfl)
  | scoringConfig =>
    rw [handler, kind]
    apply (quiet_withTenant_iff stored).trans
    unfold Quiet
    rw [run_writeJson]
    exact noWork_write_iff fun refusal => scoringConfigKey_ne_jobResultKey _ _ refusal.1
  | tenantOperation =>
    rw [handler, kind]
    exact (quiet_withTenant_iff stored).trans (iff_true_intro (NoWork.refl _ _ _ _))
  | notebooklmExtract =>
    rw [handler, kind]
    exact (quiet_withTenant_iff stored).trans (iff_true_intro (NoWork.refl _ _ _ _))
  | ragQuery =>
    rw [handler, kind]
    apply (quiet_withTenant_iff stored).trans
    apply quiet_unlessExpired_iff.trans
    apply or_congr_right
    cases tenant.quota.ragEnabled with
    | false =>
      simp only [Bool.false_eq_true, if_false, true_or, iff_true]
      unfold Quiet
      rw [run_storeJobResult]
      exact (NoWork.refl message tenant _ world).refuse ⟨"error", rfl, by decide⟩
    | true =>
      simp only [if_true, Bool.true_eq_false, false_or]
      exact quiet_ragWork_iff

end Handlers

/-- A message for an expired demo or a deactivated tenant is not worked on. -/
def GatesBarred (worker : QueueWorker) (message : QueueMessage) (answers : Answers)
    (world : World) : Prop :=
  ∀ tenant, storedTenant worker.tenantMgr (answers.clock .record) world message.tenantId =
      .ok (some tenant) →
    barred tenant (answers.clock .expiry) = true →
    NoWork message tenant (quotaDay answers) world
      ((handler worker message).run answers world).2

/-- The checks that a handler does make refuse the message of a barred tenant. -/
def RefusesBarred (worker : QueueWorker) (message : QueueMessage) (answers : Answers)
    (world : World) : Prop :=
  ∀ tenant, storedTenant worker.tenantMgr (answers.clock .record) world message.tenantId =
      .ok (some tenant) →
    barred tenant (answers.clock .expiry) = true → Refuses worker message answers world tenant

/-- A barred tenant is kept from work exactly when another check of the handler refuses the
message. -/
theorem gatesBarred_iff (worker : QueueWorker) (message : QueueMessage) (answers : Answers)
    (world : World) :
    GatesBarred worker message answers world ↔ RefusesBarred worker message answers world := by
  unfold GatesBarred RefusesBarred
  apply forall_congr'
  intro tenant
  apply forall_congr'
  intro stored
  exact imp_congr_right fun _ => quiet_handler_iff stored

/-- The sample tenant after `deactivate_tenant`. -/
def deactivatedTenant : Tenant := { sampleTenant with isActive := false }

/-- A pipeline is executed for a deactivated tenant. -/
theorem deactivated_not_gated :
    ¬ GatesBarred sampleWorker (sampleMessage .pipelineRun)
      (sampleAnswers dayOne) (storedWorld deactivatedTenant) := by
  intro gated
  have stored : storedTenant sampleWorker.tenantMgr
      ((sampleAnswers dayOne).clock .record) (storedWorld deactivatedTenant)
      (sampleMessage .pipelineRun).tenantId = .ok (some deactivatedTenant) :=
    storedTenant_storedWorld deactivatedTenant rfl rfl _
  have bars : barred deactivatedTenant dayOne = true := by decide
  have refuses : Refuses sampleWorker (sampleMessage .pipelineRun)
      (sampleAnswers dayOne) (storedWorld deactivatedTenant) deactivatedTenant :=
    (quiet_handler_iff stored).mp (gated deactivatedTenant stored bars)
  have current : deactivatedTenant.demoExpired dayOne = false := by decide
  have left : quotaSpent deactivatedTenant .pipelineRun (sampleAnswers dayOne)
      (storedWorld deactivatedTenant) = false := by decide +kernel
  rcases refuses with expired | spent
  · exact absurd (current.symm.trans expired) (by decide)
  · exact absurd (left.symm.trans spent) (by decide)

end VelaFlow.Queue
