import VelaFlow.Queue.WorkerRuns

/-!
# The conduct of a handling

Whatever its actions are answered, a handling acts only for the tenant of its message, asks the
quota once, starts nothing it was not admitted for, writes no usage but what memory holds, and
ends without an exception once its result is recorded. The theorems about runs of the worker are
derived from this.
-/
namespace VelaFlow.Queue

open Process Tenants

/-- What a handling has done so far. -/
structure Conduct where
  /-- When it last read the clock for the quota. -/
  asked : Option DateTime := none
  /-- Whether it has asked the quota. -/
  checked : Bool := false
  /-- The unit it was admitted for and has not used. -/
  credit : Option UsageType := none
  /-- The usage it last read from memory. -/
  read : Option Dict := none
  /-- Whether it has called a language model. -/
  called : Bool := false
  /-- Whether it has recorded its job result. -/
  recorded : Bool := false

/-- Whether a usage passes the demo cost cap of a tenant. -/
def withinDemoCap (tenant : Tenant) (usage : Option Dict) : Prop :=
  tenant.isDemo = true → ∃ runs, ((usage.getD []).getD "pipeline_runs" (.int 0)).number? = some runs ∧
    runs ≤ tenant.demoCostCapPipeline

namespace Conduct

variable (message : QueueMessage) (record : Tenant → Prop)

/-- The conduct after an action and its answer. -/
def advance (conduct : Conduct) :
    (action : Action) → Except PyException action.Answer → Conduct
  | .now .quota, .ok time => { conduct with asked := some time }
  | .checkQuota _ usageType _ _, .ok true =>
    { conduct with checked := true, credit := some usageType }
  | .checkQuota _ _ _ _, _ => { conduct with checked := true, credit := none }
  | .usage _, .ok usage => { conduct with read := usage }
  | .execute _ _, _ => { conduct with credit := none }
  | .localChat _ _ _, _ | .callLlm _ _ _, _ => { conduct with credit := none, called := true }
  | .writeJson key _, .ok _ =>
    { conduct with
      recorded := conduct.recorded ||
        decide (key = jobResultKey message.tenantId message.messageId) }
  | _, _ => conduct

/-- The actions a handling may take next. -/
def allowed (conduct : Conduct) : Action → Prop
  | .readJson key => key = tenantKey message.tenantId
  | .localClient | .localAvailable => True
  | .now site => site = .quota → conduct.checked = false
  | .checkQuota tenantId usageType limit today =>
    conduct.checked = false ∧ conduct.asked.map DateTime.dayKey = some today ∧
      ∃ tenant, record tenant ∧ tenantId = tenant.tenantId ∧
        limit = usageType.limit tenant.quota
  | .usage tenantId | .augmentPrompt tenantId _ _ | .ragIngest tenantId _ _ _ _
  | .ragQuery tenantId _ _ | .ragDelete tenantId _ => tenantId = message.tenantId
  | .execute tenant _ =>
    record tenant ∧ conduct.credit = some .pipelineRun ∧
      (message.messageType = .pipelineRun → withinDemoCap tenant conduct.read)
  | .localChat tenantId _ _ => tenantId = message.tenantId ∧ conduct.credit = some .llmCall
  | .callLlm tenantId _ _ =>
    tenantId = message.tenantId ∧ (conduct.credit = some .llmCall ∨ conduct.called = true)
  | .writeJson key data =>
    (key = dailyUsageKey message.tenantId ∧ conduct.read = some data) ∨
      key = jobResultKey message.tenantId message.messageId ∨
      (key = scoringConfigKey message.tenantId ∧ data = message.payload ∧
        message.messageType = .scoringConfig)
  | .listKeys _ | .delete _ | .tokenHex | .tokenUrlsafe | .nonce _ => False

end Conduct

/-- The discipline of a handling. What is assumed of a stored tenant is `record`. -/
def conduct (worker : QueueWorker) (message : QueueMessage) (record : Tenant → Prop) :
    Program.Discipline Action Action.Answer PyException Conduct where
  allowed := Conduct.allowed message record
  possible _ action answer :=
    match action, answer with
    | .readJson _, .ok (some data) =>
      ∀ time tenant, fromDict worker.tenantMgr.encryptor time data = .ok tenant → record tenant
    | _, _ => True
  advance := Conduct.advance message

/-- The usage of a tenant is not stored as a job result of it. -/
theorem dailyUsageKey_ne_jobResultKey (tenantId messageId : String) :
    dailyUsageKey tenantId ≠ jobResultKey tenantId messageId := by
  intro same
  have characters := congrArg String.toList same
  simp [dailyUsageKey, jobResultKey] at characters

/-- A handling that raises has recorded nothing. -/
def Settles {α : Type} (reached : Conduct) (outcome : Except PyException α) : Prop :=
  outcome.isOk = false → reached.recorded = false

/-- Nothing is recorded yet. -/
def Unrecorded {α : Type} (reached : Conduct) (_ : Except PyException α) : Prop :=
  reached.recorded = false

/-- Nothing is recorded yet, and a language model may be called. -/
structure Conduct.MayCall (reached : Conduct) : Prop where
  /-- Nothing is recorded. -/
  unrecorded : reached.recorded = false
  /-- The handling was admitted for the call, or has made one. -/
  admitted : reached.credit = some .llmCall ∨ reached.called = true

section Safe

variable {worker : QueueWorker} {message : QueueMessage} {record : Tenant → Prop}
  {known : Conduct} {tenant : Tenant}

/-- Recording a result settles a handling that has recorded none. -/
theorem safe_storeJobResult (unrecorded : known.recorded = false) (result : Dict) :
    Program.Safe (conduct worker message record) Settles (storeJobResult message result)
      known := by
  apply Program.Safe.act
  · exact Or.inr (Or.inl rfl)
  · intro answer _ raised
    cases answer with
    | ok value => cases raised
    | error exception => exact unrecorded

/-- Reading the usage notes it. -/
theorem safe_readUsage {post : Conduct → Except PyException (Option Dict) → Prop}
    (noted : ∀ read, post { known with read } (.ok read))
    (raised : ∀ exception, post known (.error exception)) :
    Program.Safe (conduct worker message record) post (readUsage message.tenantId) known := by
  apply Program.Safe.act
  · rfl
  · intro answer _
    cases answer with
    | ok read => exact noted read
    | error exception => exact raised exception

/-- Persisting the usage records no result. -/
theorem safe_persistUsage (unrecorded : known.recorded = false) :
    Program.Safe (conduct worker message record) Unrecorded (persistUsage message.tenantId)
      known := by
  apply Program.Safe.bind
  apply safe_readUsage
  · intro read
    cases read with
    | none => exact unrecorded
    | some usage =>
      apply Program.Safe.act
      · exact Or.inl ⟨rfl, rfl⟩
      · intro answer _
        cases answer with
        | error exception => exact unrecorded
        | ok value =>
          simp [Unrecorded, conduct, Conduct.advance, unrecorded, dailyUsageKey_ne_jobResultKey]
  · intro exception
    exact unrecorded

/-- Persisting the usage and recording a result settles a handling that has recorded none. -/
theorem safe_finish (unrecorded : known.recorded = false) (result : Dict) :
    Program.Safe (conduct worker message record) Settles
      (do
        persistUsage message.tenantId
        storeJobResult message result) known := by
  apply Program.Safe.seq Unrecorded (safe_persistUsage unrecorded)
  · intro reached _ still
    exact safe_storeJobResult still result
  · intro reached exception still _
    exact still

/-- Decrypting the credentials does nothing that is seen. -/
theorem safe_pureOf {α β : Type} {computation : Except PyException α} {rest : α → Routine β}
    (unrecorded : known.recorded = false)
    (goesOn : ∀ value, computation = .ok value →
      Program.Safe (conduct worker message record) Settles (rest value) known) :
    Program.Safe (conduct worker message record) Settles (pureOf computation >>= rest)
      known := by
  apply Program.Safe.bind
  apply Program.Safe.lift
  cases computation with
  | ok value => exact goesOn value rfl
  | error exception => exact fun _ => unrecorded

/-- An execution is started by a handling that was admitted for it. -/
theorem safe_execute {β : Type} {inputs : RunInputs} {rest : PipelineRun → Routine β}
    (holds : record tenant) (credit : known.credit = some .pipelineRun)
    (capped : message.messageType = .pipelineRun → withinDemoCap tenant known.read)
    (unrecorded : known.recorded = false)
    (goesOn : ∀ run, Program.Safe (conduct worker message record) Settles (rest run)
      { known with credit := none }) :
    Program.Safe (conduct worker message record) Settles (execute tenant inputs >>= rest)
      known := by
  apply Program.Safe.bind
  apply Program.Safe.act
  · exact ⟨holds, credit, capped⟩
  · intro answer _
    cases answer with
    | ok run => exact goesOn run
    | error exception => exact fun _ => unrecorded

/-- The demo cost cap check lets pass what is within the cap. -/
theorem safe_overDemoCap {β : Type} {rest : Bool → Routine β}
    (unrecorded : known.recorded = false)
    (refuses : ∀ read, Program.Safe (conduct worker message record) Settles (rest true)
      { known with read })
    (passes : ∀ read, withinDemoCap tenant read →
      Program.Safe (conduct worker message record) Settles (rest false) { known with read }) :
    Program.Safe (conduct worker message record) Settles
      (overDemoCap tenant message.tenantId >>= rest) known := by
  unfold overDemoCap
  by_cases demo : tenant.isDemo = true
  · rw [if_pos demo]
    apply Program.Safe.bind
    apply Program.Safe.bind
    apply safe_readUsage
    · intro read
      simp only
      split
      case h_1 => exact fun _ => unrecorded
      case h_2 runs counts =>
        by_cases exceeded : (tenant.demoCostCapPipeline : ℚ) < runs
        · rw [decide_eq_true exceeded]
          exact refuses read
        · rw [decide_eq_false exceeded]
          exact passes read fun _ => ⟨runs, counts, not_lt.mp exceeded⟩
    · intro exception _
      exact unrecorded
  · rw [if_neg demo]
    exact passes known.read fun is => absurd is demo

/-- A pipeline message starts its execution within the demo cost cap. -/
theorem safe_pipelineWork (holds : record tenant) (credit : known.credit = some .pipelineRun)
    (unrecorded : known.recorded = false) :
    Program.Safe (conduct worker message record) Settles (pipelineWork worker message tenant)
      known := by
  unfold pipelineWork
  apply safe_overDemoCap unrecorded
  · intro read
    apply safe_storeJobResult
    exact unrecorded
  · intro read within
    apply safe_pureOf
    · exact unrecorded
    · intro settings _
      unfold runPipeline
      apply safe_execute holds
      · exact credit
      · exact fun _ => within
      · exact unrecorded
      · intro run
        apply safe_finish
        exact unrecorded

/-- A digest message starts its execution. -/
theorem safe_digestWork (isDigest : message.messageType = .digestGenerate) (holds : record tenant)
    (credit : known.credit = some .pipelineRun) (unrecorded : known.recorded = false) :
    Program.Safe (conduct worker message record) Settles (digestWork message tenant) known := by
  unfold digestWork
  apply safe_execute holds credit _ unrecorded
  · intro run
    apply safe_finish
    exact unrecorded
  · intro isPipeline
    rw [isDigest] at isPipeline
    cases isPipeline

/-- An augmentation does nothing that is noted. -/
theorem safe_augmentSystemPrompt (prompt systemPrompt : Json) :
    Program.Safe (conduct worker message record)
      (fun reached outcome => reached = known ∧ outcome.isOk = true)
      (augmentSystemPrompt tenant message.tenantId prompt systemPrompt) known := by
  unfold augmentSystemPrompt
  split
  · apply Program.Safe.tryCatch
    apply Program.Safe.bind
    apply Program.Safe.act
    · rfl
    · intro answer _
      cases answer with
      | ok augmented => exact ⟨rfl, rfl⟩
      | error exception => exact ⟨rfl, rfl⟩
  · exact ⟨rfl, rfl⟩

/-- The local model is called by a handling that was admitted for it. -/
theorem safe_generateLocally (useLocal : Bool) (prompt systemPrompt : Json)
    (credit : known.credit = some .llmCall) (unrecorded : known.recorded = false) :
    Program.Safe (conduct worker message record) (fun reached _ => reached.MayCall)
      (generateLocally useLocal message.tenantId prompt systemPrompt) known := by
  have start : known.MayCall := ⟨unrecorded, Or.inl credit⟩
  have handles : ∀ (reached : Conduct) (exception : PyException), reached.MayCall →
      Program.Safe (conduct worker message record) (fun reached _ => reached.MayCall)
        (if PyException.isLocalFailure exception then pure none
          else Program.raise exception : Routine (Option String)) reached := by
    intro reached exception may
    split
    · exact may
    · exact may
  unfold generateLocally
  split
  · apply Program.Safe.tryCatch
    apply Program.Safe.bind
    apply Program.Safe.act trivial
    intro answer _
    cases answer with
    | error exception => exact handles known exception start
    | ok client =>
      apply Program.Safe.bind
      apply Program.Safe.act trivial
      intro available _
      cases available with
      | error exception => exact handles known exception start
      | ok is =>
        cases is with
        | false => exact start
        | true =>
          apply Program.Safe.act
          · exact ⟨rfl, credit⟩
          · intro answer _
            have after : Conduct.MayCall { known with credit := none, called := true } :=
              ⟨unrecorded, Or.inr rfl⟩
            cases answer with
            | ok text => exact after
            | error exception => exact handles _ exception after
  · exact start

/-- The cloud model is called by a handling that was admitted for a call. -/
theorem safe_generateInCloud (prompt systemPrompt : Json) (result : Option String)
    (may : known.MayCall) :
    Program.Safe (conduct worker message record) Unrecorded
      (generateInCloud worker tenant message.tenantId prompt systemPrompt result) known := by
  cases result with
  | some text => exact may.unrecorded
  | none =>
    apply Program.Safe.bind
    apply Program.Safe.lift
    cases buildTenantSettings worker.tenantMgr tenant with
    | error exception => exact may.unrecorded
    | ok settings =>
      apply Program.Safe.act
      · exact ⟨rfl, may.admitted⟩
      · intro answer _
        exact may.unrecorded

/-- A language model message calls a model it was admitted for. -/
theorem safe_llmWork (credit : known.credit = some .llmCall)
    (unrecorded : known.recorded = false) :
    Program.Safe (conduct worker message record) Settles (llmWork worker message tenant)
      known := by
  unfold llmWork
  apply Program.Safe.seq _ (safe_augmentSystemPrompt _ _)
  · rintro _ systemPrompt ⟨rfl, -⟩
    apply Program.Safe.seq _ (safe_generateLocally _ _ _ credit unrecorded)
    · intro reached result may
      apply Program.Safe.seq _ (safe_generateInCloud _ _ result may)
      · intro reached text still
        exact safe_finish still _
      · intro reached exception still _
        exact still
    · intro reached exception may _
      exact may.unrecorded
  · rintro _ exception ⟨-, impossible⟩
    cases impossible

/-- A RAG query that is admitted settles. -/
theorem safe_ragQueryWork (topK : Json) (unrecorded : known.recorded = false) :
    Program.Safe (conduct worker message record) Settles (ragQueryWork message topK) known := by
  unfold ragQueryWork
  apply Program.Safe.bind
  apply Program.Safe.act
  · rfl
  · intro answer _
    cases answer with
    | error exception => exact fun _ => unrecorded
    | ok results =>
      apply safe_finish
      exact unrecorded

/-- A handler that checks the quota asks it once, and goes on with what it was admitted for. -/
theorem safe_withinQuota {usageType : UsageType} {refusal : Dict} {work : Routine Unit}
    (holds : record tenant) (unchecked : known.checked = false)
    (unrecorded : known.recorded = false)
    (admitted : ∀ time, Program.Safe (conduct worker message record) Settles work
      { known with asked := some time, checked := true, credit := some usageType }) :
    Program.Safe (conduct worker message record) Settles
      (withinQuota message tenant usageType refusal work) known := by
  unfold withinQuota
  apply Program.Safe.bind
  apply Program.Safe.bind
  apply Program.Safe.act
  · exact fun _ => unchecked
  · intro answer _
    cases answer with
    | error exception => exact fun _ => unrecorded
    | ok time =>
      apply Program.Safe.act
      · exact ⟨unchecked, rfl, tenant, holds, rfl, rfl⟩
      · intro answer _
        cases answer with
        | error exception => exact fun _ => unrecorded
        | ok is =>
          cases is with
          | true => exact admitted time
          | false =>
            apply safe_storeJobResult
            exact unrecorded

/-- A handler that checks the expiry records a refusal or goes on. -/
theorem safe_unlessExpired {work : Routine Unit} (unrecorded : known.recorded = false)
    (goesOn : Program.Safe (conduct worker message record) Settles work known) :
    Program.Safe (conduct worker message record) Settles (unlessExpired message tenant work)
      known := by
  have decided : ∀ expired : Bool, Program.Safe (conduct worker message record) Settles
      (if expired then storeJobResult message demoExpiredResult else work) known := by
    intro expired
    cases expired with
    | true => exact safe_storeJobResult unrecorded demoExpiredResult
    | false => exact goesOn
  unfold unlessExpired isDemoExpired
  apply Program.Safe.bind
  split
  · cases tenant.demoExpiresAt with
    | none => exact decided false
    | some expires =>
      apply Program.Safe.bind
      apply Program.Safe.act
      · intro isQuota
        cases isQuota
      · intro answer _
        cases answer with
        | error exception => exact fun _ => unrecorded
        | ok time => exact decided _
  · exact decided false

/-- A handler works on the tenant that is stored. -/
theorem safe_withTenant {work : Tenant → Routine Unit} (unrecorded : known.recorded = false)
    (works : ∀ tenant, record tenant →
      Program.Safe (conduct worker message record) Settles (work tenant) known) :
    Program.Safe (conduct worker message record) Settles (withTenant worker message work)
      known := by
  unfold withTenant TenantManager.getTenant
  apply Program.Safe.bind
  apply Program.Safe.bind
  apply Program.Safe.act
  · rfl
  · intro answer known'
    cases answer with
    | error exception => exact fun _ => unrecorded
    | ok stored =>
      cases stored with
      | none => exact fun raised => by cases raised
      | some data =>
        apply Program.Safe.bind
        apply Program.Safe.act
        · intro isQuota
          cases isQuota
        · intro answer _
          cases answer with
          | error exception => exact fun _ => unrecorded
          | ok time =>
            apply Program.Safe.bind
            apply Program.Safe.lift
            cases decoded : fromDict worker.tenantMgr.encryptor time data with
            | error exception => exact fun _ => unrecorded
            | ok tenant => exact works tenant (known' time tenant decoded)

/-- A handler of a connected service settles. -/
theorem safe_withConnection (token notConnected : String) (done : Dict)
    (unrecorded : known.recorded = false) :
    Program.Safe (conduct worker message record) Settles
      (withConnection worker message tenant token notConnected done) known := by
  unfold withConnection
  split
  · exact safe_storeJobResult unrecorded _
  · apply safe_pureOf unrecorded
    intro settings _
    exact safe_storeJobResult unrecorded done

/-- The body of the `try` of the RAG handler settles. -/
theorem safe_ragAction (holds : record tenant) (unchecked : known.checked = false)
    (unrecorded : known.recorded = false) :
    Program.Safe (conduct worker message record) Settles (ragAction worker message tenant)
      known := by
  unfold ragAction
  cases ragRequest message.payload with
  | ingest =>
    apply Program.Safe.bind
    apply Program.Safe.act
    · rfl
    · intro answer _
      cases answer with
      | error exception => exact fun _ => unrecorded
      | ok count => exact safe_storeJobResult unrecorded _
  | query =>
    apply safe_pureOf unrecorded
    intro topK _
    apply safe_withinQuota holds unchecked unrecorded
    intro time
    apply safe_ragQueryWork
    exact unrecorded
  | delete =>
    apply Program.Safe.bind
    apply Program.Safe.act
    · rfl
    · intro answer _
      cases answer with
      | error exception => exact fun _ => unrecorded
      | ok count => exact safe_storeJobResult unrecorded _
  | unknown action => exact safe_storeJobResult unrecorded _

/-- The `except` clauses of the RAG handler record a result. -/
theorem safe_ragFailure (exception : PyException) (unrecorded : known.recorded = false) :
    Program.Safe (conduct worker message record) Settles (ragFailure message exception)
      known := by
  cases exception <;> exact safe_storeJobResult unrecorded _

/-- The RAG handler past its expiry check settles. -/
theorem safe_ragWork (holds : record tenant) (unchecked : known.checked = false)
    (unrecorded : known.recorded = false) :
    Program.Safe (conduct worker message record) Settles
      (Program.tryCatch (ragAction worker message tenant) (ragFailure message)) known := by
  apply Program.Safe.tryCatch
  apply Program.Safe.weaken _ (safe_ragAction holds unchecked unrecorded)
  intro reached outcome settles
  cases outcome with
  | ok value => exact fun raised => by cases raised
  | error exception => exact safe_ragFailure exception (settles rfl)

/-- Every handler keeps to its conduct, and raises only before it has recorded a result. -/
theorem safe_handler (worker : QueueWorker) (message : QueueMessage) (record : Tenant → Prop) :
    Program.Safe (conduct worker message record) Settles (handler worker message) {} := by
  cases kind : message.messageType with
  | pipelineRun =>
    rw [handler, kind]
    apply safe_withTenant rfl
    intro tenant holds
    apply safe_unlessExpired rfl
    apply safe_withinQuota holds rfl rfl
    intro time
    exact safe_pipelineWork holds rfl rfl
  | digestGenerate =>
    rw [handler, kind]
    apply safe_withTenant rfl
    intro tenant holds
    apply safe_withinQuota holds rfl rfl
    intro time
    exact safe_digestWork kind holds rfl rfl
  | llmGenerate =>
    rw [handler, kind]
    apply safe_withTenant rfl
    intro tenant holds
    apply safe_unlessExpired rfl
    apply safe_withinQuota holds rfl rfl
    intro time
    exact safe_llmWork rfl rfl
  | notionSync =>
    rw [handler, kind]
    apply safe_withTenant rfl
    intro tenant holds
    exact safe_withConnection _ _ _ rfl
  | boardAnalysis =>
    rw [handler, kind]
    apply safe_withTenant rfl
    intro tenant holds
    exact safe_withConnection _ _ _ rfl
  | scoringConfig =>
    rw [handler, kind]
    apply safe_withTenant rfl
    intro tenant holds
    apply Program.Safe.act
    · exact Or.inr (Or.inr ⟨rfl, rfl, kind⟩)
    · intro answer _ raised
      cases answer with
      | ok value => cases raised
      | error exception => rfl
  | tenantOperation =>
    rw [handler, kind]
    apply safe_withTenant rfl
    intro tenant holds raised
    cases raised
  | notebooklmExtract =>
    rw [handler, kind]
    apply safe_withTenant rfl
    intro tenant holds raised
    cases raised
  | ragQuery =>
    rw [handler, kind]
    apply safe_withTenant rfl
    intro tenant holds
    apply safe_unlessExpired rfl
    split
    · exact safe_ragWork holds rfl rfl
    · exact safe_storeJobResult rfl _

end Safe

/-- A handling that has asked the quota has asked it. -/
theorem checked_advance (message : QueueMessage) {known : Conduct} (checked : known.checked = true)
    (action : Action) (answer : Except PyException action.Answer) :
    (known.advance message action answer).checked = true := by
  unfold Conduct.advance
  split <;> first | exact checked | rfl

/-- Without an assumption on stored tenants every answer is possible. -/
theorem possible_of_true (worker : QueueWorker) (message : QueueMessage) (known : Conduct)
    (action : Action) (answer : Except PyException action.Answer) :
    (conduct worker message fun _ => True).possible known action answer := by
  unfold conduct
  simp only
  split
  · exact fun _ _ _ => trivial
  · trivial

/-- A handling that has asked the quota leaves the memory alone. -/
theorem dailyUsage_of_safe {worker : QueueWorker} {message : QueueMessage} {work : Routine Unit}
    {known : Conduct} (checked : known.checked = true)
    (safe : Program.Safe (conduct worker message fun _ => True) Settles work known)
    (answers : Answers) (world : World) :
    (work.run answers world).2.dailyUsage = world.dailyUsage := by
  have keeps : ∀ (known : Conduct) (action : Action) (left : World),
      known.checked = true ∧ left.dailyUsage = world.dailyUsage →
      known.allowed message (fun _ => True) action →
      (conduct worker message fun _ => True).possible known action
        (left.respond answers action).1 ∧
      (known.advance message action (left.respond answers action).1).checked = true ∧
        (left.respond answers action).2.dailyUsage = world.dailyUsage := by
    rintro known action left ⟨checked, same⟩ allowed
    refine ⟨possible_of_true worker message known action _, checked_advance message checked _ _, ?_⟩
    rw [← same]
    apply World.dailyUsage_respond
    rintro tenantId usageType limit today rfl
    rw [allowed.1] at checked
    cases checked
  obtain ⟨reached, ⟨-, same⟩, -⟩ := Program.Safe.run
    (fun (known : Conduct) (left : World) =>
      known.checked = true ∧ left.dailyUsage = world.dailyUsage) keeps ⟨checked, rfl⟩ safe
  exact same

end VelaFlow.Queue
