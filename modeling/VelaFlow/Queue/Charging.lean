import Mathlib.Tactic.NormNum
import VelaFlow.Queue.Lifecycle
import VelaFlow.Queue.Worker

/-!
# What a message costs

Every attempt charges the quota anew and none gives a unit back. The cost of a message is summed
over its life, and set against the attempts that were admitted and those that came to start
their execution or their call.
-/
namespace VelaFlow.Queue

open Process Tenants Storage

/-!
## The documents of the worker

Where the documents that the worker writes for a tenant lie: each below the directory of its
tenant, and no two kinds of them at one path.
-/

/-- The parts of a key below a tenant's directory. -/
theorem keyParts_tenantDirectory (tenantId rest : String) :
    keyParts ("tenants/" ++ tenantId ++ "/" ++ rest) =
      "tenants".toList :: (keyParts tenantId ++ keyParts rest) := by
  have first : "tenants/" ++ tenantId = "tenants" ++ "/" ++ tenantId := by
    rw [show "tenants/" = "tenants" ++ "/" from by decide]
  have root : keyParts "tenants" = ["tenants".toList] := keyParts_of_isPart (by decide)
  rw [keyParts_append_slash, first, keyParts_append_slash, root]
  simp

/-- The parts of the key of a tenant's usage. -/
theorem keyParts_dailyUsageKey (tenantId : String) :
    keyParts (dailyUsageKey tenantId) =
      "tenants".toList :: (keyParts tenantId ++ ["daily_usage.json".toList]) := by
  have name : keyParts "daily_usage.json" = ["daily_usage.json".toList] :=
    keyParts_of_isPart (by decide)
  rw [← name, ← keyParts_tenantDirectory]
  congr 1
  unfold dailyUsageKey
  rw [show "/daily_usage.json" = "/" ++ "daily_usage.json" from by decide]
  simp only [String.append_assoc]

/-- The parts of the key of a tenant's scoring configuration. -/
theorem keyParts_scoringConfigKey (tenantId : String) :
    keyParts (scoringConfigKey tenantId) =
      "tenants".toList :: (keyParts tenantId ++ ["scoring_config.json".toList]) := by
  have name : keyParts "scoring_config.json" = ["scoring_config.json".toList] :=
    keyParts_of_isPart (by decide)
  rw [← name, ← keyParts_tenantDirectory]
  congr 1
  unfold scoringConfigKey
  rw [show "/scoring_config.json" = "/" ++ "scoring_config.json" from by decide]
  simp only [String.append_assoc]

/-- The parts of the key of a job result. -/
theorem keyParts_jobResultKey (tenantId messageId : String) :
    keyParts (jobResultKey tenantId messageId) =
      "tenants".toList :: (keyParts tenantId ++
        "job_results".toList :: keyParts (messageId ++ ".json")) := by
  have name : keyParts "job_results" = ["job_results".toList] := keyParts_of_isPart (by decide)
  have rest : "job_results".toList :: keyParts (messageId ++ ".json") =
      keyParts ("job_results" ++ "/" ++ (messageId ++ ".json")) := by
    rw [keyParts_append_slash, name, List.singleton_append]
  rw [rest, ← keyParts_tenantDirectory]
  congr 1
  unfold jobResultKey
  rw [show "/job_results/" = "/" ++ "job_results" ++ "/" from by decide]
  simp only [String.append_assoc]

/-- A job result of a tenant does not lie where its usage does. -/
theorem jobResult_path_ne_dailyUsage {tenantId messageId : String} {result usage : Path}
    (resultPath : resolve (jobResultKey tenantId messageId) = .ok result)
    (usagePath : resolve (dailyUsageKey tenantId) = .ok usage) : usage ≠ result := by
  rintro rfl
  have same := (parts_of_resolve usagePath).symm.trans (parts_of_resolve resultPath)
  rw [keyParts_dailyUsageKey, keyParts_jobResultKey] at same
  have tails := List.append_cancel_left (List.cons.inj same).2
  exact absurd (List.cons.inj tails).1 (by decide)

/-! ## The charges of a life -/

/-- The counter that a message is charged to. -/
def chargedTo : MessageType → Option UsageType
  | .pipelineRun | .digestGenerate => some .pipelineRun
  | .llmGenerate => some .llmCall
  | _ => none

/-- Whether an effect is the start of an execution or of a call of a language model. -/
def startsWork : Effect → Bool
  | .executed _ _ | .calledLlm _ _ => true
  | _ => false

/-- Whether the checks of a handler admit a message of a tenant. -/
def admits (message : QueueMessage) (usageType : UsageType) (answers : Answers) (world : World)
    (tenant : Tenant) : Bool :=
  (decide (message.messageType = .digestGenerate) ||
    !tenant.demoExpired (answers.clock .expiry)) &&
    !quotaSpent tenant usageType answers world

/-- Whether a language model message comes to call a model: the local one when there is one to
ask, or else the cloud, for which the credentials must decrypt. -/
def reachesModel (worker : QueueWorker) (message : QueueMessage) (answers : Answers)
    (tenant : Tenant) : Bool :=
  let decrypts := (buildTenantSettings worker.tenantMgr tenant).isOk
  if usesLocal message tenant then
    match answers.localClient, answers.localAvailable with
    | .ok _, .ok true => true
    | .ok _, .ok false => decrypts
    | .ok _, .error exception => PyException.isLocalFailure exception && decrypts
    | .error exception, _ => PyException.isLocalFailure exception && decrypts
  else decrypts

/-- Whether a message that was admitted comes to start its work. -/
def reachesWork (worker : QueueWorker) (message : QueueMessage) (answers : Answers)
    (admitted : World) (tenant : Tenant) : Bool :=
  match message.messageType with
  | .pipelineRun =>
    (match demoCapExceeded admitted tenant message.tenantId with
      | .ok exceeded => !exceeded
      | .error _ => false) &&
      (buildTenantSettings worker.tenantMgr tenant).isOk
  | .digestGenerate => true
  | .llmGenerate => reachesModel worker message answers tenant
  | _ => false

namespace Attempt

variable (worker : QueueWorker) {tenantId : String}
  (attempt : Attempt worker.tenantMgr tenantId) (message : QueueMessage) (usageType : UsageType)

/-- What an attempt adds to the counter of its tenant on its day. -/
def charge : ℚ :=
  ((attempt.run worker message).2.counter message.tenantId usageType
      (quotaDay attempt.answers)).getD 0 -
    (attempt.world.counter message.tenantId usageType (quotaDay attempt.answers)).getD 0

/-- Whether an attempt starts an execution or a call of a language model. -/
def executes : Prop :=
  attempt.world.tally startsWork < (attempt.run worker message).2.tally startsWork

/-- Whether an attempt is admitted. -/
def admitted : Bool :=
  match storedTenant worker.tenantMgr (attempt.answers.clock .record) attempt.world
    message.tenantId with
  | .ok (some tenant) => admits message usageType attempt.answers attempt.world tenant
  | _ => false

/-- Whether an attempt is admitted and comes to start its work. -/
def reaches : Bool :=
  match storedTenant worker.tenantMgr (attempt.answers.clock .record) attempt.world
    message.tenantId with
  | .ok (some tenant) =>
    admits message usageType attempt.answers attempt.world tenant &&
      reachesWork worker message attempt.answers
        (attempt.world.checkQuota tenant.tenantId usageType (usageType.limit tenant.quota)
          (quotaDay attempt.answers)).2 tenant
  | _ => false

end Attempt

section Counter

variable {message : QueueMessage} {tenant : Tenant} {answers : Answers} {world : World}
  {usageType : UsageType} {refusal : Dict} {work : Routine Unit}

/-- Recording a result changes no counter. -/
theorem counter_recordResult (result : Dict) (day : String) :
    (world.writeJson (jobResultKey message.tenantId message.messageId) result).2.counter
        message.tenantId usageType day =
      world.counter message.tenantId usageType day :=
  World.counter_writeJson (fun _ _ => jobResult_path_ne_dailyUsage) day

/-- A message beyond the quota costs nothing. -/
theorem counter_withinQuota_of_spent (own : tenant.tenantId = message.tenantId)
    (spent : quotaSpent tenant usageType answers world = true) :
    ((withinQuota message tenant usageType refusal work).run answers world).2.counter
        message.tenantId usageType (quotaDay answers) =
      world.counter message.tenantId usageType (quotaDay answers) := by
  have none : world.hasQuota tenant.tenantId usageType (usageType.limit tenant.quota)
      (quotaDay answers) = false := by simpa [quotaSpent] using spent
  have usage := World.currentUsage_of_not_hasQuota none
  have outcome := (World.checkQuota_of_not_hasQuota none).1
  rw [run_withinQuota]
  unfold quotaDay at usage outcome ⊢
  cases asked : world.checkQuota tenant.tenantId usageType (usageType.limit tenant.quota)
    (answers.clock .quota).dayKey with
  | mk answer left =>
    rw [asked, own] at usage
    rw [asked] at outcome
    have same : left.counter message.tenantId usageType (answers.clock .quota).dayKey =
        world.counter message.tenantId usageType (answers.clock .quota).dayKey := by
      simp only [World.counter, usage]
    cases answer with
    | error exception => exact same
    | ok admitted =>
      cases admitted with
      | true => exact absurd rfl outcome
      | false => exact (counter_recordResult refusal _).trans same

/-- A message within the quota costs one unit. -/
theorem counter_withinQuota_of_left (refusal : Dict) (own : tenant.tenantId = message.tenantId)
    (left : ¬ quotaSpent tenant usageType answers world = true)
    (keeps : ∀ left, (work.run answers left).2.dailyUsage = left.dailyUsage) :
    ∃ number, world.counter message.tenantId usageType (quotaDay answers) = some number ∧
      ((withinQuota message tenant usageType refusal work).run answers world).2.counter
        message.tenantId usageType (quotaDay answers) = some (number + 1) := by
  obtain ⟨usage, number, current, counts, admitted⟩ := exists_charge_of_not_spent left
  have stays : ((withinQuota message tenant usageType refusal work).run answers
      world).2.dailyUsage = _ := dailyUsage_withinQuota admitted keeps
  rw [own] at current stays
  exact ⟨number, (World.counter_eq current).trans counts,
    World.counter_of_charge current counts stays⟩

/-- Recording a result starts no work. -/
theorem tally_recordResult (result : Dict) :
    (world.writeJson (jobResultKey message.tenantId message.messageId) result).2.tally
      startsWork = world.tally startsWork := by
  unfold World.writeJson
  cases world.storage.writeJson (jobResultKey message.tenantId message.messageId) result with
  | error exception => rfl
  | ok storage => simp [World.tally, World.log, startsWork]

/-- A message beyond the quota starts no work. -/
theorem tally_withinQuota_of_spent (spent : quotaSpent tenant usageType answers world = true) :
    ((withinQuota message tenant usageType refusal work).run answers world).2.tally startsWork =
      world.tally startsWork := by
  have none : world.hasQuota tenant.tenantId usageType (usageType.limit tenant.quota)
      (quotaDay answers) = false := by simpa [quotaSpent] using spent
  have outcome := (World.checkQuota_of_not_hasQuota none).1
  obtain ⟨dailyUsage, frame⟩ := World.checkQuota_frame world tenant.tenantId usageType
    (usageType.limit tenant.quota) (quotaDay answers)
  rw [run_withinQuota]
  unfold quotaDay at outcome frame
  cases asked : world.checkQuota tenant.tenantId usageType (usageType.limit tenant.quota)
    (answers.clock .quota).dayKey with
  | mk answer left =>
    rw [asked] at outcome frame
    have same : left.tally startsWork = world.tally startsWork := by
      rw [show left = { world with dailyUsage } from frame]
      rfl
    cases answer with
    | error exception => exact same
    | ok admitted =>
      cases admitted with
      | true => exact absurd rfl outcome
      | false => exact (tally_recordResult refusal).trans same

/-- A message within the quota is worked on. -/
theorem run_withinQuota_of_left (left : ¬ quotaSpent tenant usageType answers world = true) :
    (withinQuota message tenant usageType refusal work).run answers world =
      work.run answers (world.checkQuota tenant.tenantId usageType
        (usageType.limit tenant.quota) (quotaDay answers)).2 := by
  obtain ⟨usage, number, -, -, admitted⟩ := exists_charge_of_not_spent left
  rw [run_withinQuota]
  unfold quotaDay at admitted ⊢
  rw [admitted]

end Counter

section Starts

variable {worker : QueueWorker} {message : QueueMessage} {tenant : Tenant} {answers : Answers}
  {world : World}

/-- A routine whose first action starts work starts work, however it goes on. -/
theorem starts_of_begins {α : Type} {routine : Routine α} {action : Action}
    {next : Except PyException action.Answer → Routine α}
    (begins : routine = Program.perform action next)
    (starts : 0 < (emitted answers world action).countP startsWork) :
    world.tally startsWork < (routine.run answers world).2.tally startsWork := by
  have later := World.tally_le_run answers (next (world.respond answers action).1)
    (world.respond answers action).2 startsWork
  rw [World.tally_respond] at later
  rw [begins]
  exact lt_of_lt_of_le (Nat.lt_add_of_pos_right starts) later

/-- A pipeline message starts its execution within the cap, when the credentials decrypt. -/
theorem starts_pipelineWork :
    world.tally startsWork <
        ((pipelineWork worker message tenant).run answers world).2.tally startsWork ↔
      ((match demoCapExceeded world tenant message.tenantId with
        | .ok exceeded => !exceeded
        | .error _ => false) &&
        (buildTenantSettings worker.tenantMgr tenant).isOk) = true := by
  unfold pipelineWork
  rw [run_bind, run_overDemoCap]
  cases demoCapExceeded world tenant message.tenantId with
  | error exception => simp
  | ok exceeded =>
    cases exceeded with
    | true =>
      simp only [if_true, run_storeJobResult, tally_recordResult]
      simp
    | false =>
      simp only [Bool.false_eq_true, if_false, run_bind, run_lift]
      cases buildTenantSettings worker.tenantMgr tenant with
      | error exception => simp [Except.isOk, Except.toBool]
      | ok settings =>
        apply iff_of_true _ rfl
        exact starts_of_begins rfl Nat.one_pos

/-- Augmenting the prompt starts no work. -/
theorem run_augmentSystemPrompt (prompt systemPrompt : Json) :
    ∃ augmented left, (augmentSystemPrompt tenant message.tenantId prompt systemPrompt).run answers
        world = (.ok augmented, left) ∧ left.tally startsWork = world.tally startsWork := by
  unfold augmentSystemPrompt
  split
  · rw [run_tryCatch, run_bind, run_augmentPrompt]
    cases answers.augmentPrompt world.chunks with
    | error exception => exact ⟨_, _, rfl, by simp [World.tally, World.log, startsWork]⟩
    | ok augmented => exact ⟨_, _, rfl, by simp [World.tally, World.log, startsWork]⟩
  · exact ⟨_, _, rfl, rfl⟩

/-- What the exceptions of the local part lead to. -/
def localFailure (exception : PyException) (left : World) :
    Except PyException (Option String) × World :=
  if PyException.isLocalFailure exception then (.ok none, left) else (.error exception, left)

/-- The local part of a language model message, branch by branch. -/
theorem run_generateLocally (message : QueueMessage) (answers : Answers) (world : World)
    (useLocal : Bool) (prompt systemPrompt : Json) :
    (generateLocally useLocal message.tenantId prompt systemPrompt).run answers world =
      if useLocal then
        match answers.localClient with
        | .error exception => localFailure exception world
        | .ok _ =>
          match answers.localAvailable with
          | .error exception => localFailure exception world
          | .ok false => (.ok none, world)
          | .ok true =>
            match answers.localChat with
            | .error exception => localFailure exception
                (world.log (.calledLlm message.tenantId answers.started))
            | .ok text => (.ok text, world.log (.calledLlm message.tenantId answers.started))
      else (.ok none, world) := by
  have handles : ∀ (exception : PyException) (left : World),
      Routine.run (if PyException.isLocalFailure exception then pure none
        else Program.raise exception : Routine (Option String)) answers left =
        localFailure exception left := by
    intro exception left
    unfold localFailure
    split <;> rfl
  unfold generateLocally
  cases useLocal with
  | false => rfl
  | true =>
    simp only [if_true, run_tryCatch, run_bind, run_localClient, run_localAvailable, handles]
    cases answers.localClient with
    | error exception => rfl
    | ok client =>
      cases answers.localAvailable with
      | error exception => rfl
      | ok available =>
        cases available with
        | false => rfl
        | true =>
          simp only [if_true, run_localChat]
          cases answers.localChat <;> rfl

/-- Without a local result the cloud is called, when the credentials decrypt. -/
theorem starts_cloud {routine : Routine (Option String)} {rest : Option String → Routine Unit}
    {prompt systemPrompt : Json} (ran : routine.run answers world = (.ok none, world)) :
    world.tally startsWork <
        ((do
          let result ← routine
          let text ← generateInCloud worker tenant message.tenantId prompt systemPrompt result
          rest text).run answers world).2.tally startsWork ↔
      (buildTenantSettings worker.tenantMgr tenant).isOk = true := by
  rw [run_bind, ran]
  simp only [generateInCloud, run_bind, run_lift]
  cases buildTenantSettings worker.tenantMgr tenant with
  | error exception => simp [Except.isOk, Except.toBool]
  | ok settings =>
    apply iff_of_true _ rfl
    have calls : world.tally startsWork <
        ((callLlm message.tenantId prompt systemPrompt >>= rest).run answers world).2.tally
          startsWork := starts_of_begins rfl Nat.one_pos
    rw [run_bind] at calls
    exact calls

/-- A failure of the local part leads to the cloud or ends the handling. -/
theorem starts_cloud_of_failure {routine : Routine (Option String)}
    {rest : Option String → Routine Unit} {prompt systemPrompt : Json} {exception : PyException}
    (ran : routine.run answers world = localFailure exception world) :
    world.tally startsWork <
        ((do
          let result ← routine
          let text ← generateInCloud worker tenant message.tenantId prompt systemPrompt result
          rest text).run answers world).2.tally startsWork ↔
      (PyException.isLocalFailure exception &&
        (buildTenantSettings worker.tenantMgr tenant).isOk) = true := by
  unfold localFailure at ran
  cases caught : PyException.isLocalFailure exception with
  | false =>
    rw [caught] at ran
    rw [run_bind, ran]
    simp
  | true =>
    rw [caught] at ran
    rw [Bool.true_and]
    exact starts_cloud ran

/-- A call of the local model is a start. -/
theorem starts_local {routine : Routine (Option String)} {rest : Option String → Routine Unit}
    (called : world.tally startsWork < (routine.run answers world).2.tally startsWork) :
    world.tally startsWork <
      ((routine >>= rest).run answers world).2.tally startsWork := by
  rw [run_bind]
  cases ran : routine.run answers world with
  | mk outcome left =>
    rw [ran] at called
    cases outcome with
    | error exception => exact called
    | ok result => exact lt_of_lt_of_le called (World.tally_le_run answers _ left startsWork)

/-- A language model message calls a model when it reaches one. -/
theorem starts_llmWork :
    world.tally startsWork <
        ((llmWork worker message tenant).run answers world).2.tally startsWork ↔
      reachesModel worker message answers tenant = true := by
  obtain ⟨systemPrompt, left, augmented, same⟩ : ∃ augmented left,
      (augmentSystemPrompt tenant message.tenantId (message.payload.getD "prompt" (.str ""))
        (message.payload.getD "system_prompt" (.str "You are a helpful assistant."))).run answers
        world = (.ok augmented, left) ∧ left.tally startsWork = world.tally startsWork :=
    run_augmentSystemPrompt _ _
  have ran := run_generateLocally message answers left
    (usesLocal message tenant) (message.payload.getD "prompt" (.str "")) systemPrompt
  unfold llmWork reachesModel
  rw [run_bind, augmented, ← same]
  cases local? : usesLocal message tenant with
  | false =>
    rw [local?] at ran
    exact starts_cloud ran
  | true =>
    rw [local?] at ran
    cases client : answers.localClient with
    | error exception =>
      rw [client] at ran
      exact starts_cloud_of_failure ran
    | ok built =>
      rw [client] at ran
      cases available : answers.localAvailable with
      | error exception =>
        rw [available] at ran
        exact starts_cloud_of_failure ran
      | ok is =>
        rw [available] at ran
        cases is with
        | false => exact starts_cloud ran
        | true =>
          apply iff_of_true _ rfl
          apply starts_local
          rw [ran]
          have one : left.tally startsWork <
              (left.log (.calledLlm message.tenantId answers.started)).tally startsWork := by
            simp [World.tally, World.log, startsWork]
          cases answers.localChat with
          | ok text => exact one
          | error exception =>
            simp only [if_true, localFailure]
            split <;> exact one

end Starts

/-- What a handler does with a message that its quota check admits. -/
def admittedWork (worker : QueueWorker) (message : QueueMessage) (tenant : Tenant) :
    Routine Unit :=
  match message.messageType with
  | .pipelineRun => pipelineWork worker message tenant
  | .digestGenerate => digestWork message tenant
  | .llmGenerate => llmWork worker message tenant
  | _ => pure ()

/-- The result of a handler whose quota check refuses. -/
def quotaRefusal : UsageType → Dict
  | .pipelineRun => pipelineQuotaResult
  | .llmCall => llmQuotaResult

section Gate

variable {worker : QueueWorker} {message : QueueMessage} {tenant : Tenant} {answers : Answers}
  {world : World} {usageType : UsageType}

/-- The handlers of the messages that are charged gate them in one way; only the digest is not
checked for expiry. -/
theorem handler_of_chargedTo (charged : chargedTo message.messageType = some usageType) :
    handler worker message =
      withTenant worker message fun tenant =>
        if message.messageType = .digestGenerate then
          withinQuota message tenant usageType (quotaRefusal usageType)
            (admittedWork worker message tenant)
        else
          unlessExpired message tenant (withinQuota message tenant usageType
            (quotaRefusal usageType) (admittedWork worker message tenant)) := by
  unfold handler admittedWork
  cases kind : message.messageType with
  | pipelineRun =>
    rw [kind] at charged
    obtain rfl := Option.some.inj charged
    rfl
  | digestGenerate =>
    rw [kind] at charged
    obtain rfl := Option.some.inj charged
    rfl
  | llmGenerate =>
    rw [kind] at charged
    obtain rfl := Option.some.inj charged
    rfl
  | _ =>
    rw [kind] at charged
    cases charged

/-- What the handlers of the messages that are charged do, branch by branch. -/
theorem run_handler_of_chargedTo (charged : chargedTo message.messageType = some usageType) :
    (handler worker message).run answers world =
      match storedTenant worker.tenantMgr (answers.clock .record) world message.tenantId with
      | .error exception => (.error exception, world)
      | .ok none => (.ok (), world)
      | .ok (some tenant) =>
        if message.messageType ≠ .digestGenerate ∧
            tenant.demoExpired (answers.clock .expiry) = true then
          world.writeJson (jobResultKey message.tenantId message.messageId) demoExpiredResult
        else
          (withinQuota message tenant usageType (quotaRefusal usageType)
            (admittedWork worker message tenant)).run answers world := by
  rw [handler_of_chargedTo charged, run_withTenant]
  cases storedTenant worker.tenantMgr (answers.clock .record) world message.tenantId with
  | error exception => rfl
  | ok found =>
    cases found with
    | none => rfl
    | some tenant =>
      by_cases digest : message.messageType = .digestGenerate
      · simp only [digest, if_true, ne_eq, not_true_eq_false, false_and, if_false]
      · simp only [digest, if_false, run_unlessExpired, ne_eq, not_false_eq_true, true_and]

/-- The work of an admitted message keeps to the conduct of a handling that was admitted. -/
theorem safe_admittedWork (charged : chargedTo message.messageType = some usageType) :
    Program.Safe (conduct worker message fun _ => True) Settles
      (admittedWork worker message tenant) { checked := true, credit := some usageType } := by
  unfold admittedWork
  cases kind : message.messageType with
  | pipelineRun =>
    rw [kind] at charged
    obtain rfl := Option.some.inj charged
    exact safe_pipelineWork trivial rfl rfl
  | digestGenerate =>
    rw [kind] at charged
    obtain rfl := Option.some.inj charged
    exact safe_digestWork kind trivial rfl rfl
  | llmGenerate =>
    rw [kind] at charged
    obtain rfl := Option.some.inj charged
    exact safe_llmWork rfl rfl
  | _ =>
    rw [kind] at charged
    cases charged

/-- A message that is not refused for expiry is admitted when a unit is left. -/
theorem admits_eq (current : ¬ (message.messageType ≠ .digestGenerate ∧
      tenant.demoExpired (answers.clock .expiry) = true)) :
    admits message usageType answers world tenant =
      !quotaSpent tenant usageType answers world := by
  have open' : (decide (message.messageType = .digestGenerate) ||
      !tenant.demoExpired (answers.clock .expiry)) = true := by
    by_cases digest : message.messageType = .digestGenerate
    · simp [digest]
    · have fresh : ¬ tenant.demoExpired (answers.clock .expiry) = true :=
        fun is => current ⟨digest, is⟩
      simp [fresh]
  rw [admits, open', Bool.true_and]

/-- A message that is refused for expiry is not admitted. -/
theorem not_admits (expired : message.messageType ≠ .digestGenerate ∧
      tenant.demoExpired (answers.clock .expiry) = true) :
    admits message usageType answers world tenant = false := by
  simp [admits, expired.1, expired.2]

/-- A handling of a message that is not admitted, and of one that is: the former leaves the
counter and starts nothing, the latter goes on with its work where the quota was charged. -/
theorem run_handler_cases (charged : chargedTo message.messageType = some usageType)
    (attempt : Attempt worker.tenantMgr message.tenantId) :
    (attempt.admitted worker message usageType = false ∧
      (attempt.run worker message).2.counter message.tenantId usageType
          (quotaDay attempt.answers) =
        attempt.world.counter message.tenantId usageType (quotaDay attempt.answers) ∧
      (attempt.run worker message).2.tally startsWork = attempt.world.tally startsWork) ∨
    (attempt.admitted worker message usageType = true ∧
      ∃ tenant number, storedTenant worker.tenantMgr (attempt.answers.clock .record)
          attempt.world message.tenantId = .ok (some tenant) ∧
        attempt.world.counter message.tenantId usageType (quotaDay attempt.answers) =
          some number ∧
        (attempt.run worker message).2.counter message.tenantId usageType
          (quotaDay attempt.answers) = some (number + 1) ∧
        attempt.run worker message = (admittedWork worker message tenant).run attempt.answers
          (attempt.world.checkQuota tenant.tenantId usageType (usageType.limit tenant.quota)
            (quotaDay attempt.answers)).2) := by
  unfold Attempt.admitted Attempt.run
  rw [run_handler_of_chargedTo charged]
  cases stored : storedTenant worker.tenantMgr (attempt.answers.clock .record) attempt.world
    message.tenantId with
  | error exception => exact Or.inl ⟨rfl, rfl, rfl⟩
  | ok found =>
    cases found with
    | none => exact Or.inl ⟨rfl, rfl, rfl⟩
    | some tenant =>
      have own := attempt.own tenant stored
      by_cases expired : message.messageType ≠ .digestGenerate ∧
          tenant.demoExpired (attempt.answers.clock .expiry) = true
      · simp only [if_pos expired]
        exact Or.inl ⟨not_admits expired, counter_recordResult _ _, tally_recordResult _⟩
      · simp only [if_neg expired, admits_eq expired]
        by_cases spent : quotaSpent tenant usageType attempt.answers attempt.world = true
        · refine Or.inl ⟨by simp [spent], counter_withinQuota_of_spent own spent, ?_⟩
          exact tally_withinQuota_of_spent spent
        · obtain ⟨number, before, after⟩ := counter_withinQuota_of_left
            (quotaRefusal usageType) own spent
            (dailyUsage_of_safe rfl (safe_admittedWork charged) attempt.answers)
          refine Or.inr ⟨by simp [spent], tenant, number, rfl, before, after, ?_⟩
          exact run_withinQuota_of_left spent

/-- An attempt costs one unit when it is admitted, and else nothing. -/
theorem Attempt.charge_eq (attempt : Attempt worker.tenantMgr message.tenantId)
    (charged : chargedTo message.messageType = some usageType) :
    attempt.charge worker message usageType =
      if attempt.admitted worker message usageType then 1 else 0 := by
  unfold Attempt.charge
  rcases run_handler_cases charged attempt with
    ⟨refused, same, -⟩ | ⟨admitted, tenant, number, -, before, after, -⟩
  · rw [same, refused]
    simp
  · rw [before, after, admitted]
    simp

/-- Admitted work starts when it reaches its start. -/
theorem starts_admittedWork (charged : chargedTo message.messageType = some usageType) :
    world.tally startsWork <
        ((admittedWork worker message tenant).run answers world).2.tally startsWork ↔
      reachesWork worker message answers world tenant = true := by
  unfold admittedWork reachesWork
  cases kind : message.messageType with
  | pipelineRun => exact starts_pipelineWork
  | digestGenerate => exact iff_of_true (starts_of_begins rfl Nat.one_pos) rfl
  | llmGenerate => exact starts_llmWork
  | _ =>
    rw [kind] at charged
    cases charged

/-- An attempt executes exactly when it is admitted and reaches its work. -/
theorem Attempt.executes_iff (attempt : Attempt worker.tenantMgr message.tenantId)
    (charged : chargedTo message.messageType = some usageType) :
    attempt.executes worker message ↔ attempt.reaches worker message usageType = true := by
  rcases run_handler_cases charged attempt with
    ⟨refused, -, same⟩ | ⟨admitted, tenant, number, stored, -, -, ran⟩
  · have unreached : attempt.reaches worker message usageType = false := by
      unfold Attempt.reaches
      unfold Attempt.admitted at refused
      cases stored : storedTenant worker.tenantMgr (attempt.answers.clock .record) attempt.world
        message.tenantId with
      | error exception => rfl
      | ok found =>
        cases found with
        | none => rfl
        | some tenant =>
          rw [stored] at refused
          simp only [refused, Bool.false_and]
    unfold Attempt.executes
    rw [same, unreached]
    simp
  · have admits' : admits message usageType attempt.answers attempt.world tenant = true := by
      unfold Attempt.admitted at admitted
      rwa [stored] at admitted
    have untouched : (attempt.world.checkQuota tenant.tenantId usageType
        (usageType.limit tenant.quota) (quotaDay attempt.answers)).2.tally startsWork =
        attempt.world.tally startsWork := by
      obtain ⟨dailyUsage, frame⟩ := World.checkQuota_frame attempt.world tenant.tenantId usageType
        (usageType.limit tenant.quota) (quotaDay attempt.answers)
      rw [frame]
      rfl
    unfold Attempt.executes Attempt.reaches
    rw [ran, stored]
    simp only [admits', Bool.true_and]
    rw [← untouched]
    exact starts_admittedWork charged

/-- An attempt that reaches its work was admitted. -/
theorem Attempt.admitted_of_reaches (attempt : Attempt worker.tenantMgr message.tenantId)
    (reached : attempt.reaches worker message usageType = true) :
    attempt.admitted worker message usageType = true := by
  unfold Attempt.reaches at reached
  unfold Attempt.admitted
  cases stored : storedTenant worker.tenantMgr (attempt.answers.clock .record) attempt.world
    message.tenantId with
  | error exception =>
    rw [stored] at reached
    cases reached
  | ok found =>
    cases found with
    | none =>
      rw [stored] at reached
      cases reached
    | some tenant =>
      rw [stored] at reached
      exact (Bool.and_eq_true_iff.mp reached).1

/-- What a message costs over its life. -/
def totalCharge (worker : QueueWorker) (message : QueueMessage) (usageType : UsageType)
    (attempts : List (Attempt worker.tenantMgr message.tenantId)) : ℚ :=
  (attempts.map fun attempt => attempt.charge worker message usageType).sum

/-- A message costs as many units as it has admitted attempts. -/
theorem totalCharge_eq (charged : chargedTo message.messageType = some usageType)
    (attempts : List (Attempt worker.tenantMgr message.tenantId)) :
    totalCharge worker message usageType attempts =
      attempts.countP fun attempt => attempt.admitted worker message usageType := by
  unfold totalCharge
  induction attempts with
  | nil => simp
  | cons attempt rest ih =>
    rw [List.map_cons, List.sum_cons, ih, attempt.charge_eq charged, List.countP_cons]
    split <;> simp [add_comm]

/-- The life of a message that is given up. -/
def GivenUp (worker : QueueWorker) (message : QueueMessage)
    (attempts : List (Attempt worker.tenantMgr message.tenantId)) : Prop :=
  Machine.run (lifeStep worker message.tenantId) (.waiting message) attempts =
    some .deadLettered

/-- A message costs at most one unit over its life, and nothing when it is given up without
having executed. -/
def CostsAtMostOne (worker : QueueWorker) (message : QueueMessage) (usageType : UsageType)
    (attempts : List (Attempt worker.tenantMgr message.tenantId)) : Prop :=
  totalCharge worker message usageType attempts ≤ 1 ∧
    (GivenUp worker message attempts →
      (∀ attempt ∈ attempts, ¬ attempt.executes worker message) →
      totalCharge worker message usageType attempts = 0)

/-- At most one attempt is admitted, and a message that is given up has not been admitted
without reaching its work. -/
def AdmittedAtMostOnce (worker : QueueWorker) (message : QueueMessage) (usageType : UsageType)
    (attempts : List (Attempt worker.tenantMgr message.tenantId)) : Prop :=
  (attempts.countP fun attempt => attempt.admitted worker message usageType) ≤ 1 ∧
    (GivenUp worker message attempts →
      (∃ attempt ∈ attempts, attempt.admitted worker message usageType = true) →
      ∃ attempt ∈ attempts, attempt.reaches worker message usageType = true)

/-- A message costs at most one unit, and nothing when it is given up unexecuted, exactly when
at most one of its attempts is admitted and, if it is given up, that one reached its work. -/
theorem costsAtMostOne_iff (worker : QueueWorker) (message : QueueMessage)
    {usageType : UsageType} (charged : chargedTo message.messageType = some usageType)
    (attempts : List (Attempt worker.tenantMgr message.tenantId)) :
    CostsAtMostOne worker message usageType attempts ↔
      AdmittedAtMostOnce worker message usageType attempts := by
  unfold CostsAtMostOne AdmittedAtMostOnce
  rw [totalCharge_eq charged, Nat.cast_le_one, Nat.cast_eq_zero, List.countP_eq_zero]
  apply and_congr_right
  intro _
  apply imp_congr_right
  intro _
  constructor
  · rintro free ⟨attempt, member, admitted⟩
    by_contra unreached
    refine free (fun other inside executes => ?_) attempt member admitted
    exact unreached ⟨other, inside, (other.executes_iff charged).mp executes⟩
  · intro reaches unexecuted attempt member admitted
    obtain ⟨other, inside, reached⟩ := reaches ⟨attempt, member, admitted⟩
    exact unexecuted other inside ((other.executes_iff charged).mpr reached)

end Gate

/-- A message of the sample tenant, attempted once. -/
theorem costsAtMostOne_iff_unbound :
    CostsAtMostOne sampleWorker (sampleMessage .pipelineRun) .pipelineRun [unboundAttempt] ↔
      AdmittedAtMostOnce sampleWorker (sampleMessage .pipelineRun) .pipelineRun
        [unboundAttempt] :=
  costsAtMostOne_iff sampleWorker (sampleMessage .pipelineRun) rfl [unboundAttempt]

/-- A second attempt for the tenant whose credential does not decrypt: the first one's charge is
in memory. -/
def secondAttempt : Attempt sampleWorker.tenantMgr "tn_a" where
  world := (storedWorld unboundTenant).setUsage "tn_a"
    [("pipeline_runs", .int 1), ("llm_calls", .int 0), ("date", .str "2025-01-01")]
  answers := unboundAttempt.answers
  own := unboundAttempt.own

/-- A unit is left for the first attempt. -/
theorem unboundAttempt_left :
    ¬ quotaSpent unboundTenant .pipelineRun unboundAttempt.answers unboundAttempt.world =
      true := by
  have counter : unboundAttempt.world.counter unboundTenant.tenantId .pipelineRun
      (quotaDay unboundAttempt.answers) = some 0 := rfl
  have limit : UsageType.limit unboundTenant.quota .pipelineRun = 20 := rfl
  simp only [quotaSpent, World.hasQuota, counter, limit, Option.any_some]
  norm_num

/-- A unit is left for the second attempt. -/
theorem secondAttempt_left :
    ¬ quotaSpent unboundTenant .pipelineRun secondAttempt.answers secondAttempt.world =
      true := by
  have counter : secondAttempt.world.counter unboundTenant.tenantId .pipelineRun
      (quotaDay secondAttempt.answers) = some 1 := rfl
  have limit : UsageType.limit unboundTenant.quota .pipelineRun = 20 := rfl
  simp only [quotaSpent, World.hasQuota, counter, limit, Option.any_some]
  norm_num

/-- The second attempt finds what the first one left. -/
theorem run_unboundAttempt_pipelineRun :
    unboundAttempt.run sampleWorker (sampleMessage .pipelineRun) =
      (.error (.credentialNotDecryptable "tenant tn_a has no owner_google_sub bound"),
        secondAttempt.world) := by
  have stored : storedTenant sampleWorker.tenantMgr (unboundAttempt.answers.clock .record)
      unboundAttempt.world (sampleMessage .pipelineRun).tenantId = .ok (some unboundTenant) :=
    storedTenant_storedWorld unboundTenant rfl rfl _
  have settings : buildTenantSettings sampleWorker.tenantMgr unboundTenant =
      .error (.credentialNotDecryptable "tenant tn_a has no owner_google_sub bound") := rfl
  have cap : demoCapExceeded secondAttempt.world unboundTenant
      (sampleMessage .pipelineRun).tenantId = .ok false := rfl
  have charged : (unboundAttempt.world.checkQuota unboundTenant.tenantId .pipelineRun
      (UsageType.limit unboundTenant.quota .pipelineRun)
      (quotaDay unboundAttempt.answers)).2 = secondAttempt.world := by
    obtain ⟨usage, number, current, -, admitted⟩ :=
      exists_charge_of_not_spent unboundAttempt_left
    have fresh : unboundAttempt.world.currentUsage unboundTenant.tenantId
        (quotaDay unboundAttempt.answers) = .ok (freshUsage "2025-01-01") := rfl
    obtain rfl := Except.ok.inj (fresh.symm.trans current)
    rw [admitted]
    rfl
  have work : (admittedWork sampleWorker (sampleMessage .pipelineRun) unboundTenant).run
      unboundAttempt.answers secondAttempt.world =
      (.error (.credentialNotDecryptable "tenant tn_a has no owner_google_sub bound"),
        secondAttempt.world) := by
    change (pipelineWork sampleWorker (sampleMessage .pipelineRun) unboundTenant).run _ _ = _
    unfold pipelineWork
    rw [run_bind, run_overDemoCap, cap]
    simp only [Bool.false_eq_true, if_false, run_bind, run_lift, settings]
  have kind : chargedTo (sampleMessage .pipelineRun).messageType = some .pipelineRun := rfl
  unfold Attempt.run
  rw [run_handler_of_chargedTo kind, stored]
  simp only
  rw [if_neg (by decide), run_withinQuota_of_left unboundAttempt_left, charged, work]

/-- An attempt for the tenant whose credential does not decrypt costs a unit while one is left. -/
theorem charge_of_left
    (attempt : Attempt sampleWorker.tenantMgr (sampleMessage .pipelineRun).tenantId)
    (stored : storedTenant sampleWorker.tenantMgr (attempt.answers.clock .record)
      attempt.world (sampleMessage .pipelineRun).tenantId = .ok (some unboundTenant))
    (left : ¬ quotaSpent unboundTenant .pipelineRun attempt.answers attempt.world = true) :
    attempt.charge sampleWorker (sampleMessage .pipelineRun) .pipelineRun = 1 := by
  have current : unboundTenant.demoExpired (attempt.answers.clock .expiry) = false := rfl
  have charged : chargedTo (sampleMessage .pipelineRun).messageType = some .pipelineRun := rfl
  rw [attempt.charge_eq charged, if_pos]
  unfold Attempt.admitted
  rw [stored]
  simp [admits, current, left]

/-- A retry after a failure is charged again: two attempts cost two units. -/
theorem retry_not_costsAtMostOne :
    Machine.run (lifeStep sampleWorker "tn_a") (.waiting (sampleMessage .pipelineRun))
        [unboundAttempt] = some (.waiting (sampleMessage .pipelineRun).retried) ∧
      (unboundAttempt.run sampleWorker (sampleMessage .pipelineRun)).2 = secondAttempt.world ∧
      ¬ CostsAtMostOne sampleWorker (sampleMessage .pipelineRun) .pipelineRun
        [unboundAttempt, secondAttempt] := by
  refine ⟨?_, ?_, ?_⟩
  · rw [Machine.run_singleton]
    simp only [lifeStep, run_unboundAttempt_pipelineRun]
    rfl
  · rw [run_unboundAttempt_pipelineRun]
  · rintro ⟨cheap, -⟩
    have first := charge_of_left unboundAttempt
      (storedTenant_storedWorld unboundTenant rfl rfl _) unboundAttempt_left
    have second := charge_of_left secondAttempt
      (storedTenant_storedWorld unboundTenant rfl rfl _) secondAttempt_left
    have total : totalCharge sampleWorker (sampleMessage .pipelineRun) .pipelineRun
        [unboundAttempt, secondAttempt] = 1 + (1 + 0) :=
      congrArg₂ (· + ·) first (congrArg₂ (· + ·) second rfl)
    rw [total] at cheap
    norm_num at cheap

end VelaFlow.Queue
