import VelaFlow.Foundation.Machine
import VelaFlow.Queue.Conduct

/-!
# The life of a message

What `_run_loop` and `requeue` make of one message: it is handled until a handler returns or no
retries remain. Between two attempts anything may happen to the world.
-/
namespace VelaFlow.Queue

open Process Tenants

/-- How far a message has come. -/
inductive Life where
  /-- It waits to be handled. -/
  | waiting (message : QueueMessage)
  /-- A handler returned. -/
  | processed
  /-- No retries remained. -/
  | deadLettered

/-- Whether a message is no longer handled. -/
def Life.ended : Life → Bool
  | .waiting _ => false
  | .processed | .deadLettered => true

/-- The world an attempt to handle a message finds, and the answers it is given. The record
stored for the tenant is the tenant's own, as `_save_tenant` stores it. -/
structure Attempt (manager : TenantManager) (tenantId : String) where
  /-- The world before the attempt. -/
  world : World
  /-- The answers. -/
  answers : Answers
  /-- A record is stored under the id it has. -/
  own : ∀ tenant, storedTenant manager (answers.clock .record) world tenantId =
    .ok (some tenant) → tenant.tenantId = tenantId

/-- What a handler makes of an attempt. -/
def Attempt.run (worker : QueueWorker) {tenantId : String}
    (attempt : Attempt worker.tenantMgr tenantId) (message : QueueMessage) :
    Except PyException Unit × World :=
  (handler worker message).run attempt.answers attempt.world

/-- The body of `_run_loop` for one message. -/
def lifeStep (worker : QueueWorker) (tenantId : String) :
    Life → Attempt worker.tenantMgr tenantId → Option Life
  | .waiting message, attempt =>
    match (attempt.run worker message).1 with
    | .ok _ => some .processed
    | .error _ => some (if message.exhausted then .deadLettered else .waiting message.retried)
  | _, _ => none

/-- Handlers do not read the retry counter. -/
@[simp] theorem handler_retried (worker : QueueWorker) (message : QueueMessage) :
    handler worker message.retried = handler worker message := by
  unfold handler
  cases kind : message.messageType <;> simp only [QueueMessage.retried, kind] <;> rfl

/-- Whether an effect records the job result of a message. -/
def recordsResult (message : QueueMessage) : Effect → Bool
  | .wrote key _ => decide (key = jobResultKey message.tenantId message.messageId)
  | _ => false

/-- Whether an attempt records a job result. -/
def Attempt.records (worker : QueueWorker) {tenantId : String}
    (attempt : Attempt worker.tenantMgr tenantId) (message : QueueMessage) : Prop :=
  attempt.world.tally (recordsResult message) <
    (attempt.run worker message).2.tally (recordsResult message)

/-- An action records the job result only when the conduct says so. -/
theorem countP_recordsResult {message : QueueMessage} {answers : Answers} {world : World}
    {known : Conduct} {action : Action}
    (silent : (known.advance message action (world.respond answers action).1).recorded = false) :
    (emitted answers world action).countP (recordsResult message) = 0 := by
  cases action with
  | writeJson key data =>
    simp only [World.respond, World.writeJson] at silent
    simp only [emitted]
    cases writing : world.storage.writeJson key data with
    | error exception => rfl
    | ok storage =>
      rw [writing] at silent
      have other : recordsResult message (.wrote key data) = false :=
        (Bool.or_eq_false_iff.mp silent).2
      simp [Except.isOk, Except.toBool, other]
  | delete key =>
    simp only [emitted]
    split <;> rfl
  | _ => rfl

/-- A conduct that has recorded nothing stays so only while nothing is recorded. -/
theorem recorded_of_advance {message : QueueMessage} {known : Conduct} {action : Action}
    {answer : Except PyException action.Answer}
    (silent : (known.advance message action answer).recorded = false) :
    known.recorded = false := by
  unfold Conduct.advance at silent
  split at silent <;> first | exact silent | exact (Bool.or_eq_false_iff.mp silent).1

/-- A handling that raises has recorded no job result. -/
theorem not_records_of_raises (worker : QueueWorker) {tenantId : String}
    (attempt : Attempt worker.tenantMgr tenantId) (message : QueueMessage)
    (raises : (attempt.run worker message).1.isOk = false) :
    ¬ attempt.records worker message := by
  have keeps : ∀ (known : Conduct) (action : Action) (left : World),
      (known.recorded = false →
        left.tally (recordsResult message) = attempt.world.tally (recordsResult message)) →
      known.allowed message (fun _ => True) action →
      (conduct worker message fun _ => True).possible known action
        (left.respond attempt.answers action).1 ∧
      ((known.advance message action (left.respond attempt.answers action).1).recorded = false →
        (left.respond attempt.answers action).2.tally (recordsResult message) =
          attempt.world.tally (recordsResult message)) := by
    intro known action left same _
    refine ⟨possible_of_true worker message known action _, fun silent => ?_⟩
    rw [World.tally_respond, countP_recordsResult silent, same (recorded_of_advance silent),
      Nat.add_zero]
  obtain ⟨reached, same, settles⟩ := Program.Safe.run
    (fun (known : Conduct) (left : World) => known.recorded = false →
      left.tally (recordsResult message) = attempt.world.tally (recordsResult message))
    keeps (fun _ => rfl) (safe_handler worker message fun _ => True)
  intro records
  exact absurd (same (settles raises)) (Nat.ne_of_gt records)

/-- Whether a handling raised `CredentialNotDecryptable`. -/
def isCredentialFailure : Except PyException Unit → Bool
  | .error (.credentialNotDecryptable _) => true
  | _ => false

/-- A message is attempted exactly once and a job result is recorded for it. -/
def SettledAtOnce (worker : QueueWorker) (message : QueueMessage)
    (attempts : List (Attempt worker.tenantMgr message.tenantId)) : Prop :=
  attempts.length = 1 ∧ ∃ attempt ∈ attempts, attempt.records worker message

/-- A failure to decrypt a credential never settles its message at once: no result is recorded,
and while retries remain the message is attempted again. -/
theorem credentialFailure_not_settledAtOnce (worker : QueueWorker) (message : QueueMessage)
    (attempts : List (Attempt worker.tenantMgr message.tenantId)) {final : Life}
    (lived : Machine.run (lifeStep worker message.tenantId) (.waiting message) attempts =
      some final)
    (ended : final.ended = true) {attempt : Attempt worker.tenantMgr message.tenantId}
    (member : attempt ∈ attempts)
    (fails : isCredentialFailure (attempt.run worker message).1 = true) :
    ¬ SettledAtOnce worker message attempts ∧
      (message.exhausted = false → 1 < attempts.length) := by
  have raises : (attempt.run worker message).1.isOk = false := by
    cases outcome : (attempt.run worker message).1 with
    | ok value =>
      rw [outcome] at fails
      cases fails
    | error exception => rfl
  have only : attempts.length = 1 → attempts = [attempt] := by
    intro single
    obtain ⟨first, rfl⟩ := List.length_eq_one_iff.mp single
    rw [List.mem_singleton.mp member]
  constructor
  · rintro ⟨single, recorded, inside, records⟩
    rw [only single] at inside
    obtain rfl := List.mem_singleton.mp inside
    exact not_records_of_raises worker recorded message raises records
  · intro retries
    by_contra few
    have some : 0 < attempts.length := List.length_pos_of_mem member
    rw [only (by omega), Machine.run_singleton] at lived
    cases outcome : (attempt.run worker message).1 with
    | ok value =>
      rw [outcome] at raises
      cases raises
    | error exception =>
      simp only [lifeStep, outcome, retries, Bool.false_eq_true, if_false,
        Option.some.injEq] at lived
      rw [← lived] at ended
      cases ended

/-- An attempt in a world that has one tenant stored. -/
def sampleAttempt (tenant : Tenant) (named : tenant.tenantId = "tn_a")
    (aligned : tenant.postInit = tenant) :
    Attempt sampleWorker.tenantMgr "tn_a" where
  world := storedWorld tenant
  answers := sampleAnswers dayOne
  own read stored := by
    rw [storedTenant_storedWorld tenant named aligned] at stored
    obtain rfl := Option.some.inj (Except.ok.inj stored)
    exact named

/-- The sample tenant with a credential of an owner it is not bound to. -/
def unboundTenant : Tenant :=
  { sampleTenant with config := { todoistApiTokenEncrypted := "token" } }

/-- An attempt for a tenant whose credential does not decrypt. -/
def unboundAttempt : Attempt sampleWorker.tenantMgr "tn_a" := sampleAttempt unboundTenant rfl rfl

/-- The analysis of a board fails without a trace when the credential does not decrypt. -/
theorem run_unboundAttempt (message : QueueMessage) (board : message.messageType = .boardAnalysis)
    (own : message.tenantId = "tn_a") :
    unboundAttempt.run sampleWorker message =
      (.error (.credentialNotDecryptable "tenant tn_a has no owner_google_sub bound"),
        unboundAttempt.world) := by
  have stored := storedTenant_storedWorld unboundTenant rfl rfl
    (unboundAttempt.answers.clock .record)
  have missing : unboundTenant.config.todoistApiTokenEncrypted ≠ "" := by decide
  have settings : buildTenantSettings sampleWorker.tenantMgr unboundTenant =
      .error (.credentialNotDecryptable "tenant tn_a has no owner_google_sub bound") := rfl
  unfold Attempt.run handler
  rw [board]
  simp only [handleBoardAnalysis, run_withTenant, own]
  rw [show unboundAttempt.world = storedWorld unboundTenant from rfl, stored]
  simp only [run_withConnection, missing, if_false, settings]

/-- One step of the life of a message whose credential does not decrypt. -/
theorem lifeStep_unboundAttempt (message : QueueMessage)
    (board : message.messageType = .boardAnalysis) (own : message.tenantId = "tn_a") :
    lifeStep sampleWorker "tn_a" (.waiting message) unboundAttempt =
      some (if message.exhausted then .deadLettered else .waiting message.retried) := by
  simp only [lifeStep, run_unboundAttempt message board own]

/-- A message whose credential does not decrypt, with the default of three retries, is attempted
four times and given up. -/
theorem unboundAttempts_deadLettered :
    Machine.run (lifeStep sampleWorker "tn_a") (.waiting (sampleMessage .boardAnalysis))
      (List.replicate 4 unboundAttempt) = some .deadLettered := by
  simp only [List.replicate, Machine.run_cons]
  rw [lifeStep_unboundAttempt _ rfl rfl, if_neg (by decide), Option.bind_some,
    lifeStep_unboundAttempt _ rfl rfl, if_neg (by decide), Option.bind_some,
    lifeStep_unboundAttempt _ rfl rfl, if_neg (by decide), Option.bind_some,
    lifeStep_unboundAttempt _ rfl rfl, if_pos (by decide), Option.bind_some, Machine.run_nil]

/-- The attempt fails because of the credential. -/
theorem unboundAttempt_fails :
    isCredentialFailure (unboundAttempt.run sampleWorker (sampleMessage .boardAnalysis)).1 =
      true := by
  rw [run_unboundAttempt _ rfl rfl]
  rfl

/-- A message that fails to decrypt a credential is attempted four times. -/
theorem unbound_not_settledAtOnce :
    isCredentialFailure (unboundAttempt.run sampleWorker (sampleMessage .boardAnalysis)).1 =
        true ∧
      ¬ SettledAtOnce sampleWorker (sampleMessage .boardAnalysis)
        (List.replicate 4 unboundAttempt) := by
  refine ⟨unboundAttempt_fails, ?_⟩
  rintro ⟨single, -⟩
  cases single

/-- The failure that is attempted four times is no exception to the rule. -/
theorem credentialFailure_not_settledAtOnce_unbound :
    ¬ SettledAtOnce sampleWorker (sampleMessage .boardAnalysis)
        (List.replicate 4 unboundAttempt) ∧
      ((sampleMessage .boardAnalysis).exhausted = false →
        1 < (List.replicate 4 unboundAttempt).length) :=
  credentialFailure_not_settledAtOnce sampleWorker (sampleMessage .boardAnalysis)
    (List.replicate 4 unboundAttempt) unboundAttempts_deadLettered rfl
    (List.mem_replicate.mpr ⟨by decide, rfl⟩) unboundAttempt_fails

end VelaFlow.Queue
