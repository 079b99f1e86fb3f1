import VelaFlow.Api.Webhooks
import VelaFlow.Foundation.Machine
import VelaFlow.Queue.Loops
import VelaFlow.Queue.WorkerRuns

/-!
# Job statuses and outcomes

The webhook routes and the worker loops over one task queue. A route enqueues its message and only
then tracks it, so that a worker may come in between. A handler stores its result; the table of job
statuses is written by `_track_job` alone.
-/
namespace VelaFlow.Api

open Process Queue Security Storage Tenants

/-- How a message can end. -/
inductive Outcome where
  /-- Its handler returned, and refused nothing. -/
  | completed
  /-- The quota of the day was spent. -/
  | quotaExceeded
  /-- The demo had expired. -/
  | demoExpired
  /-- The cost cap of the demo was reached. -/
  | demoCostCap
  /-- The handler stored an error. -/
  | error
  /-- The retries ran out. -/
  | deadLettered
  deriving DecidableEq, Repr

namespace Outcome

/-- The status that names an outcome: the one that handlers store, where they store one. -/
def status : Outcome → String
  | completed => "completed"
  | quotaExceeded => "quota_exceeded"
  | demoExpired => "demo_expired"
  | demoCostCap => "demo_cost_cap"
  | error => "error"
  | deadLettered => "dead_lettered"

/-- The outcome of a handler that returned, by the job result that it stored. -/
def ofResult (result : Option Dict) : Outcome :=
  match result.bind fun data => data.get? "status" with
  | some (.str "quota_exceeded") => quotaExceeded
  | some (.str "demo_expired") => demoExpired
  | some (.str "demo_cost_cap") => demoCostCap
  | some (.str "error") => error
  | _ => completed

/-- No outcome is named as a job that waits, or as one that is not known. -/
theorem status_ne (outcome : Outcome) :
    outcome.status ≠ "queued" ∧ outcome.status ≠ "unknown" := by
  cases outcome <;> decide

end Outcome

/-- A message that a route enqueued. -/
structure Acceptance where
  /-- The message. -/
  message : Nat
  /-- `message_id`. -/
  messageId : String
  /-- `tenant_id`. -/
  tenantId : String
  /-- The type under which it is tracked. -/
  jobType : String
  deriving DecidableEq

/-- The API and the worker loops of one deployment. -/
structure Deployment (W : Type) where
  /-- The task queue and the loops. -/
  pool : Pool W
  /-- The world of the worker process. -/
  process : World
  /-- `_rate_limiter`. -/
  limiter : RateLimiter
  /-- `_job_status`. -/
  jobs : JobTable := []
  /-- The message that a route has enqueued and not yet tracked. -/
  pending : Option Acceptance := none
  /-- The tracked messages. -/
  tracked : List Acceptance := []
  /-- How the handler of a message returned. -/
  returned : Nat → Option Outcome := fun _ => none

/-- A step of the deployment. -/
inductive Activity (W : Type) where
  /-- A webhook route receives a request, and enqueues a message when it accepts. -/
  | receive (call : WebhookCall) (request : WebhookRequest)
  /-- `_track_job`, which ends the route. -/
  | track (now : DateTime)
  /-- A worker loop or another producer moves on, outside of handlers. -/
  | loop (event : Event W)
  /-- A worker runs the handler of the message it holds. -/
  | handle (worker : W) (answers : Answers)
  /-- Another part of the application changes what the worker process finds. -/
  | elsewhere (process : World)

namespace Deployment

variable {W : Type} [DecidableEq W]

/-- A deployment before any request. -/
def initial (W : Type) (process : World) (limiter : RateLimiter) : Deployment W where
  pool := .initial W
  process
  limiter

/-- How a message ended, once it has. -/
def outcome (deployment : Deployment W) (message : Nat) : Option Outcome :=
  if message ∈ deployment.pool.ledger.deadLettered then some .deadLettered
  else deployment.returned message

/-- The job result that is stored for a message. -/
def jobResult (process : World) (message : QueueMessage) : Option Dict :=
  match process.storage.readJson (jobResultKey message.tenantId message.messageId) with
  | .ok result => result
  | .error _ => none

/-- A message is enqueued by a route. -/
def enqueue (deployment : Deployment W) (tenantId : String) (submission : Submission)
    (token : HexToken) : Option (Deployment W) :=
  let message := submission.message tenantId token
  (deployment.pool.step (fun _ => true) (.enqueue message)).map fun pool =>
    { deployment with
      pool
      pending := some ⟨deployment.pool.created, message.messageId, tenantId, submission.jobType⟩ }

/-- A handler runs to its end. -/
def handle (worker : QueueWorker) (deployment : Deployment W) (loop : W) (answers : Answers) :
    Option (Deployment W) :=
  match deployment.pool.phase loop with
  | .handling message =>
    let object := deployment.pool.object message
    match (handler worker object).run answers deployment.process with
    | (.ok (), process) =>
      (deployment.pool.step (fun _ => true) (.finish loop false)).map fun pool =>
        { deployment with
          pool
          process
          returned := Function.update deployment.returned message
            (some (.ofResult (jobResult process object))) }
    | (.error _, process) =>
      (deployment.pool.step (fun _ => true) (.finish loop true)).map fun pool =>
        { deployment with pool, process }
  | _ => none

/-- One step. A route ends before the next one begins, and every message type has a handler. -/
def step (service : WebhookService) (worker : QueueWorker) (deployment : Deployment W) :
    Activity W → Option (Deployment W)
  | .receive call request =>
    match deployment.pending, service.receive deployment.limiter call request with
    | some _, _ => none
    | none, (.error _, limiter) => some { deployment with limiter }
    | none, (.ok (tenantId, submission), limiter) =>
      { deployment with limiter }.enqueue tenantId submission call.token
  | .track now =>
    deployment.pending.map fun accepted =>
      { deployment with
        jobs := deployment.jobs.trackJob accepted.messageId accepted.tenantId accepted.jobType now
        pending := none
        tracked := accepted :: deployment.tracked }
  | .loop event =>
    match event with
    | .finish _ _ => none
    | event => (deployment.pool.step (fun _ => true) event).map fun pool => { deployment with pool }
  | .handle loop answers => deployment.handle worker loop answers
  | .elsewhere process => some { deployment with process }

/-- The status a response shows. -/
def shownStatus (response : Dict) : Option String :=
  match response.get? "status" with
  | some (.str status) => some status
  | _ => none

/-- Every tracked message that has ended is reported to its tenant with its outcome. -/
def OutcomesReported (service : WebhookService) (deployment : Deployment W) : Prop :=
  ∀ accepted ∈ deployment.tracked, ∀ outcome,
    deployment.outcome accepted.message = some outcome →
      ∀ claims : TokenClaims, claims.tenantId = accepted.tenantId →
        service.policy.checkAccess claims.role claims.userRole .viewPipelineRuns = true →
          ∃ response, webhookStatusRoute service.policy claims deployment.jobs accepted.messageId =
            .ok response ∧ shownStatus response = some outcome.status

/-- What every run keeps: the entries of the table are queued, and the messages are those of a
tenant. -/
structure Accounted (deployment : Deployment W) : Prop where
  /-- Every entry of the table says that its job is queued. -/
  queued : ∀ entry ∈ deployment.jobs, entry.2.status = "queued"
  /-- The message about to be tracked has a tenant. -/
  pending : ∀ accepted ∈ deployment.pending, accepted.tenantId ≠ ""
  /-- The tracked messages have one. -/
  tracked : ∀ accepted ∈ deployment.tracked, accepted.tenantId ≠ ""

end Deployment

namespace JobTable

variable {jobs : JobTable}

/-- An entry of a table is the one that was set, or was there before. -/
theorem mem_set {messageId : String} {job : Job} {entry : String × Job}
    (member : entry ∈ jobs.set messageId job) : entry = (messageId, job) ∨ entry ∈ jobs := by
  induction jobs with
  | nil => exact Or.inl (List.mem_singleton.mp member)
  | cons first rest ih =>
    by_cases same : first.1 = messageId
    · have inside : entry ∈ (messageId, job) :: rest := by
        simpa only [set, if_pos same] using member
      cases List.mem_cons.mp inside with
      | inl new => exact Or.inl new
      | inr later => exact Or.inr (List.mem_cons_of_mem _ later)
    · have inside : entry ∈ first :: set rest messageId job := by
        simpa only [set, if_neg same] using member
      cases List.mem_cons.mp inside with
      | inl here => exact Or.inr (here ▸ List.mem_cons_self)
      | inr later => exact (ih later).imp id (List.mem_cons_of_mem _)

/-- Trimming adds no entry. -/
theorem mem_of_mem_trim {entry : String × Job} (member : entry ∈ jobs.trim) : entry ∈ jobs := by
  by_cases full : maxJobHistory ≤ jobs.length
  · rw [trim, if_pos full] at member
    exact (List.mem_filter.mp member).1
  · rwa [trim, if_neg full] at member

/-- A job is tracked as queued. -/
theorem status_trackJob (queued : ∀ entry ∈ jobs, entry.2.status = "queued")
    (messageId tenantId jobType : String) (now : DateTime) :
    ∀ entry ∈ jobs.trackJob messageId tenantId jobType now, entry.2.status = "queued" := by
  intro entry member
  cases mem_set member with
  | inl new => exact new ▸ rfl
  | inr earlier => exact queued entry (mem_of_mem_trim earlier)

/-- A job of the table is reported with its status, and any other as unknown. -/
theorem status_webhookJobStatus (queued : ∀ entry ∈ jobs, entry.2.status = "queued")
    (messageId tenantId : String) :
    Deployment.shownStatus (jobs.webhookJobStatus messageId tenantId) = some "queued" ∨
      Deployment.shownStatus (jobs.webhookJobStatus messageId tenantId) = some "unknown" := by
  unfold webhookJobStatus
  cases found : List.lookup messageId jobs with
  | none => exact Or.inr rfl
  | some job =>
    rcases List.lookup_eq_some_iff.mp found with ⟨before, after, split, -⟩
    have member : (messageId, job) ∈ jobs := split ▸ List.mem_append_right _ List.mem_cons_self
    have status : job.status = "queued" := queued _ member
    by_cases own : job.tenantId = tenantId
    · refine Or.inl ?_
      simp only [if_pos own, status]
      rfl
    · refine Or.inr ?_
      simp only [if_neg own]
      rfl

end JobTable

namespace Deployment

variable {W : Type} [DecidableEq W] {service : WebhookService} {worker : QueueWorker}

/-- A route that accepts has the tenant of its caller. -/
theorem tenant_of_receive {limiter after : RateLimiter} {call : WebhookCall}
    {request : WebhookRequest} {tenantId : String} {submission : Submission}
    (received : service.receive limiter call request = (.ok (tenantId, submission), after)) :
    tenantId ≠ "" := by
  unfold WebhookService.receive at received
  cases authorized : service.authorize call request with
  | error refusal =>
    rw [authorized] at received
    cases received
  | ok owner =>
    have own : owner = tenantId := by
      rw [authorized] at received
      dsimp only at received
      split at received
      · cases received
      · cases submitted : service.submission request with
        | error refusal =>
          rw [submitted] at received
          cases received
        | ok other =>
          rw [submitted] at received
          cases received
          rfl
    unfold WebhookService.authorize at authorized
    rcases bind_ok_iff.mp authorized with ⟨-, -, verified⟩
    rcases bind_ok_iff.mp verified with ⟨-, -, named⟩
    intro empty
    unfold getCurrentTenantId at named
    split at named
    · cases named
    · cases named
      exact ‹¬ _› (own.trans empty)

/-- Enqueueing leaves the table and the tracked messages alone. -/
theorem Accounted.enqueue {deployment next : Deployment W} (accounted : deployment.Accounted)
    {tenantId : String} (some : tenantId ≠ "") {submission : Submission} {token : HexToken}
    (moved : deployment.enqueue tenantId submission token = .some next) : next.Accounted := by
  unfold Deployment.enqueue at moved
  rcases Option.map_eq_some_iff.mp moved with ⟨pool, -, rfl⟩
  refine ⟨accounted.queued, fun accepted is => ?_, accounted.tracked⟩
  cases is
  exact some

/-- A handler leaves the table and the tracked messages alone. -/
theorem Accounted.handle {deployment next : Deployment W} (accounted : deployment.Accounted)
    {loop : W} {answers : Answers}
    (moved : deployment.handle worker loop answers = some next) : next.Accounted := by
  unfold Deployment.handle at moved
  split at moved
  · dsimp only at moved
    split at moved
    · rcases Option.map_eq_some_iff.mp moved with ⟨pool, -, rfl⟩
      exact ⟨accounted.queued, accounted.pending, accounted.tracked⟩
    · rcases Option.map_eq_some_iff.mp moved with ⟨pool, -, rfl⟩
      exact ⟨accounted.queued, accounted.pending, accounted.tracked⟩
  · cases moved

/-- A loop leaves the table and the tracked messages alone. -/
theorem Accounted.loop {deployment next : Deployment W} (accounted : deployment.Accounted)
    {event : Event W} (moved : deployment.step service worker (.loop event) = some next) :
    next.Accounted := by
  unfold Deployment.step at moved
  cases event with
  | finish loop raises => cases moved
  | _ =>
    rcases Option.map_eq_some_iff.mp moved with ⟨pool, -, rfl⟩
    exact ⟨accounted.queued, accounted.pending, accounted.tracked⟩

/-- The table is written by `_track_job` alone, which says that the job is queued. -/
theorem Accounted.step {deployment next : Deployment W} (accounted : deployment.Accounted)
    {activity : Activity W} (moved : deployment.step service worker activity = some next) :
    next.Accounted := by
  cases activity with
  | receive call request =>
    unfold Deployment.step at moved
    dsimp only at moved
    split at moved
    · cases moved
    · cases moved
      exact ⟨accounted.queued, accounted.pending, accounted.tracked⟩
    · rename_i tenantId submission limiter waiting received
      have limited : ({ deployment with limiter } : Deployment W).Accounted :=
        ⟨accounted.queued, accounted.pending, accounted.tracked⟩
      exact limited.enqueue (tenant_of_receive received) moved
  | track now =>
    rcases Option.map_eq_some_iff.mp moved with ⟨accepted, waiting, rfl⟩
    have owned : accepted.tenantId ≠ "" := accounted.pending accepted waiting
    refine ⟨JobTable.status_trackJob accounted.queued _ _ _ _, fun _ is => ?_, ?_⟩
    · cases is
    · exact List.forall_mem_cons.mpr ⟨owned, accounted.tracked⟩
  | loop event => exact accounted.loop moved
  | handle loop answers => exact accounted.handle moved
  | elsewhere process =>
    cases moved
    exact ⟨accounted.queued, accounted.pending, accounted.tracked⟩

/-- Every run keeps the accounts. -/
theorem accounted_of_run {process : World} {limiter : RateLimiter} {activities : List (Activity W)}
    {deployment : Deployment W}
    (ran : Machine.run (Deployment.step service worker) (.initial W process limiter) activities =
      some deployment) : deployment.Accounted := by
  have start : (Deployment.initial W process limiter).Accounted :=
    ⟨fun _ member => absurd member List.not_mem_nil, (fun _ is => nomatch is),
      fun _ member => absurd member List.not_mem_nil⟩
  exact Machine.run_invariant Accounted (fun _ _ _ kept moved => kept.step moved) start ran

/-- Whatever became of a tracked message, its tenant is told that it is queued or unknown, and
never its outcome. -/
theorem outcome_never_reported (service : WebhookService) (worker : QueueWorker)
    (process : World) (limiter : RateLimiter) {activities : List (Activity W)}
    {deployment : Deployment W}
    (ran : Machine.run (Deployment.step service worker) (.initial W process limiter) activities =
      some deployment)
    {accepted : Acceptance} (tracked : accepted ∈ deployment.tracked) {claims : TokenClaims}
    (own : claims.tenantId = accepted.tenantId)
    (permitted :
      service.policy.checkAccess claims.role claims.userRole .viewPipelineRuns = true) :
    ∃ response status,
      webhookStatusRoute service.policy claims deployment.jobs accepted.messageId = .ok response ∧
        shownStatus response = some status ∧ (status = "queued" ∨ status = "unknown") ∧
        ∀ outcome, deployment.outcome accepted.message = some outcome →
          status ≠ outcome.status := by
  have accounted := accounted_of_run ran
  have named : claims.tenantId ≠ "" := own ▸ accounted.tracked accepted tracked
  have answered : webhookStatusRoute service.policy claims deployment.jobs accepted.messageId =
      .ok (deployment.jobs.webhookJobStatus accepted.messageId claims.tenantId) := by
    unfold webhookStatusRoute requirePermission getCurrentTenantId
    rw [if_pos permitted, if_neg named]
    rfl
  cases JobTable.status_webhookJobStatus accounted.queued accepted.messageId claims.tenantId with
  | inl shown =>
    exact ⟨_, "queued", answered, shown, Or.inl rfl, fun outcome _ same =>
      outcome.status_ne.1 same.symm⟩
  | inr shown =>
    exact ⟨_, "unknown", answered, shown, Or.inr rfl, fun outcome _ same =>
      outcome.status_ne.2 same.symm⟩

/-- Zeros are hexadecimal digits. -/
theorem digits_zeros : "0000000000000000".toList.all isHexDigit = true := by decide

/-- A caller of the sample tenant. -/
def sampleCall : WebhookCall where
  claims := { tenantId := "tn_a", role := "standard", email := "a@a" }
  token := ⟨"0000000000000000", rfl, digits_zeros⟩

/-- Webhooks without a secret and without patterns. -/
def sampleWebhooks : WebhookService where
  hmacSha256 _ _ := ""
  moderation := ⟨[]⟩
  patterns := ⟨id, id, id, []⟩
  str _ := ""

/-- A board analysis is asked for, tracked, handled and counted. -/
def boardRun : List (Activity Unit) :=
  [.receive sampleCall (.boardAnalysis {}), .track dayOne, .loop (.dequeue ()),
   .loop (.lookup ()), .handle () (sampleAnswers dayOne), .loop (.count ()), .loop (.taskDone ())]

/-- The deployment at the end of that run, for a tenant without a Todoist token. -/
def boardEnd : Option (Deployment Unit) :=
  Machine.run (Deployment.step sampleWebhooks sampleWorker)
    (.initial Unit (storedWorld sampleTenant) { maxRequests := 20, window := 60 }) boardRun

/-- The message of that run. -/
def boardAcceptance : Acceptance :=
  ⟨0, "wh_0000000000000000", "tn_a", "board_analysis"⟩

/-- The message is tracked, and ends with an error. -/
theorem boardEnd_outcome : ∃ deployment, boardEnd = some deployment ∧
    boardAcceptance ∈ deployment.tracked ∧ deployment.outcome 0 = some .error := by
  have tracks : boardEnd.map (fun deployment => deployment.tracked) = some [boardAcceptance] := by
    decide +kernel
  have ends : boardEnd.map (fun deployment => deployment.outcome 0) = some (some .error) := by
    decide +kernel
  rcases Option.map_eq_some_iff.mp tracks with ⟨deployment, reached, tracked⟩
  rw [reached] at ends
  refine ⟨deployment, reached, ?_, Option.some.inj ends⟩
  rw [tracked]
  exact List.mem_singleton_self _

/-- Its tenant is told that it is queued or unknown. -/
theorem board_outcome_not_reported : ∃ deployment, boardEnd = some deployment ∧
    ∃ response status,
      webhookStatusRoute {} sampleCall.claims deployment.jobs boardAcceptance.messageId =
          .ok response ∧
        shownStatus response = some status ∧ (status = "queued" ∨ status = "unknown") ∧
        ∀ outcome, deployment.outcome 0 = some outcome → status ≠ outcome.status := by
  rcases boardEnd_outcome with ⟨deployment, reached, tracked, -⟩
  exact ⟨deployment, reached, outcome_never_reported sampleWebhooks sampleWorker _ _ reached
    tracked rfl (by decide)⟩

/-- The error of a board analysis is not reported. -/
theorem board_error_not_reported : ¬ ∀ deployment, boardEnd = some deployment →
    deployment.OutcomesReported sampleWebhooks := by
  intro reports
  rcases boardEnd_outcome with ⟨deployment, reached, tracked, ended⟩
  have permitted : sampleWebhooks.policy.checkAccess sampleCall.claims.role
      sampleCall.claims.userRole .viewPipelineRuns = true := by decide
  rcases reports deployment reached boardAcceptance tracked .error ended sampleCall.claims rfl
    permitted with ⟨response, answered, shown⟩
  have accounted : deployment.Accounted := accounted_of_run reached
  have same : deployment.jobs.webhookJobStatus boardAcceptance.messageId "tn_a" = response :=
    Except.ok.inj answered
  rw [← same] at shown
  rcases JobTable.status_webhookJobStatus accounted.queued boardAcceptance.messageId "tn_a" with
    queued | unknown
  · rw [queued] at shown
    exact absurd shown (by decide)
  · rw [unknown] at shown
    exact absurd shown (by decide)

end Deployment

end VelaFlow.Api
