import VelaFlow.Api.ModerationCover

/-!
# What a refused run costs

The pipeline route charges a run before it counts the items of the body and looks at its contents.
So a refusal leaves the counters alone exactly when the body of a charged run passes both.
-/
namespace VelaFlow.Api

open Process Queue Security Tenants

/-- The runs of a tenant that are counted on a day. -/
def usedToday (counts : RunCounts) (tenantId today : String) : Nat :=
  if (counts tenantId).1 = today then (counts tenantId).2 else 0

namespace PipelineService

variable (service : PipelineService) (claims : TokenClaims) (counts : RunCounts) (today : String)
  (body : PipelineBody) (answers : Answers) (world : World)

/-- A refusal leaves what is counted of each tenant on the day as it was. -/
def RefusalIsFree : Prop :=
  ∀ refusal after, ((service.admitRun claims counts today body).run answers world).1 =
      .ok (.error refusal, after) →
    ∀ tenantId, usedToday after tenantId today = usedToday counts tenantId today

/-- The caller may run pipelines, for a tenant that is found and has a run left on the day. -/
structure HasRun (tenantId : String) (tenant : Tenant) : Prop where
  /-- The caller may run pipelines. -/
  permitted : requirePermission service.policy claims .runPipeline = .ok ()
  /-- It acts for the tenant. -/
  named : getCurrentTenantId claims = .ok tenantId
  /-- The tenant is found. -/
  found : storedTenant service.manager (answers.clock .record) world tenantId = .ok (some tenant)
  /-- It has a run left. -/
  left : usedToday counts tenantId today < tenant.quota.maxPipelineRunsPerDay

/-- A body has no more items than the tenant may send, and the moderation allows it. -/
structure Acceptable (tenant : Tenant) : Prop where
  /-- It has no more items. -/
  size : body.totalItems ≤ tenant.quota.maxTasks
  /-- The moderation allows it. -/
  contents : ∀ items ∈ body.moderated,
    (service.moderation.checkBulkContent items moderatedFields).isAllowed = true

variable {service claims counts today body answers world} {tenant : Tenant} {tenantId : String}

/-- The moderation passes the lists that it allows. -/
theorem checkModeration_iff {lists : List (List Dict)} :
    service.checkModeration lists = .ok () ↔ ∀ items ∈ lists,
      (service.moderation.checkBulkContent items moderatedFields).isAllowed = true := by
  induction lists with
  | nil => exact iff_of_true rfl fun _ nothing => absurd nothing List.not_mem_nil
  | cons items rest ih =>
    rw [List.forall_mem_cons, ← ih, checkModeration]
    cases allowed : (service.moderation.checkBulkContent items moderatedFields).isAllowed with
    | false =>
      rw [if_pos rfl]
      refine iff_of_false ?_ fun both => Bool.false_ne_true both.1
      intro passed
      cases passed
    | true =>
      rw [if_neg (by decide)]
      exact (and_iff_right rfl).symm

/-- The checks behind the charge pass what is acceptable. -/
theorem checks_iff : (do
      service.checkSize tenant body
      service.checkModeration body.moderated) = .ok () ↔ service.Acceptable body tenant := by
  rw [bind_ok_iff]
  unfold checkSize
  constructor
  · rintro ⟨done, fits, passes⟩
    refine ⟨?_, checkModeration_iff.mp passes⟩
    by_contra large
    rw [if_pos (Nat.not_le.mp large)] at fits
    cases fits
  · intro acceptable
    rw [if_neg (Nat.not_lt.mpr acceptable.size)]
    exact ⟨(), rfl, checkModeration_iff.mpr acceptable.contents⟩

/-- No run is charged when none is left. -/
theorem chargeRun_full
    (full : tenant.quota.maxPipelineRunsPerDay ≤ usedToday counts tenantId today) :
    ∃ refusal, service.chargeRun counts tenant tenantId today = (.error refusal, counts) := by
  unfold usedToday at full
  unfold chargeRun
  dsimp only
  rw [if_pos full]
  exact ⟨_, rfl⟩

/-- A run is charged when one is left. -/
theorem chargeRun_left
    (left : usedToday counts tenantId today < tenant.quota.maxPipelineRunsPerDay) :
    service.chargeRun counts tenant tenantId today =
      (.ok (), Function.update counts tenantId (today, usedToday counts tenantId today + 1)) := by
  show (if tenant.quota.maxPipelineRunsPerDay ≤ usedToday counts tenantId today then _ else _) = _
  rw [if_neg (Nat.not_le.mpr left)]
  rfl

/-- The checks of a body cost nothing when they refuse it exactly when a body for which a run is
left is acceptable. -/
theorem admitBody_free_iff :
    (∀ refusal after, service.admitBody counts tenant tenantId today body =
        (.error refusal, after) →
      ∀ other, usedToday after other today = usedToday counts other today) ↔
    (usedToday counts tenantId today < tenant.quota.maxPipelineRunsPerDay →
      service.Acceptable body tenant) := by
  by_cases full : tenant.quota.maxPipelineRunsPerDay ≤ usedToday counts tenantId today
  · refine iff_of_true ?_ fun left => absurd full (Nat.not_le.mpr left)
    intro refusal after refused other
    obtain ⟨quota, charged⟩ := @chargeRun_full service counts today tenant tenantId full
    unfold admitBody at refused
    rw [charged] at refused
    cases refused
    rfl
  · rw [forall_prop_of_true (Nat.not_le.mp full), ← checks_iff]
    have charged : service.admitBody counts tenant tenantId today body = (do
        service.checkSize tenant body
        service.checkModeration body.moderated,
        Function.update counts tenantId (today, usedToday counts tenantId today + 1)) := by
      unfold admitBody
      rw [chargeRun_left (Nat.not_le.mp full)]
    rw [charged]
    constructor
    · intro free
      cases checked : (do
          service.checkSize tenant body
          service.checkModeration body.moderated : Reply Unit) with
      | ok done => rfl
      | error refusal =>
        have same := free refusal _ (Prod.ext checked rfl) tenantId
        unfold usedToday at same
        rw [Function.update_self, if_pos rfl] at same
        omega
    · intro passes refusal after refused
      rw [passes] at refused
      cases (Prod.mk.inj refused).1

/-- A refusal costs nothing exactly when the body of every caller that has a run left is
acceptable. -/
theorem refusalIsFree_iff :
    service.RefusalIsFree claims counts today body answers world ↔ ∀ tenantId tenant,
      service.HasRun claims counts today answers world tenantId tenant →
        service.Acceptable body tenant := by
  unfold RefusalIsFree admitRun
  cases permitted : requirePermission service.policy claims .runPipeline with
  | error refusal =>
    refine iff_of_true ?_ fun tenantId tenant run => ?_
    · intro other after refused
      cases refused
      exact fun _ => rfl
    · exact nomatch permitted.symm.trans run.permitted
  | ok allowed =>
    cases named : getCurrentTenantId claims with
    | error refusal =>
      refine iff_of_true ?_ fun tenantId tenant run => ?_
      · intro other after refused
        cases refused
        exact fun _ => rfl
      · exact nomatch named.symm.trans run.named
    | ok tenantId =>
      dsimp only
      rw [run_bind, run_getTenant]
      cases stored : storedTenant service.manager (answers.clock .record) world tenantId with
      | error exception =>
        refine iff_of_true ?_ fun other tenant run => ?_
        · intro refusal after refused
          cases refused
        · cases named.symm.trans run.named
          exact nomatch stored.symm.trans run.found
      | ok found =>
        cases found with
        | none =>
          refine iff_of_true ?_ fun other tenant run => ?_
          · intro refusal after refused
            cases refused
            exact fun _ => rfl
          · cases named.symm.trans run.named
            exact nomatch stored.symm.trans run.found
        | some tenant =>
          have free := @admitBody_free_iff service counts today body tenant tenantId
          have own : ∀ other found, service.HasRun claims counts today answers world other found →
              usedToday counts tenantId today < tenant.quota.maxPipelineRunsPerDay ∧
                found = tenant := by
            intro other found run
            cases named.symm.trans run.named
            cases stored.symm.trans run.found
            exact ⟨run.left, rfl⟩
          dsimp only
          cases admits : service.admitBody counts tenant tenantId today body with
          | mk reply after =>
            rw [admits] at free
            cases reply with
            | error refusal =>
              constructor
              · intro costless other found run
                obtain ⟨left, rfl⟩ := own other found run
                refine free.mp (fun again later is => ?_) left
                cases is
                exact costless refusal after rfl
              · intro acceptable again later is
                cases is
                exact free.mpr (fun left => acceptable tenantId tenant
                  ⟨permitted, named, stored, left⟩) refusal after rfl
            | ok done =>
              refine iff_of_true (fun again later is => ?_) fun other found run => ?_
              · cases is
              · obtain ⟨left, rfl⟩ := own other found run
                exact free.mp (fun again later is => nomatch (Prod.mk.inj is).1) left

end PipelineService

/-- A request to the pipeline route, with what it finds apart from the counters. -/
structure RunRequest where
  /-- The caller. -/
  claims : TokenClaims
  /-- `date.today().isoformat()`. -/
  today : String
  /-- The body. -/
  body : PipelineBody
  /-- The answers that it is given. -/
  answers : Answers
  /-- The world. -/
  world : World

namespace PipelineService

/-- The counters that a request leaves. A request that raises has charged nothing. -/
def countsAfter (service : PipelineService) (counts : RunCounts) (request : RunRequest) :
    RunCounts :=
  match ((service.admitRun request.claims counts request.today request.body).run request.answers
      request.world).1 with
  | .ok (_, after) => after
  | .error _ => counts

/-- In a sequence of requests to the pipeline route, every refusal leaves what is counted of each
tenant on its day as it was exactly when the body of every caller that has a run left is
acceptable. -/
theorem refusals_free_iff (service : PipelineService) (counts : RunCounts)
    (requests : List RunRequest) :
    (∀ front request, front ++ [request] <+: requests →
      service.RefusalIsFree request.claims (front.foldl service.countsAfter counts) request.today
        request.body request.answers request.world) ↔
    ∀ front request, front ++ [request] <+: requests → ∀ tenantId tenant,
      service.HasRun request.claims (front.foldl service.countsAfter counts) request.today
        request.answers request.world tenantId tenant → service.Acceptable request.body tenant :=
  forall₂_congr fun _ _ => imp_congr_right fun _ => refusalIsFree_iff

section Sample

/-- A request with too many items. -/
def oversizedRequest : RunRequest where
  claims := Submitted.oversized.call.claims
  today := Submitted.oversized.today
  body := Submitted.oversized.body
  answers := Submitted.oversized.answers
  world := Submitted.oversized.world

/-- A body with too many items costs a run. -/
theorem oversized_costs : ¬∀ front request, front ++ [request] <+: [oversizedRequest] →
    Submitted.samplePipelines.RefusalIsFree request.claims
      (front.foldl Submitted.samplePipelines.countsAfter Submitted.oversized.counts) request.today
      request.body request.answers request.world := by
  intro free
  have acceptable := refusalIsFree_iff.mp (free [] oversizedRequest List.prefix_rfl) "tn_a"
    sampleTenant ⟨rfl, rfl, Submitted.storedTenant_oversized, by decide⟩
  have tasks : Submitted.oversized.body.todoistTasks.length = 1001 := List.length_replicate
  have many : Submitted.oversized.body.totalItems = 1001 := by
    unfold PipelineBody.totalItems
    rw [tasks]
    rfl
  have quota : sampleTenant.quota.maxTasks = 1000 := rfl
  have size : Submitted.oversized.body.totalItems ≤ sampleTenant.quota.maxTasks := acceptable.size
  omega

end Sample

end PipelineService

end VelaFlow.Api
