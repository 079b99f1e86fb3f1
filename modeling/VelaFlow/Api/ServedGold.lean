import VelaFlow.Api.Auth
import VelaFlow.Foundation.Machine
import VelaFlow.Pipeline.Medallion
import VelaFlow.Pipeline.RunHistory

/-!
# What the routes serve of the gold layer

`GET /tasks/scored` and `GET /digests/daily` read the two documents that the gold layer keeps for a
tenant. A run writes the scored tasks before it builds the digest, and either may fail, so the two
documents may stem from two runs. The values of a response are given as the route reads them.
-/
namespace VelaFlow.Pipeline

open Machine Planner Process Storage

section Paths

variable {tenantId : String} (named : IsPart tenantId.toList)

/-- The path of a tenant's document of the gold layer. -/
def goldPath {file : String} (part : IsPart file.toList) : Path where
  parts := [Layer.gold.name.toList, tenantId.toList, file.toList]
  areParts := List.forall_mem_cons.mpr ⟨isPart_layer .gold,
    List.forall_mem_cons.mpr ⟨named, List.forall_mem_singleton.mpr part⟩⟩

/-- The scored tasks have a file. -/
theorem isPart_scoredTasks : IsPart "scored_tasks.json".toList := by decide

/-- The digest has a file. -/
theorem isPart_dailyDigest : IsPart "daily_digest.json".toList := by decide

/-- The path of a tenant's scored tasks. -/
def scoredPath : Path := goldPath named isPart_scoredTasks

/-- The path of a tenant's digest. -/
def digestPath : Path := goldPath named isPart_dailyDigest

/-- A document is in the gold layer. -/
theorem inDirectory_goldPath {file : String} (part : IsPart file.toList) :
    InDirectory "gold" (goldPath named part) := rfl

/-- The documents of two tenants have two paths. -/
theorem goldPath_ne_of_tenant {other file name : String} (different : IsPart other.toList)
    (apart : tenantId ≠ other) (part : IsPart file.toList) (second : IsPart name.toList) :
    goldPath named part ≠ goldPath different second := by
  intro same
  have parts := congrArg Path.parts same
  simp only [goldPath, List.cons.injEq, true_and, and_true] at parts
  exact apart (String.toList_injective parts.1)

/-- The two documents of a tenant have two paths. -/
theorem digestPath_ne_scoredPath : digestPath named ≠ scoredPath named := by
  intro same
  have parts := congrArg Path.parts same
  simp only [digestPath, scoredPath, goldPath, List.cons.injEq, true_and, and_true] at parts
  exact absurd (String.toList_injective parts) (by decide)

end Paths

/-- `GoldLayer.read_scored_tasks`. -/
def readScoredTasks (storage : LocalStorage) (tenantId : String) :
    Except PyException (Option Dict) :=
  storage.readJson (layerKey .gold tenantId "scored_tasks.json")

/-- `GoldLayer.read_daily_digest`. -/
def readDailyDigest (storage : LocalStorage) (tenantId : String) :
    Except PyException (Option Dict) :=
  storage.readJson (layerKey .gold tenantId "daily_digest.json")

namespace MadeRun

variable (made : MadeRun)

/-- The document of the tasks that a run scored. -/
def scoredDocument : Dict :=
  scoredTasksDocument made.call.tenantId made.call.readings.scoredAt made.call.inputs.weekendMode
    made.run.scoredTasks

/-- The document of a digest that a run built. -/
def digestDocument (digest : DigestResult) : Dict :=
  dailyDigestDocument made.call.tenantId made.call.readings.digestAt digest

/-- A digest is that of a run: it is built of what the run cleaned, and so are its scored tasks. -/
def Digests (scheduler : PipelineScheduler) (digest : DigestResult) : Prop :=
  ∃ cleaned : Cleaned,
    scheduler.rank made.call.readings made.call.inputs.weekendMode.truthy cleaned.tasks =
      .ok made.run.scoredTasks ∧
    scheduler.digestUnder made.call.readings scheduler.settings cleaned = .ok digest

/-- A run that came to no digest. -/
def Failed : Prop := made.run.status = .failed

/-- A run that scored nothing. -/
def Unscored : Prop := made.Failed ∧ made.run.scoredTasks = []

end MadeRun

/-- What a call leaves of the gold layer, by how far its run came. -/
inductive Produces (scheduler : PipelineScheduler) (storage left : LocalStorage) (made : MadeRun) :
    Prop where
  /-- It failed before it had scored tasks. -/
  | nothing (unscored : made.Unscored)
      (same : ∀ path, InDirectory "gold" path → left.lookup path = storage.lookup path)
  /-- It failed after it had scored tasks. -/
  | scores (failed : made.Failed)
      (scored : left.lookup (scoredPath made.call.named) = some made.scoredDocument)
      (same : ∀ path, InDirectory "gold" path → path ≠ scoredPath made.call.named →
        left.lookup path = storage.lookup path)
  /-- It completed. -/
  | digests (completed : made.run.status = .completed)
      (scored : left.lookup (scoredPath made.call.named) = some made.scoredDocument)
      (digest : DigestResult) (built : made.Digests scheduler digest)
      (digested : left.lookup (digestPath made.call.named) = some (made.digestDocument digest))
      (same : ∀ path, InDirectory "gold" path → path ≠ scoredPath made.call.named →
        path ≠ digestPath made.call.named → left.lookup path = storage.lookup path)

/-- What a call leaves of the gold layer is seen by every storage that holds the same of it. -/
theorem Produces.congr {scheduler : PipelineScheduler} {storage other left final : LocalStorage}
    {made : MadeRun} (produces : Produces scheduler storage left made)
    (start : ∀ path, InDirectory "gold" path → storage.lookup path = other.lookup path)
    (finish : ∀ path, InDirectory "gold" path → final.lookup path = left.lookup path) :
    Produces scheduler other final made := by
  have scoredIn := inDirectory_goldPath made.call.named isPart_scoredTasks
  have digestIn := inDirectory_goldPath made.call.named isPart_dailyDigest
  cases produces with
  | nothing unscored same =>
    exact .nothing unscored fun path inside =>
      (finish path inside).trans ((same path inside).trans (start path inside))
  | scores failed scored same =>
    exact .scores failed ((finish _ scoredIn).trans scored) fun path inside apart =>
      (finish path inside).trans ((same path inside apart).trans (start path inside))
  | digests completed scored digest built digested same =>
    exact .digests completed ((finish _ scoredIn).trans scored) digest built
      ((finish _ digestIn).trans digested) fun path inside apart other =>
        (finish path inside).trans ((same path inside apart other).trans (start path inside))

section Call

variable {scheduler : PipelineScheduler} {call : PipelineCall}

end Call

/-- The runs of a tenant. -/
def runsOf (tenantId : String) (runs : List MadeRun) : List MadeRun :=
  runs.filter fun made => decide (made.call.tenantId = tenantId)

/-- What a tenant's documents of the gold layer hold after some runs. -/
structure Holds (scheduler : PipelineScheduler) {tenantId : String}
    (named : IsPart tenantId.toList) (runs : List MadeRun) (before after : LocalStorage) :
    Prop where
  /-- The tasks are those that were scored last. -/
  scored : LastWrite MadeRun.Unscored (fun made held => held = some made.scoredDocument)
    (runsOf tenantId runs) (before.lookup (scoredPath named)) (after.lookup (scoredPath named))
  /-- The digest is that of the last run that completed. -/
  digested : LastWrite MadeRun.Failed
    (fun made held => made.run.status = .completed ∧
      ∃ digest, made.Digests scheduler digest ∧ held = some (made.digestDocument digest))
    (runsOf tenantId runs) (before.lookup (digestPath named)) (after.lookup (digestPath named))

section Run

variable {scheduler : PipelineScheduler} {tenantId : String} {named : IsPart tenantId.toList}
  {before middle after : LocalStorage} {runs : List MadeRun} {made : MadeRun}

/-- A call of another tenant passes by. -/
theorem Holds.elsewhere (other : made.call.tenantId ≠ tenantId)
    (produces : Produces scheduler before middle made)
    (holds : Holds scheduler named runs middle after) :
    Holds scheduler named (made :: runs) before after := by
  have apart : ∀ {file name : String} (part : IsPart file.toList) (second : IsPart name.toList),
      goldPath named part ≠ goldPath made.call.named second := fun part second =>
    goldPath_ne_of_tenant named made.call.named (Ne.symm other) part second
  have same : ∀ {file : String} (part : IsPart file.toList),
      middle.lookup (goldPath named part) = before.lookup (goldPath named part) := by
    intro file part
    have inside := inDirectory_goldPath named part
    cases produces with
    | nothing unscored same => exact same _ inside
    | scores failed scored same => exact same _ inside (apart part _)
    | digests completed scored digest built digested same =>
      exact same _ inside (apart part _) (apart part _)
  have mine : runsOf tenantId (made :: runs) = runsOf tenantId runs :=
    List.filter_cons_of_neg (by simpa using other)
  constructor
  · rw [mine, scoredPath, ← same isPart_scoredTasks]
    exact holds.scored
  · rw [mine, digestPath, ← same isPart_dailyDigest]
    exact holds.digested

/-- A call of the tenant comes before the rest. -/
theorem Holds.own {named : IsPart made.call.tenantId.toList}
    (produces : Produces scheduler before middle made)
    (holds : Holds scheduler named runs middle after) :
    Holds scheduler named (made :: runs) before after := by
  have mine : runsOf made.call.tenantId (made :: runs) = made :: runsOf made.call.tenantId runs :=
    List.filter_cons_of_pos (by simp)
  have scoredIn : InDirectory "gold" (scoredPath named) := rfl
  have digestIn : InDirectory "gold" (digestPath named) := rfl
  have apart := digestPath_ne_scoredPath named
  have ⟨scoredLater, digestedLater⟩ := holds
  cases produces with
  | nothing unscored same =>
    constructor
    · rw [mine]
      rw [same _ scoredIn] at scoredLater
      exact scoredLater.skip unscored
    · rw [mine]
      rw [same _ digestIn] at digestedLater
      exact digestedLater.skip unscored.1
  | scores failed scored same =>
    constructor
    · rw [mine]
      exact scoredLater.write scored
    · rw [mine]
      rw [same _ digestIn apart] at digestedLater
      exact digestedLater.skip failed
  | digests completed scored digest built digested same =>
    constructor
    · rw [mine]
      exact scoredLater.write scored
    · rw [mine]
      exact digestedLater.write ⟨completed, digest, built, digested⟩

end Run

end VelaFlow.Pipeline

namespace VelaFlow.Api

open Machine Pipeline Planner Process Storage

/-- `ScoredTaskResponse`. -/
structure ScoredTaskResponse where
  /-- `task_id`. -/
  taskId : Json
  /-- `content`. -/
  content : Json
  /-- `project_name`. -/
  projectName : Json
  /-- `section_name`. -/
  sectionName : Json
  /-- `priority`. -/
  priority : Json
  /-- `score`. -/
  score : Json
  /-- `reasons`. -/
  reasons : Json
  /-- `due_date`. -/
  dueDate : Json
  /-- `labels`. -/
  labels : Json
  /-- `duration_minutes`. -/
  durationMinutes : Json

/-- `ScoredTasksListResponse`. -/
structure ScoredTasksListResponse where
  /-- `tenant_id`. -/
  tenantId : String
  /-- `record_count`. -/
  recordCount : Nat
  /-- `weekend_mode`. -/
  weekendMode : Json
  /-- `tasks`. -/
  tasks : List ScoredTaskResponse

/-- `DigestResponse`. -/
structure DigestResponse where
  /-- `tenant_id`. -/
  tenantId : String
  /-- `digest_type`. -/
  digestType : Json
  /-- `subject`. -/
  subject : Json
  /-- `body_text`. -/
  bodyText : Json
  /-- `produced_at`. -/
  producedAt : Json

/-- `r[key]` of a record. -/
def subscript (record : Json) (key : String) : Except PyException Json :=
  match record with
  | .obj members =>
    match Dict.get? members key with
    | some value => .ok value
    | none => .error (.keyError key)
  | .str _ => .error (.typeError "string indices must be integers, not 'str'")
  | .arr _ => .error (.typeError "list indices must be integers or slices, not str")
  | value => .error (.typeError ("'" ++ typeName value ++ "' object is not subscriptable"))

/-- The response for a record. -/
def scoredTaskResponse (record : Json) : Except PyException ScoredTaskResponse := do
  let taskId ← subscript record "task_id"
  let content ← subscript record "content"
  let members ← asDict "get" record
  let score ← subscript record "score"
  pure {
    taskId
    content
    projectName := members.getD "project_name" (.str "")
    sectionName := members.getD "section_name" (.str "")
    priority := members.getD "priority" (.int 1)
    score
    reasons := members.getD "reasons" (.arr [])
    dueDate := members.getD "due_date" .null
    labels := members.getD "labels" (.arr [])
    durationMinutes := members.getD "duration_minutes" .null }

/-- What `get_scored_tasks` answers to a document, or to none. -/
def answerScoredTasks (tenantId : String) :
    Option Dict → Except PyException (Reply ScoredTasksListResponse)
  | none => pure (.error ⟨404, "No scored tasks found. Run the pipeline first."⟩)
  | some data => do
    let records ← iterate (data.getD "records" (.arr []))
    let tasks ← records.mapM scoredTaskResponse
    pure (.ok {
      tenantId
      recordCount := tasks.length
      weekendMode := data.getD "weekend_mode" (.bool false)
      tasks })

/-- `get_scored_tasks`. -/
def getScoredTasks (storage : LocalStorage) (tenantId : String) :
    Except PyException (Reply ScoredTasksListResponse) := do
  answerScoredTasks tenantId (← readScoredTasks storage tenantId)

/-- What `get_daily_digest` answers to a document, or to none. -/
def answerDailyDigest (tenantId : String) : Option Dict → Reply DigestResponse
  | none => .error ⟨404, "No digest found. Run the pipeline first."⟩
  | some data => .ok {
      tenantId
      digestType := data.getD "digest_type" (.str "daily")
      subject := data.getD "subject" (.str "")
      bodyText := data.getD "body_text" (.str "")
      producedAt := data.getD "produced_at" .null }

/-- `get_daily_digest`. -/
def getDailyDigest (storage : LocalStorage) (tenantId : String) :
    Except PyException (Reply DigestResponse) := do
  pure (answerDailyDigest tenantId (← readDailyDigest storage tenantId))

/-- The response for a scored task. -/
def responseOf (scored : ScoredTask) : ScoredTaskResponse where
  taskId := .str scored.task.id
  content := .str scored.task.content
  projectName := scored.task.projectName
  sectionName := scored.task.sectionName
  priority := .int scored.task.priority
  score := .int scored.score
  reasons := .arr (scored.reasons.map .str)
  dueDate := optionalText (scored.task.dueDate.map Date.isoformat)
  labels := .arr (scored.task.labels.map .str)
  durationMinutes := scored.task.durationMinutes.elim .null .int

/-- The response for the tasks that a run scored. -/
def scoredResponse (made : MadeRun) : ScoredTasksListResponse where
  tenantId := made.call.tenantId
  recordCount := made.run.scoredTasks.length
  weekendMode := made.call.inputs.weekendMode
  tasks := made.run.scoredTasks.map responseOf

/-- The response for the digest that a run built. -/
def digestResponse (made : MadeRun) (digest : DigestResult) : DigestResponse where
  tenantId := made.call.tenantId
  digestType := .str "daily"
  subject := .str digest.subject
  bodyText := .str digest.bodyText
  producedAt := .str made.call.readings.digestAt.isoformat

/-- What the routes serve a tenant after some runs. -/
structure Serves (scheduler : PipelineScheduler) (runs : List MadeRun) (final : LocalStorage)
    (tenantId : String) : Prop where
  /-- The tasks are those of the last run of the tenant that scored any. -/
  scored : LastWrite MadeRun.Unscored
    (fun made answer => answer = .ok (.ok (scoredResponse made))) (runsOf tenantId runs)
    (.ok (.error ⟨404, "No scored tasks found. Run the pipeline first."⟩))
    (getScoredTasks final tenantId)
  /-- The digest is that of the last run of the tenant that completed. -/
  digested : LastWrite MadeRun.Failed
    (fun made answer => made.run.status = .completed ∧
      ∃ digest, made.Digests scheduler digest ∧ answer = .ok (.ok (digestResponse made digest)))
    (runsOf tenantId runs) (.ok (.error ⟨404, "No digest found. Run the pipeline first."⟩))
    (getDailyDigest final tenantId)

end VelaFlow.Api
