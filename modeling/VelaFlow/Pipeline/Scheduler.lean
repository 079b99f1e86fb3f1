import VelaFlow.Pipeline.Bronze
import VelaFlow.Pipeline.Silver
import VelaFlow.Planner.Digest
import VelaFlow.Process.World

/-!
# The pipeline scheduler of `pipeline/scheduler.py`

An execution lands its raw input in the bronze layer, cleans what is the latest there in the silver
layer, scores the tasks and builds the digest in the gold layer, and persists a record of the run.
A stage catches what is raised in it; the first that fails ends the run. Besides the storage a run
keeps the documents it has written, by layer and name.
-/
namespace VelaFlow.Pipeline

open Planner Process Storage

/-- The storage during a run, and what the run has written. -/
structure Staging where
  /-- The storage. -/
  storage : LocalStorage
  /-- The documents written, in order. -/
  written : List (Layer × String × Dict)

/-- A method of the layers or of the scheduler. -/
abbrev Staged (α : Type) := ExceptT PyException (StateM Staging) α

/-- The key of a tenant's document in a layer. -/
def layerKey (layer : Layer) (tenantId name : String) : String :=
  layer.name ++ "/" ++ tenantId ++ "/" ++ name

/-- `write_json` of a tenant's document in a layer. -/
def save (layer : Layer) (tenantId name : String) (data : Dict) : Staged Unit := fun staging =>
  match staging.storage.writeJson (layerKey layer tenantId name) data with
  | .error exception => (.error exception, staging)
  | .ok storage => (.ok (), { storage, written := staging.written ++ [(layer, name, data)] })

/-- `BronzeLayer.read_latest`. -/
def latestBatch (tenantId : String) (source : Source) : Staged (Option Dict) := fun staging =>
  (readLatest staging.storage tenantId source, staging)

/-- A value or an exception of a computation that does not touch the storage. -/
def returning {α : Type} (outcome : Except PyException α) : Staged α := fun staging =>
  (outcome, staging)

/-- `PipelineStage`. -/
inductive PipelineStage where
  /-- `bronze`. -/
  | bronze
  /-- `silver`. -/
  | silver
  /-- `gold`. -/
  | gold
  deriving DecidableEq, Repr

/-- The value of a stage. -/
def PipelineStage.value : PipelineStage → String
  | bronze => "bronze"
  | silver => "silver"
  | gold => "gold"

/-- `PipelineStatus`, of a stage or run that has ended. -/
inductive PipelineStatus where
  /-- `completed`. -/
  | completed
  /-- `failed`. -/
  | failed
  deriving DecidableEq, Repr

/-- The value of a status. -/
def PipelineStatus.value : PipelineStatus → String
  | completed => "completed"
  | failed => "failed"

/-- `StageResult`, without the times that are not persisted. -/
structure StageResult where
  /-- `stage`. -/
  stage : PipelineStage
  /-- `status`. -/
  status : PipelineStatus
  /-- `record_count`. -/
  recordCount : Nat := 0
  /-- `error`. -/
  error : Option String := none
  /-- `duration_ms`. -/
  durationMs : Int := 0

/-- `PipelineRun`. -/
structure StagedRun where
  /-- `run_id`. -/
  runId : String
  /-- `status`. -/
  status : PipelineStatus
  /-- `stages`. -/
  stages : List StageResult
  /-- `scored_tasks`. -/
  scoredTasks : List ScoredTask := []

/-- What the clocks show during a run. -/
structure Readings where
  /-- `date.today()`. -/
  today : Date
  /-- The clock of `_make_run_id`. -/
  runId : DateTime
  /-- `started_at`. -/
  startedAt : DateTime
  /-- `completed_at`. -/
  completedAt : DateTime
  /-- `duration_ms` of the run. -/
  durationMs : Int
  /-- `duration_ms` of each stage. -/
  elapsedMs : PipelineStage → Int
  /-- The clock of `_make_batch_id`. -/
  landed : Source → DateTime
  /-- Batches are named by the time in UTC. -/
  utc : ∀ source, (landed source).offset = some 0
  /-- `ingested_at`. -/
  ingestedAt : Source → DateTime
  /-- `processed_at`. -/
  processedAt : Source → DateTime
  /-- `produced_at` of the scored tasks. -/
  scoredAt : DateTime
  /-- `produced_at` of the digest. -/
  digestAt : DateTime

/-- `PipelineScheduler`, over the storage of a run. -/
structure PipelineScheduler where
  /-- `_silver`. -/
  silver : SilverLayer
  /-- `_settings`. -/
  settings : Settings

/-- `value or []`. -/
def orEmpty (value : Json) : Json := if value.truthy then value else .arr []

/-- `len(value)`. -/
def pyLen : Json → Except PyException Nat
  | .arr items => .ok items.length
  | .obj members => .ok members.length
  | .str text => .ok text.toList.length
  | value => .error (.typeError ("object of type '" ++ typeName value ++ "' has no len()"))

/-- The raw records a run is given from a source. -/
def rawInput (inputs : RunInputs) : Source → Json
  | .todoist => inputs.rawTodoistTasks
  | .calendar => inputs.rawCalendarEvents
  | .gmail => inputs.rawEmails

/-- The `data` of the batch of a source. -/
def batchData (inputs : RunInputs) : Source → Dict
  | .todoist => [("tasks", inputs.rawTodoistTasks), ("projects", orEmpty inputs.rawProjects),
      ("sections", orEmpty inputs.rawSections)]
  | .calendar => [("events", inputs.rawCalendarEvents)]
  | .gmail => [("emails", inputs.rawEmails)]

/-- The payload of the batch of a source. -/
def batchPayload (readings : Readings) (tenantId : String) (inputs : RunInputs) (source : Source) :
    Dict :=
  [("source", .str source.name), ("tenant_id", .str tenantId),
    ("ingested_at", .str (readings.ingestedAt source).isoformat),
    ("batch_id", .str (makeBatchId tenantId source (readings.landed source))),
    ("data", .obj (batchData inputs source))]

/-- The name of the batch of a source, below its tenant's directory. -/
def batchName (readings : Readings) (tenantId : String) (source : Source) : String :=
  source.name ++ "/" ++ makeBatchId tenantId source (readings.landed source) ++ ".json"

/-- One `if raw: self._bronze.ingest_…` of `_execute_bronze`, with the number of records. The batch
is written before its records are counted. -/
def land (readings : Readings) (tenantId : String) (inputs : RunInputs) (source : Source) :
    Staged Nat :=
  if (rawInput inputs source).truthy then do
    save .bronze tenantId (batchName readings tenantId source)
      (batchPayload readings tenantId inputs source)
    returning (pyLen (rawInput inputs source))
  else pure 0

/-- The body of `_execute_bronze`. -/
def bronzeBody (readings : Readings) (tenantId : String) (inputs : RunInputs) : Staged Nat := do
  let tasks ← land readings tenantId inputs .todoist
  let events ← land readings tenantId inputs .calendar
  let emails ← land readings tenantId inputs .gmail
  pure (tasks + events + emails)

/-- Processes the latest batch of a source, when there is one. -/
def processLatest {α : Type} (tenantId : String) (source : Source)
    (process : Dict → Staged (List α)) : Staged (List α) := do
  match ← latestBatch tenantId source with
  | some bronze => if Dict.truthy bronze then process bronze else pure []
  | none => pure []

namespace SilverLayer

variable (layer : SilverLayer) (readings : Readings) (tenantId : String) (bronze : Dict)

/-- `process_todoist`. -/
def processTodoist : Staged (List Task) := do
  let tasks ← returning (layer.cleanTasks bronze)
  save .silver tenantId "todoist/tasks.json"
    (silverDocument tenantId "todoist" (readings.processedAt .todoist) (tasks.map taskToDict))
  pure tasks

/-- `process_calendar`. -/
def processCalendar : Staged (List CalendarEvent) := do
  let events ← returning (layer.cleanEvents bronze)
  save .silver tenantId "calendar/events.json"
    (silverDocument tenantId "calendar" (readings.processedAt .calendar) (events.map eventToDict))
  pure events

/-- `process_gmail`. -/
def processGmail : Staged (List EmailAlert) := do
  let emails ← returning (layer.cleanEmails bronze)
  save .silver tenantId "gmail/emails.json"
    (silverDocument tenantId "gmail" (readings.processedAt .gmail) (emails.map emailToDict))
  pure emails

end SilverLayer

/-- What the silver layer hands on. -/
structure Cleaned where
  /-- The tasks. -/
  tasks : List Task
  /-- The events. -/
  events : List CalendarEvent
  /-- The alerts. -/
  emails : List EmailAlert

/-- The body of `_execute_silver`. -/
def silverBody (layer : SilverLayer) (readings : Readings) (tenantId : String) :
    Staged Cleaned := do
  let tasks ← processLatest tenantId .todoist (layer.processTodoist readings tenantId)
  let events ← processLatest tenantId .calendar (layer.processCalendar readings tenantId)
  let emails ← processLatest tenantId .gmail (layer.processGmail readings tenantId)
  pure { tasks, events, emails }

/-- A record of the scored tasks. -/
def goldRecord (scored : ScoredTask) : Dict :=
  [("task_id", .str scored.task.id), ("content", .str scored.task.content),
    ("project_name", scored.task.projectName), ("section_name", scored.task.sectionName),
    ("priority", .int scored.task.priority), ("score", .int scored.score),
    ("reasons", .arr (scored.reasons.map .str)),
    ("due_date", optionalText (scored.task.dueDate.map Date.isoformat)),
    ("labels", .arr (scored.task.labels.map .str)),
    ("duration_minutes", scored.task.durationMinutes.elim .null .int)]

/-- The document of the scored tasks. -/
def scoredTasksDocument (tenantId : String) (producedAt : DateTime) (weekendMode : Json)
    (scored : List ScoredTask) : Dict :=
  [("tenant_id", .str tenantId), ("layer", .str "gold"), ("produced_at", .str producedAt.isoformat),
    ("weekend_mode", weekendMode), ("record_count", .int scored.length),
    ("records", .arr (scored.map fun task => .obj (goldRecord task)))]

/-- The document of the daily digest. -/
def dailyDigestDocument (tenantId : String) (producedAt : DateTime) (digest : DigestResult) : Dict :=
  [("tenant_id", .str tenantId), ("layer", .str "gold"), ("produced_at", .str producedAt.isoformat),
    ("digest_type", .str "daily"), ("subject", .str digest.subject),
    ("body_text", .str digest.bodyText)]

namespace PipelineScheduler

variable (scheduler : PipelineScheduler) (readings : Readings) (tenantId : String)

/-- `rank_tasks` under the settings of the scheduler. -/
def rank (weekendMode : Bool) (tasks : List Task) : Except PyException (List ScoredTask) :=
  rankTasks scheduler.silver.library.lower scheduler.settings weekendMode readings.today tasks

/-- `GoldLayer.produce_scored_tasks`. -/
def produceScoredTasks (tasks : List Task) (weekendMode : Json) : Staged (List ScoredTask) := do
  let scored ← returning (scheduler.rank readings weekendMode.truthy tasks)
  save .gold tenantId "scored_tasks.json"
    (scoredTasksDocument tenantId readings.scoredAt weekendMode scored)
  pure scored

/-- `build_daily_digest` of what was cleaned, under given settings. -/
def digestUnder (settings : Settings) (cleaned : Cleaned) : Except PyException DigestResult :=
  buildDailyDigest scheduler.silver.library.lower scheduler.silver.library.repr settings
    readings.today cleaned.tasks cleaned.events cleaned.emails

/-- `GoldLayer.produce_daily_digest`. -/
def produceDailyDigest (cleaned : Cleaned) : Staged Unit := do
  let digest ← returning (scheduler.digestUnder readings scheduler.settings cleaned)
  save .gold tenantId "daily_digest.json" (dailyDigestDocument tenantId readings.digestAt digest)

/-- The body of `_execute_gold`: the scored tasks are kept when only the digest fails. -/
def goldBody (cleaned : Cleaned) (weekendMode : Json) :
    StateM Staging (Except PyException Unit × List ScoredTask) := do
  match ← (scheduler.produceScoredTasks readings tenantId cleaned.tasks weekendMode).run with
  | .error exception => pure (.error exception, [])
  | .ok scored => do
    let digested ← (scheduler.produceDailyDigest readings tenantId cleaned).run
    pure (digested, scored)

/-- The result of a stage that counted its records or raised. -/
def stageResult (stage : PipelineStage) : Except PyException Nat → StageResult
  | .ok count => { stage, status := .completed, recordCount := count,
                   durationMs := readings.elapsedMs stage }
  | .error exception => { stage, status := .failed, error := some exception.text,
                          durationMs := readings.elapsedMs stage }

/-- `_make_run_id`. -/
def makeRunId : String := "run_" ++ tenantId ++ "_" ++ readings.runId.stamp

/-- The run of given stages. -/
def ended (status : PipelineStatus) (stages : List StageResult) (scoredTasks : List ScoredTask) :
    StagedRun :=
  { runId := makeRunId readings tenantId, status, stages, scoredTasks }

/-- The stages of `execute`. What is raised in a stage is caught there, so the handler around them
has nothing to catch. -/
def runStages (inputs : RunInputs) : StateM Staging StagedRun := do
  let landed ← (bronzeBody readings tenantId inputs).run
  let bronze := stageResult readings .bronze landed
  match landed with
  | .error _ => pure (ended readings tenantId .failed [bronze] [])
  | .ok _ => do
    let processed ← (silverBody scheduler.silver readings tenantId).run
    let silver := stageResult readings .silver (processed.map fun cleaned =>
      cleaned.tasks.length + cleaned.events.length + cleaned.emails.length)
    match processed with
    | .error _ => pure (ended readings tenantId .failed [bronze, silver] [])
    | .ok cleaned => do
      let (produced, scored) ← scheduler.goldBody readings tenantId cleaned inputs.weekendMode
      let gold := stageResult readings .gold (produced.map fun _ => scored.length)
      match produced with
      | .error _ => pure (ended readings tenantId .failed [bronze, silver, gold] scored)
      | .ok _ => pure (ended readings tenantId .completed [bronze, silver, gold] scored)

/-- The record of a stage. -/
def stageRecord (result : StageResult) : Dict :=
  [("stage", .str result.stage.value), ("status", .str result.status.value),
    ("record_count", .int result.recordCount), ("duration_ms", .int result.durationMs),
    ("error", optionalText result.error)]

/-- The record of a run. -/
def runRecord (run : StagedRun) : Dict :=
  [("run_id", .str run.runId), ("tenant_id", .str tenantId), ("status", .str run.status.value),
    ("started_at", .str readings.startedAt.isoformat),
    ("completed_at", .str readings.completedAt.isoformat),
    ("duration_ms", .int readings.durationMs),
    ("stages", .arr (run.stages.map fun result => .obj (stageRecord result)))]

/-- `_persist_run`. -/
def persistRun (run : StagedRun) : Staged Unit :=
  save .runs tenantId (run.runId ++ ".json") (runRecord readings tenantId run)

/-- `execute`. -/
def execute (inputs : RunInputs) : Staged StagedRun := do
  let run ← (scheduler.runStages readings tenantId inputs : Staged StagedRun)
  persistRun readings tenantId run
  pure run

/-- What a worker sees of an execution. -/
def execution (inputs : RunInputs) (storage : LocalStorage) : Execution :=
  let (result, staging) := (scheduler.execute readings tenantId inputs).run ⟨storage, []⟩
  { written := staging.written
    result := result.map fun run =>
      { runId := run.runId, status := run.status.value, durationMs := readings.durationMs } }

end PipelineScheduler

end VelaFlow.Pipeline
