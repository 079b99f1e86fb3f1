import VelaFlow.Pipeline.Scheduler
import VelaFlow.Process.Directories

/-!
# Runs of the pipeline

What each method of the layers leaves, and what a completed run is made of. A run keeps a log of
its documents, and its storage is the one it started on with these documents written.
-/
namespace VelaFlow.Pipeline

open Planner Process Storage

/-- What a method returns or raises from a state, and the state it leaves. -/
def Staged.on {α : Type} (action : Staged α) (staging : Staging) : Except PyException α × Staging :=
  StateT.run (ExceptT.run action) staging

namespace Staged

variable {α β : Type} {staging : Staging}

/-- A sequence goes on when its first part returns. -/
theorem on_bind (action : Staged α) (rest : α → Staged β) (staging : Staging) :
    (action >>= rest).on staging =
      match action.on staging with
      | (.ok value, left) => (rest value).on left
      | (.error exception, left) => (.error exception, left) := by
  show StateT.run (ExceptT.run action >>= ExceptT.bindCont rest) staging = _
  rw [StateT.run_bind]
  unfold on
  cases StateT.run (ExceptT.run action) staging with
  | mk outcome left =>
    cases outcome with
    | error exception => rfl
    | ok value => rfl

/-- Returning a value leaves the state. -/
@[simp] theorem on_pure (value : α) : (pure value : Staged α).on staging = (.ok value, staging) := rfl

/-- A computation without effects leaves the state. -/
@[simp] theorem on_returning (outcome : Except PyException α) :
    (returning outcome).on staging = (outcome, staging) := rfl

/-- Reading the latest batch leaves the state. -/
@[simp] theorem on_latestBatch (tenantId : String) (source : Source) :
    (latestBatch tenantId source).on staging =
      (readLatest staging.storage tenantId source, staging) := rfl

/-- A sequence returned when both its parts did. -/
theorem on_bind_ok_iff {action : Staged α} {rest : α → Staged β} {value : β} {left : Staging} :
    (action >>= rest).on staging = (.ok value, left) ↔
      ∃ first middle, action.on staging = (.ok first, middle) ∧
        (rest first).on middle = (.ok value, left) := by
  rw [on_bind]
  cases action.on staging with
  | mk outcome middle =>
    cases outcome with
    | error exception =>
      constructor
      · intro same
        cases same
      · rintro ⟨first, other, same, -⟩
        cases same
    | ok first =>
      constructor
      · exact fun same => ⟨first, middle, rfl, same⟩
      · rintro ⟨_, _, same, done⟩
        cases same
        exact done

/-- The state after a document was written. -/
def saved (staging : Staging) (path : Path) (layer : Layer) (name : String) (data : Dict) : Staging :=
  ⟨staging.storage.put path data, staging.written ++ [(layer, name, data)]⟩

/-- A document is written where its key resolves. -/
theorem on_save {layer : Layer} {tenantId name : String} {data : Dict} {path : Path}
    (resolved : resolve (layerKey layer tenantId name) = .ok path) :
    (save layer tenantId name data).on staging =
      (.ok (), saved staging path layer name data) := by
  show save layer tenantId name data staging = _
  unfold save LocalStorage.writeJson
  rw [resolved]
  rfl

/-- A document that was written has a key that resolves. -/
theorem on_save_ok {layer : Layer} {tenantId name : String} {data : Dict} {left : Staging}
    (done : (save layer tenantId name data).on staging = (.ok (), left)) :
    ∃ path, resolve (layerKey layer tenantId name) = .ok path ∧
      left = saved staging path layer name data := by
  cases resolved : resolve (layerKey layer tenantId name) with
  | error exception =>
    have failed : (save layer tenantId name data).on staging = (.error exception, staging) := by
      show save layer tenantId name data staging = _
      unfold save LocalStorage.writeJson
      rw [resolved]
      rfl
    rw [failed] at done
    cases done
  | ok path =>
    rw [on_save resolved] at done
    cases done
    exact ⟨path, rfl, rfl⟩

end Staged

/-- A state is a later one of a run: more documents are in its log, and they were written. -/
def Extends (tenantId : String) (start left : Staging) : Prop :=
  ∃ more, left.written = start.written ++ more ∧
    left.storage = World.writeLayers start.storage tenantId more

/-- A method enters every document it writes in the log. -/
def Logs {α : Type} (tenantId : String) (action : Staged α) : Prop :=
  ∀ staging, Extends tenantId staging (action.on staging).2

section Logs

variable {α β : Type} {tenantId : String}

/-- Documents written one after the other. -/
theorem writeLayers_append (storage : LocalStorage) (tenantId : String)
    (first second : List (Layer × String × Dict)) :
    World.writeLayers storage tenantId (first ++ second) =
      World.writeLayers (World.writeLayers storage tenantId first) tenantId second := by
  induction first generalizing storage with
  | nil => rfl
  | cons document rest ih =>
    obtain ⟨layer, name, data⟩ := document
    rw [List.cons_append, World.writeLayers, World.writeLayers]
    cases storage.writeJson (layer.name ++ "/" ++ tenantId ++ "/" ++ name) data with
    | error exception => exact ih storage
    | ok written => exact ih written

/-- A state is a later one than itself. -/
theorem Extends.refl (staging : Staging) : Extends tenantId staging staging :=
  ⟨[], (List.append_nil _).symm, rfl⟩

/-- A later state than a later one is a later one. -/
theorem Extends.trans {start middle left : Staging} (first : Extends tenantId start middle)
    (second : Extends tenantId middle left) : Extends tenantId start left := by
  obtain ⟨more, log, stored⟩ := first
  obtain ⟨later, laterLog, laterStored⟩ := second
  refine ⟨more ++ later, ?_, ?_⟩
  · rw [laterLog, log, List.append_assoc]
  · rw [laterStored, stored, writeLayers_append]

/-- A method that leaves the state logs. -/
theorem logs_of_pure {action : Staged α} (still : ∀ staging, (action.on staging).2 = staging) :
    Logs tenantId action := by
  intro staging
  rw [still]
  exact Extends.refl staging

/-- A sequence of methods that log logs. -/
theorem Logs.bind {action : Staged α} {rest : α → Staged β} (first : Logs tenantId action)
    (second : ∀ value, Logs tenantId (rest value)) : Logs tenantId (action >>= rest) := by
  intro staging
  have reached := first staging
  rw [Staged.on_bind]
  cases ran : action.on staging with
  | mk outcome middle =>
    rw [ran] at reached
    cases outcome with
    | error exception => exact reached
    | ok value => exact reached.trans (second value middle)

/-- Writing a document logs it. -/
theorem logs_save (layer : Layer) (name : String) (data : Dict) :
    Logs tenantId (save layer tenantId name data) := by
  intro staging
  show Extends tenantId staging (save layer tenantId name data staging).2
  unfold save
  cases wrote : staging.storage.writeJson (layerKey layer tenantId name) data with
  | error exception => exact Extends.refl staging
  | ok storage =>
    refine ⟨[(layer, name, data)], rfl, ?_⟩
    unfold layerKey at wrote
    rw [World.writeLayers, wrote]
    rfl

/-- A computation without effects logs. -/
theorem logs_returning (outcome : Except PyException α) : Logs tenantId (returning outcome) :=
  logs_of_pure fun _ => rfl

/-- Landing a batch logs it. -/
theorem logs_land (readings : Readings) (inputs : RunInputs) (source : Source) :
    Logs tenantId (land readings tenantId inputs source) := by
  unfold land
  split
  · exact (logs_save _ _ _).bind fun _ => logs_returning _
  · exact logs_of_pure fun _ => rfl

/-- The bronze stage logs its batches. -/
theorem logs_bronzeBody (readings : Readings) (inputs : RunInputs) :
    Logs tenantId (bronzeBody readings tenantId inputs) := by
  unfold bronzeBody
  exact (logs_land _ _ _).bind fun _ => (logs_land _ _ _).bind fun _ => (logs_land _ _ _).bind
    fun _ => logs_of_pure fun _ => rfl

/-- Processing the latest batch logs when processing a batch does. -/
theorem logs_processLatest {source : Source} {process : Dict → Staged (List α)}
    (logs : ∀ bronze, Logs tenantId (process bronze)) :
    Logs tenantId (processLatest tenantId source process) := by
  unfold processLatest
  refine (logs_of_pure fun _ => rfl : Logs tenantId (latestBatch tenantId source)).bind fun found => ?_
  cases found with
  | none => exact logs_of_pure fun _ => rfl
  | some bronze =>
    show Logs tenantId (if Dict.truthy bronze then process bronze else pure [])
    split
    · exact logs bronze
    · exact logs_of_pure fun _ => rfl

/-- The silver stage logs its documents. -/
theorem logs_silverBody (layer : SilverLayer) (readings : Readings) :
    Logs tenantId (silverBody layer readings tenantId) := by
  unfold silverBody
  refine (logs_processLatest fun _ => ?_).bind fun _ => (logs_processLatest fun _ => ?_).bind
    fun _ => (logs_processLatest fun _ => ?_).bind fun _ => logs_of_pure fun _ => rfl
  · exact (logs_returning _).bind fun _ => (logs_save _ _ _).bind fun _ => logs_of_pure fun _ => rfl
  · exact (logs_returning _).bind fun _ => (logs_save _ _ _).bind fun _ => logs_of_pure fun _ => rfl
  · exact (logs_returning _).bind fun _ => (logs_save _ _ _).bind fun _ => logs_of_pure fun _ => rfl

end Logs

namespace PipelineScheduler

variable {scheduler : PipelineScheduler} {readings : Readings} {tenantId : String}
  {inputs : RunInputs} {start left : Staging} {run : StagedRun}

/-- What the gold stage returns and leaves. -/
theorem run_goldBody (cleaned : Cleaned) (weekendMode : Json) (staging : Staging) :
    StateT.run (scheduler.goldBody readings tenantId cleaned weekendMode) staging =
      match (scheduler.produceScoredTasks readings tenantId cleaned.tasks weekendMode).on staging with
      | (.error exception, ranked) => ((.error exception, []), ranked)
      | (.ok scored, ranked) =>
        (((scheduler.produceDailyDigest readings tenantId cleaned).on ranked).map
          (fun digested => (digested, scored)) id : _ × Staging) := by
  unfold goldBody Staged.on
  rw [StateT.run_bind]
  cases StateT.run (ExceptT.run (scheduler.produceScoredTasks readings tenantId cleaned.tasks
      weekendMode)) staging with
  | mk outcome ranked =>
    cases outcome with
    | error exception => rfl
    | ok scored => rfl

/-- What the stages return and leave. -/
theorem run_runStages (staging : Staging) :
    StateT.run (scheduler.runStages readings tenantId inputs) staging =
      match (bronzeBody readings tenantId inputs).on staging with
      | (.error exception, landed) =>
        (ended readings tenantId .failed [stageResult readings .bronze (.error exception)] [], landed)
      | (.ok count, landed) =>
        match (silverBody scheduler.silver readings tenantId).on landed with
        | (.error exception, processed) =>
          (ended readings tenantId .failed [stageResult readings .bronze (.ok count),
            stageResult readings .silver (.error exception)] [], processed)
        | (.ok cleaned, processed) =>
          match StateT.run (scheduler.goldBody readings tenantId cleaned inputs.weekendMode)
              processed with
          | ((produced, scored), digested) =>
            (ended readings tenantId (match produced with | .ok _ => .completed | .error _ => .failed)
              [stageResult readings .bronze (.ok count),
                stageResult readings .silver (.ok (cleaned.tasks.length + cleaned.events.length +
                  cleaned.emails.length)),
                stageResult readings .gold (produced.map fun _ => scored.length)] scored,
              digested) := by
  unfold runStages Staged.on
  rw [StateT.run_bind]
  cases StateT.run (ExceptT.run (bronzeBody readings tenantId inputs)) staging with
  | mk outcome landed =>
    cases outcome with
    | error exception => rfl
    | ok count =>
      show StateT.run (_ >>= _) landed = _
      rw [StateT.run_bind]
      cases silver : StateT.run (ExceptT.run (silverBody scheduler.silver readings tenantId))
          landed with
      | mk outcome processed =>
        cases outcome with
        | error exception =>
          simp only [silver]
          rfl
        | ok cleaned =>
          simp only [silver]
          show StateT.run (_ >>= _) processed = _
          rw [StateT.run_bind]
          cases StateT.run (scheduler.goldBody readings tenantId cleaned inputs.weekendMode)
              processed with
          | mk outcome digested =>
            obtain ⟨produced, scored⟩ := outcome
            cases produced with
            | error exception => rfl
            | ok done => rfl

/-- Stages whose run is then persisted. -/
theorem on_persisting (stages : StateM Staging StagedRun) :
    (do
      let run ← (stages : Staged StagedRun)
      persistRun readings tenantId run
      pure run : Staged StagedRun).on start =
    match StateT.run stages start with
    | (run, ran) =>
      match (persistRun readings tenantId run).on ran with
      | (.ok (), left) => (.ok run, left)
      | (.error exception, left) => (.error exception, left) := by
  rw [Staged.on_bind]
  have lifted : Staged.on (stages : Staged StagedRun) start =
      ((StateT.run stages start).map .ok id : _ × Staging) := rfl
  rw [lifted]
  cases StateT.run stages start with
  | mk run ran =>
    show ((persistRun readings tenantId run >>= fun _ => pure run : Staged StagedRun).on ran) = _
    rw [Staged.on_bind]
    cases wrote : (persistRun readings tenantId run).on ran with
    | mk outcome left =>
      cases outcome with
      | error exception =>
        simp only [wrote]
      | ok done =>
        simp only [wrote]
        rfl

/-- An execution runs its stages and persists its record. -/
theorem on_execute : (scheduler.execute readings tenantId inputs).on start =
    match StateT.run (scheduler.runStages readings tenantId inputs) start with
    | (run, ran) =>
      match (persistRun readings tenantId run).on ran with
      | (.ok (), left) => (.ok run, left)
      | (.error exception, left) => (.error exception, left) :=
  on_persisting (scheduler.runStages readings tenantId inputs)

/-- The stages complete a run when each of them returns. -/
theorem runStages_completed_iff {ran : Staging} :
    (StateT.run (scheduler.runStages readings tenantId inputs) start = (run, ran) ∧
        run.status = .completed) ↔
      ∃ count landed cleaned processed scored ranked,
        (bronzeBody readings tenantId inputs).on start = (.ok count, landed) ∧
        (silverBody scheduler.silver readings tenantId).on landed = (.ok cleaned, processed) ∧
        (scheduler.produceScoredTasks readings tenantId cleaned.tasks inputs.weekendMode).on
          processed = (.ok scored, ranked) ∧
        (scheduler.produceDailyDigest readings tenantId cleaned).on ranked = (.ok (), ran) ∧
        run = ended readings tenantId .completed [stageResult readings .bronze (.ok count),
          stageResult readings .silver (.ok (cleaned.tasks.length + cleaned.events.length +
            cleaned.emails.length)),
          stageResult readings .gold (.ok scored.length)] scored := by
  rw [run_runStages]
  constructor
  · rintro ⟨done, completed⟩
    cases bronze : (bronzeBody readings tenantId inputs).on start with
    | mk outcome landed =>
      rw [bronze] at done
      cases outcome with
      | error exception =>
        cases done
        cases completed
      | ok count =>
        cases silver : (silverBody scheduler.silver readings tenantId).on landed with
        | mk outcome processed =>
          simp only [silver] at done
          cases outcome with
          | error exception =>
            cases done
            cases completed
          | ok cleaned =>
            simp only [run_goldBody] at done
            cases gold : (scheduler.produceScoredTasks readings tenantId cleaned.tasks
                inputs.weekendMode).on processed with
            | mk outcome ranked =>
              rw [gold] at done
              cases outcome with
              | error exception =>
                cases done
                cases completed
              | ok scored =>
                cases digest : (scheduler.produceDailyDigest readings tenantId cleaned).on ranked with
                | mk outcome digested =>
                  simp only [digest] at done
                  cases outcome with
                  | error exception =>
                    cases done
                    cases completed
                  | ok written =>
                    cases done
                    exact ⟨count, landed, cleaned, processed, scored, ranked, rfl, silver, gold,
                      digest, rfl⟩
  · rintro ⟨count, landed, cleaned, processed, scored, ranked, bronze, silver, gold, digest, rfl⟩
    refine ⟨?_, rfl⟩
    rw [bronze]
    simp only [silver, run_goldBody, gold, digest]
    rfl

/-- A completed execution passed through its stages and was persisted. -/
theorem execute_completed_iff :
    ((scheduler.execute readings tenantId inputs).on start = (.ok run, left) ∧
        run.status = .completed) ↔
      ∃ ran, (StateT.run (scheduler.runStages readings tenantId inputs) start = (run, ran) ∧
        run.status = .completed) ∧ (persistRun readings tenantId run).on ran = (.ok (), left) := by
  rw [on_execute]
  cases stages : StateT.run (scheduler.runStages readings tenantId inputs) start with
  | mk reached ran =>
    cases wrote : (persistRun readings tenantId reached).on ran with
    | mk outcome after =>
      simp only [wrote]
      constructor
      · rintro ⟨done, completed⟩
        cases outcome with
        | error exception => cases done
        | ok persisted =>
          cases done
          exact ⟨ran, ⟨rfl, completed⟩, wrote⟩
      · rintro ⟨_, ⟨same, completed⟩, persisted⟩
        cases same
        rw [wrote] at persisted
        cases persisted
        exact ⟨rfl, completed⟩

/-- An execution logs its documents. -/
theorem logs_execute : Logs tenantId (scheduler.execute readings tenantId inputs) := by
  have scores : ∀ tasks, Logs tenantId
      (scheduler.produceScoredTasks readings tenantId tasks inputs.weekendMode) := fun _ =>
    (logs_returning _).bind fun _ => (logs_save _ _ _).bind fun _ => logs_of_pure fun _ => rfl
  have digests : ∀ cleaned, Logs tenantId
      (scheduler.produceDailyDigest readings tenantId cleaned) := fun _ =>
    (logs_returning _).bind fun _ => logs_save _ _ _
  unfold execute
  refine Logs.bind ?_ fun run => (logs_save _ _ _).bind fun _ => logs_of_pure fun _ => rfl
  intro staging
  show Extends tenantId staging (StateT.run (scheduler.runStages readings tenantId inputs) staging).2
  rw [run_runStages]
  have bronze := @logs_bronzeBody tenantId readings inputs staging
  cases landing : (bronzeBody readings tenantId inputs).on staging with
  | mk outcome landed =>
    rw [landing] at bronze
    cases outcome with
    | error exception => exact bronze
    | ok count =>
      have silver := @logs_silverBody tenantId scheduler.silver readings landed
      cases cleaning : (silverBody scheduler.silver readings tenantId).on landed with
      | mk outcome processed =>
        rw [cleaning] at silver
        simp only [cleaning]
        cases outcome with
        | error exception => exact bronze.trans silver
        | ok cleaned =>
          have scored := scores cleaned.tasks processed
          simp only [run_goldBody]
          cases scoring : (scheduler.produceScoredTasks readings tenantId cleaned.tasks
              inputs.weekendMode).on processed with
          | mk outcome ranked =>
            rw [scoring] at scored
            cases outcome with
            | error exception => exact (bronze.trans silver).trans scored
            | ok tasks => exact ((bronze.trans silver).trans scored).trans (digests cleaned ranked)

/-- What a worker sees of an execution, by what it returns and leaves. -/
theorem execution_eq (storage : LocalStorage) :
    scheduler.execution readings tenantId inputs storage =
      { written := ((scheduler.execute readings tenantId inputs).on ⟨storage, []⟩).2.written
        result := ((scheduler.execute readings tenantId inputs).on ⟨storage, []⟩).1.map fun run =>
          ⟨run.runId, run.status.value, readings.durationMs⟩ } := by
  unfold execution Staged.on StateT.run
  cases ExceptT.run (scheduler.execute readings tenantId inputs) ⟨storage, []⟩ with
  | mk outcome left => rfl

end PipelineScheduler

end VelaFlow.Pipeline
