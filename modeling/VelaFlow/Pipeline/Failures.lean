import VelaFlow.Pipeline.Runs

/-!
# Runs whose stages fail

Any method of a layer may fail before it writes: its storage, or a library it calls, raises. An
execution goes through its stages as before, and the stage the failure is in ends it. Whatever
fails, the stages of a run tell what was run, and no document of the run history is touched before
the record of the run is written.
-/
namespace VelaFlow.Pipeline

open Planner Process Storage

/-- The methods of the layers that are made to raise, before they write. -/
structure Failures where
  /-- `ingest_todoist`, `ingest_calendar` and `ingest_gmail`. -/
  ingest : Source → Option PyException := fun _ => none
  /-- `read_latest` and the `process_…` of a source. -/
  process : Source → Option PyException := fun _ => none
  /-- `produce_scored_tasks`. -/
  score : Option PyException := none
  /-- `produce_daily_digest`. -/
  digest : Option PyException := none

/-- A method that raises when it is made to. -/
def failing {α : Type} (failure : Option PyException) (action : Staged α) : Staged α :=
  match failure with
  | some exception => returning (.error exception)
  | none => action

namespace PipelineScheduler

variable (scheduler : PipelineScheduler) (failures : Failures) (readings : Readings)
  (tenantId : String)

/-- The body of `_execute_bronze`. -/
def bronzeUnder (inputs : RunInputs) : Staged Nat := do
  let tasks ← failing (failures.ingest .todoist) (land readings tenantId inputs .todoist)
  let events ← failing (failures.ingest .calendar) (land readings tenantId inputs .calendar)
  let emails ← failing (failures.ingest .gmail) (land readings tenantId inputs .gmail)
  pure (tasks + events + emails)

/-- The body of `_execute_silver`. -/
def silverUnder : Staged Cleaned := do
  let tasks ← failing (failures.process .todoist)
    (processLatest tenantId .todoist (scheduler.silver.processTodoist readings tenantId))
  let events ← failing (failures.process .calendar)
    (processLatest tenantId .calendar (scheduler.silver.processCalendar readings tenantId))
  let emails ← failing (failures.process .gmail)
    (processLatest tenantId .gmail (scheduler.silver.processGmail readings tenantId))
  pure { tasks, events, emails }

/-- The body of `_execute_gold`. -/
def goldUnder (weekendMode : Json) (cleaned : Cleaned) :
    StateM Staging (Except PyException Unit × List ScoredTask) := do
  match ← (failing failures.score
      (scheduler.produceScoredTasks readings tenantId cleaned.tasks weekendMode)).run with
  | .error exception => pure (.error exception, [])
  | .ok scored => do
    let digested ← (failing failures.digest
      (scheduler.produceDailyDigest readings tenantId cleaned)).run
    pure (digested, scored)

/-- The stages of `execute`, with these bodies. -/
def stagesOf (bronze : Staged Nat) (silver : Staged Cleaned)
    (gold : Cleaned → StateM Staging (Except PyException Unit × List ScoredTask)) :
    StateM Staging StagedRun := do
  let landed ← bronze.run
  let first := stageResult readings .bronze landed
  match landed with
  | .error _ => pure (ended readings tenantId .failed [first] [])
  | .ok _ => do
    let processed ← silver.run
    let second := stageResult readings .silver (processed.map fun cleaned =>
      cleaned.tasks.length + cleaned.events.length + cleaned.emails.length)
    match processed with
    | .error _ => pure (ended readings tenantId .failed [first, second] [])
    | .ok cleaned => do
      let (produced, scored) ← gold cleaned
      let third := stageResult readings .gold (produced.map fun _ => scored.length)
      match produced with
      | .error _ => pure (ended readings tenantId .failed [first, second, third] scored)
      | .ok _ => pure (ended readings tenantId .completed [first, second, third] scored)

/-- The stages of `execute` under failures. -/
def runStagesUnder (inputs : RunInputs) : StateM Staging StagedRun :=
  stagesOf readings tenantId (bronzeUnder failures readings tenantId inputs)
    (scheduler.silverUnder failures readings tenantId)
    (scheduler.goldUnder failures readings tenantId inputs.weekendMode)

/-- `execute` under failures. -/
def executeUnder (inputs : RunInputs) : Staged StagedRun := do
  let run ← (scheduler.runStagesUnder failures readings tenantId inputs : Staged StagedRun)
  persistRun readings tenantId run
  pure run

/-- Without failures the execution is that of the scheduler. -/
theorem executeUnder_none (inputs : RunInputs) :
    scheduler.executeUnder {} readings tenantId inputs = scheduler.execute readings tenantId inputs :=
  rfl

end PipelineScheduler

/-- The stages of a run tell what was run: in order, each but the last completed, and the run
completed when all three are. -/
structure StagedRun.Truthful (run : StagedRun) : Prop where
  /-- The stages begin the three. -/
  inOrder : run.stages.map StageResult.stage <+: [.bronze, .silver, .gold]
  /-- No stage comes after a failed one. -/
  completed : ∀ result ∈ run.stages.dropLast, result.status = .completed
  /-- The run is completed when the three stages are. -/
  status : run.status = .completed ↔ run.stages.map StageResult.stage = [.bronze, .silver, .gold] ∧
    ∀ result ∈ run.stages, result.status = .completed

/-- A method leaves the documents of a directory as they are. -/
def Spares {α : Type} (directory : String) (action : StateM Staging α) : Prop :=
  ∀ staging path, InDirectory directory path →
    (StateT.run action staging).2.storage.lookup path = staging.storage.lookup path

section Spares

variable {α β : Type} {directory : String}

/-- A method that leaves the state spares every directory. -/
theorem spares_of_still {action : StateM Staging α}
    (still : ∀ staging, (StateT.run action staging).2 = staging) : Spares directory action := by
  intro staging path _
  rw [still]

/-- A sequence spares what both its parts do. -/
theorem Spares.bind {action : StateM Staging α} {rest : α → StateM Staging β}
    (first : Spares directory action) (second : ∀ value, Spares directory (rest value)) :
    Spares directory (action >>= rest) := by
  intro staging path inside
  rw [StateT.run_bind]
  exact (second _ _ path inside).trans (first staging path inside)

/-- A sequence of methods that may raise spares what both its parts do. -/
theorem Spares.bindRaising {action : Staged α} {rest : α → Staged β}
    (first : Spares directory action.run) (second : ∀ value, Spares directory (rest value).run) :
    Spares directory (action >>= rest).run := by
  show Spares directory (action.run >>= ExceptT.bindCont rest)
  refine first.bind fun outcome => ?_
  cases outcome with
  | error exception => exact spares_of_still fun _ => rfl
  | ok value => exact second value

/-- A computation without effects spares every directory. -/
theorem spares_returning (outcome : Except PyException α) :
    Spares directory (returning outcome).run := spares_of_still fun _ => rfl

/-- A method that is made to raise spares what it spares otherwise. -/
theorem spares_failing (failure : Option PyException) {action : Staged α}
    (spares : Spares directory action.run) : Spares directory (failing failure action).run := by
  cases failure with
  | none => exact spares
  | some exception => exact spares_returning _

/-- The name of a layer can be a part of a path. -/
theorem isPart_layer (layer : Layer) : IsPart layer.name.toList := by
  cases layer with
  | bronze => decide
  | silver => decide
  | gold => decide
  | runs => decide

/-- Writing a document of a layer spares the directories of the others. -/
theorem spares_save {layer : Layer} (other : layer.name ≠ directory) (tenantId name : String)
    (data : Dict) : Spares directory (save layer tenantId name data).run := by
  intro staging path inside
  show (save layer tenantId name data staging).2.storage.lookup path = _
  unfold save LocalStorage.writeJson
  cases resolved : resolve (layerKey layer tenantId name) with
  | error exception => rfl
  | ok written =>
    have key : layerKey layer tenantId name = layer.name ++ "/" ++ (tenantId ++ "/" ++ name) := by
      simp only [layerKey, String.append_assoc]
    rw [key] at resolved
    have elsewhere := inDirectory_of_resolve (isPart_layer layer) resolved
    apply LocalStorage.lookup_put_ne
    rintro rfl
    exact other (elsewhere.eq inside)

/-- Landing a batch spares the directories of the other layers. -/
theorem spares_land (other : Layer.bronze.name ≠ directory) (readings : Readings)
    (tenantId : String) (inputs : RunInputs) (source : Source) :
    Spares directory (land readings tenantId inputs source).run := by
  unfold land
  split
  · exact (spares_save other _ _ _).bindRaising fun _ => spares_returning _
  · exact spares_of_still fun _ => rfl

/-- Processing the latest batch spares what processing a batch does. -/
theorem spares_processLatest {tenantId : String} {source : Source}
    {process : Dict → Staged (List α)} (spares : ∀ bronze, Spares directory (process bronze).run) :
    Spares directory (processLatest tenantId source process).run := by
  unfold processLatest
  have reads : Spares directory (latestBatch tenantId source).run := spares_of_still fun _ => rfl
  refine reads.bindRaising fun found => ?_
  cases found with
  | none => exact spares_of_still fun _ => rfl
  | some bronze =>
    show Spares directory (if Dict.truthy bronze then process bronze else pure []).run
    split
    · exact spares bronze
    · exact spares_of_still fun _ => rfl

/-- Cleaning and then writing a document of a layer spares the directories of the others. -/
theorem spares_clean_save {layer : Layer} (other : layer.name ≠ directory) (tenantId name : String)
    (outcome : Except PyException α) (document : α → Dict) :
    Spares directory (do
      let value ← returning outcome
      save layer tenantId name (document value)
      pure value : Staged α).run :=
  (spares_returning _).bindRaising fun _ =>
    (spares_save other _ _ _).bindRaising fun _ => spares_of_still fun _ => rfl

end Spares

namespace PipelineScheduler

variable (scheduler : PipelineScheduler) (failures : Failures) (readings : Readings)
  (tenantId : String)

/-- The bronze stage spares the directories of the other layers. -/
theorem spares_bronzeUnder {directory : String} (other : Layer.bronze.name ≠ directory)
    (inputs : RunInputs) :
    Spares directory (bronzeUnder failures readings tenantId inputs).run :=
  (spares_failing _ (spares_land other _ _ _ _)).bindRaising fun _ =>
    (spares_failing _ (spares_land other _ _ _ _)).bindRaising fun _ =>
      (spares_failing _ (spares_land other _ _ _ _)).bindRaising fun _ =>
        spares_of_still fun _ => rfl

/-- The silver stage spares the directories of the other layers. -/
theorem spares_silverUnder {directory : String} (other : Layer.silver.name ≠ directory) :
    Spares directory (scheduler.silverUnder failures readings tenantId).run := by
  unfold silverUnder
  refine (spares_failing _ (spares_processLatest fun _ => ?_)).bindRaising fun _ =>
    (spares_failing _ (spares_processLatest fun _ => ?_)).bindRaising fun _ =>
      (spares_failing _ (spares_processLatest fun _ => ?_)).bindRaising fun _ =>
        spares_of_still fun _ => rfl
  · exact spares_clean_save other _ _ _ _
  · exact spares_clean_save other _ _ _ _
  · exact spares_clean_save other _ _ _ _

/-- The gold stage spares the run history. -/
theorem spares_goldUnder (weekendMode : Json) (cleaned : Cleaned) :
    Spares "runs" (scheduler.goldUnder failures readings tenantId weekendMode cleaned) := by
  unfold goldUnder
  have scores : Spares "runs" (failing failures.score
      (scheduler.produceScoredTasks readings tenantId cleaned.tasks weekendMode)).run :=
    spares_failing _ (spares_clean_save (by decide) _ _ _ _)
  have digests : Spares "runs" (failing failures.digest
      (scheduler.produceDailyDigest readings tenantId cleaned)).run :=
    spares_failing _ ((spares_returning _).bindRaising fun _ => spares_save (by decide) _ _ _)
  refine scores.bind fun outcome => ?_
  cases outcome with
  | error exception => exact spares_of_still fun _ => rfl
  | ok scored => exact digests.bind fun _ => spares_of_still fun _ => rfl

section Stages

variable {bronze : Staged Nat} {silver : Staged Cleaned}
  {gold : Cleaned → StateM Staging (Except PyException Unit × List ScoredTask)}

/-- Stages spare what their bodies do. -/
theorem spares_stagesOf {directory : String} (lands : Spares directory bronze.run)
    (cleans : Spares directory silver.run) (ranks : ∀ cleaned, Spares directory (gold cleaned)) :
    Spares directory (stagesOf readings tenantId bronze silver gold) := by
  unfold stagesOf
  refine lands.bind fun landed => ?_
  cases landed with
  | error exception => exact spares_of_still fun _ => rfl
  | ok count =>
    refine cleans.bind fun processed => ?_
    cases processed with
    | error exception => exact spares_of_still fun _ => rfl
    | ok cleaned =>
      refine (ranks cleaned).bind fun produced => ?_
      obtain ⟨produced, scored⟩ := produced
      cases produced with
      | error exception => exact spares_of_still fun _ => rfl
      | ok done => exact spares_of_still fun _ => rfl

/-- The run of some stages, which tells what was run. -/
def Told (readings : Readings) (tenantId : String) (run : StagedRun) : Prop :=
  run.runId = makeRunId readings tenantId ∧ run.Truthful

/-- A stage that failed first is told. -/
theorem told_first (exception : PyException) :
    Told readings tenantId
      (ended readings tenantId .failed [stageResult readings .bronze (.error exception)] []) := by
  refine ⟨rfl, ?_, ?_, ?_⟩
  · exact ⟨[.silver, .gold], rfl⟩
  · intro result among
    cases among
  · refine iff_of_false ?_ fun three => absurd three.1 (by simp [ended, stageResult])
    rintro ⟨⟩

/-- A stage that failed behind a completed one is told. -/
theorem told_second (count : Nat) (exception : PyException) :
    Told readings tenantId (ended readings tenantId .failed
      [stageResult readings .bronze (.ok count), stageResult readings .silver (.error exception)]
      []) := by
  refine ⟨rfl, ?_, ?_, ?_⟩
  · exact ⟨[.gold], rfl⟩
  · intro result among
    obtain rfl := List.mem_singleton.mp among
    rfl
  · refine iff_of_false ?_ fun three => absurd three.1 (by simp [ended, stageResult])
    rintro ⟨⟩

/-- A run of all three stages is told. -/
theorem told_third (count total : Nat) (produced : Except PyException Nat)
    (scored : List ScoredTask) {status : PipelineStatus}
    (ends : status = .completed ↔ ∃ ranked, produced = .ok ranked) :
    Told readings tenantId (ended readings tenantId status
      [stageResult readings .bronze (.ok count), stageResult readings .silver (.ok total),
        stageResult readings .gold produced] scored) := by
  refine ⟨rfl, ?_, ?_, ?_⟩
  · cases produced with
    | error exception => exact ⟨[], rfl⟩
    | ok ranked => exact ⟨[], rfl⟩
  · intro result among
    obtain rfl | among := List.mem_cons.mp among
    · rfl
    · obtain rfl := List.mem_singleton.mp among
      rfl
  · refine ends.trans ?_
    cases produced with
    | error exception =>
      refine iff_of_false (fun ⟨ranked, same⟩ => by cases same) fun ⟨_, all⟩ => ?_
      have last := all (stageResult readings .gold (.error exception))
        (List.mem_cons_of_mem _ (List.mem_cons_of_mem _ (List.mem_cons_self ..)))
      cases last
    | ok ranked =>
      refine iff_of_true ⟨ranked, rfl⟩ ⟨rfl, fun result among => ?_⟩
      obtain rfl | among := List.mem_cons.mp among
      · rfl
      · obtain rfl | among := List.mem_cons.mp among
        · rfl
        · obtain rfl := List.mem_singleton.mp among
          rfl

/-- Whatever the bodies do, the run of the stages tells what was run. -/
theorem told_stagesOf (staging : Staging) : Told readings tenantId
    (StateT.run (stagesOf readings tenantId bronze silver gold) staging).1 := by
  unfold stagesOf
  rw [StateT.run_bind]
  cases StateT.run bronze.run staging with
  | mk landed left =>
    cases landed with
    | error exception => exact told_first readings tenantId exception
    | ok count =>
      show Told readings tenantId
        (StateT.run (_ >>= _ : StateM Staging StagedRun) left : StagedRun × Staging).1
      rw [StateT.run_bind]
      cases StateT.run silver.run left with
      | mk processed cleanedLeft =>
        cases processed with
        | error exception => exact told_second readings tenantId count exception
        | ok cleaned =>
          show Told readings tenantId
            (StateT.run (_ >>= _ : StateM Staging StagedRun) cleanedLeft : StagedRun × Staging).1
          rw [StateT.run_bind]
          cases StateT.run (gold cleaned) cleanedLeft with
          | mk outcome digested =>
            obtain ⟨produced, scored⟩ := outcome
            cases produced with
            | error exception =>
              exact told_third readings tenantId count _ (.error exception) scored
                (iff_of_false (fun same => by cases same) fun ⟨_, same⟩ => by cases same)
            | ok done =>
              exact told_third readings tenantId count _ (.ok scored.length) scored
                (iff_of_true rfl ⟨_, rfl⟩)

end Stages

end PipelineScheduler

end VelaFlow.Pipeline
