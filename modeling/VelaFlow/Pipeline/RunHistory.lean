import VelaFlow.Pipeline.Batches
import VelaFlow.Pipeline.Failures

/-!
# The run history of `list_pipeline_runs`

Every execution ends in a record of its run, under a key that ends in the time it was named at. The
time is written to the second, so a history has a record of every execution as long as no tenant
starts two in one second: the record of the later one replaces that of the earlier.
-/
namespace VelaFlow.Pipeline

open Planner Process Storage

/-- A call of `execute`. -/
structure PipelineCall where
  /-- `tenant.tenant_id`. -/
  tenantId : String
  /-- The identifier of a tenant is a name. -/
  named : IsPart tenantId.toList
  /-- The raw input. -/
  inputs : RunInputs
  /-- What is made to fail. -/
  failures : Failures
  /-- What the clocks show. -/
  readings : Readings
  /-- Runs are named by the time in UTC. -/
  utc : readings.runId.offset = some 0

/-- A call and the run it made. -/
structure MadeRun where
  /-- The call. -/
  call : PipelineCall
  /-- The run. -/
  run : StagedRun

/-- The record of a run. -/
def MadeRun.record (made : MadeRun) : Dict :=
  PipelineScheduler.runRecord made.call.readings made.call.tenantId made.run

namespace PipelineScheduler

variable (scheduler : PipelineScheduler)

/-- A call of `execute` on a storage. -/
def executeCall (storage : LocalStorage) (call : PipelineCall) :
    Except PyException MadeRun × LocalStorage :=
  ((scheduler.executeUnder call.failures call.readings call.tenantId call.inputs).on
    ⟨storage, []⟩).map (fun outcome => outcome.map (MadeRun.mk call)) Staging.storage

/-- Calls one after the other, with the runs they made. -/
def executeAll : LocalStorage → List PipelineCall → Except PyException (List MadeRun) × LocalStorage
  | storage, [] => (.ok [], storage)
  | storage, call :: rest =>
    match scheduler.executeCall storage call with
    | (.error exception, left) => (.error exception, left)
    | (.ok made, left) => (executeAll left rest).map (fun others => others.map (made :: ·)) id

end PipelineScheduler

/-- `r.get("started_at", "")` as `sorted` compares it; only texts are taken to compare. -/
def startedAt (record : Dict) : Except PyException String :=
  match Dict.getD record "started_at" (.str "") with
  | .str text => .ok text
  | value => .error (.typeError ("'<' not supported between instances of 'str' and '" ++
      typeName value ++ "'"))

/-- `sorted(runs, key=…, reverse=True)`. -/
def newestFirst (records : List Dict) : Except PyException (List Dict) := do
  let keyed ← records.mapM fun record => do
    let started ← startedAt record
    return (started, record)
  return (keyed.mergeSort fun first second => decide (second.1 ≤ first.1)).map Prod.snd

/-- `list_pipeline_runs`. -/
def listPipelineRuns (storage : LocalStorage) (tenantId : String) :
    Except PyException (List Dict) := do
  let keys ← storage.listKeys ("runs/" ++ tenantId ++ "/")
  let found ← (keys.filter fun key => !isMarkerKey key).mapM storage.readJson
  newestFirst ((found.filterMap id).filter Dict.truthy)

/-- Two calls start a run of one tenant in one second. -/
def SameSecond (first second : PipelineCall) : Prop :=
  first.tenantId = second.tenantId ∧
    first.readings.runId.secondIndex = second.readings.runId.secondIndex

/-- The history of every tenant has exactly one record for each of its runs, and each record tells
what was run. -/
def Complete (storage : LocalStorage) (runs : List MadeRun) : Prop :=
  ∀ tenantId, IsPart tenantId.toList →
    ∃ records, listPipelineRuns storage tenantId = .ok records ∧
      records.Perm ((runs.filter fun made => decide (made.call.tenantId = tenantId)).map
        MadeRun.record) ∧
      ∀ record ∈ records, ∃ made : MadeRun, record = made.record ∧ made.run.Truthful

namespace PipelineCall

/-- The name of the file of a run's record. -/
def fileName (call : PipelineCall) : String :=
  PipelineScheduler.makeRunId call.readings call.tenantId ++ ".json"

/-- The file of a record has a name. -/
theorem isPart_fileName (call : PipelineCall) : IsPart call.fileName.toList := by
  obtain ⟨-, -, -, noSlash, noBackslash⟩ := call.named
  obtain ⟨stampSlash, stampBackslash⟩ := slash_not_mem_stamp call.readings.runId
  have long : 3 ≤ call.fileName.toList.length := by
    simp [fileName, PipelineScheduler.makeRunId]
  refine ⟨?_, ?_, ?_, ?_, ?_⟩
  · intro is
    simp [is] at long
  · intro is
    simp [is] at long
  · intro is
    simp [is] at long
  · simp [fileName, PipelineScheduler.makeRunId, noSlash, stampSlash]
  · simp [fileName, PipelineScheduler.makeRunId, noBackslash, stampBackslash]

/-- The parts of the path of a record can be some. -/
theorem areParts (call : PipelineCall) : ∀ part ∈ ["runs".toList, call.tenantId.toList,
    call.fileName.toList], IsPart part := by
  intro part member
  simp only [List.mem_cons, List.not_mem_nil, or_false] at member
  obtain rfl | rfl | rfl := member
  · decide
  · exact call.named
  · exact call.isPart_fileName

/-- The path of a record. -/
def path (call : PipelineCall) : Path :=
  ⟨["runs".toList, call.tenantId.toList, call.fileName.toList], call.areParts⟩

/-- The key of a record resolves to its path. -/
theorem resolve_layerKey (call : PipelineCall) :
    resolve (layerKey .runs call.tenantId call.fileName) = .ok call.path := by
  apply resolve_eq_ok
  have runs : keyParts "runs" = ["runs".toList] := keyParts_of_isPart (by decide)
  rw [layerKey, keyParts_append_slash, keyParts_append_slash, keyParts_of_isPart call.named,
    keyParts_of_isPart call.isPart_fileName]
  exact congrArg (· ++ [call.tenantId.toList] ++ [call.fileName.toList]) runs

/-- Two records have one path when their runs are of one tenant and second. -/
theorem path_inj {first second : PipelineCall} :
    first.path = second.path ↔ SameSecond first second := by
  unfold SameSecond
  rw [← DateTime.stamp_inj first.utc second.utc]
  constructor
  · intro same
    have parts := congrArg Path.parts same
    simp only [path, List.cons.injEq, true_and, and_true] at parts
    obtain ⟨tenant, file⟩ := parts
    have one := String.toList_injective tenant
    have names := String.toList_injective file
    unfold fileName PipelineScheduler.makeRunId at names
    rw [String.append_left_inj, one, String.append_right_inj] at names
    exact ⟨one, names⟩
  · rintro ⟨tenant, stamp⟩
    apply Storage.Path.ext
    simp only [path, fileName, PipelineScheduler.makeRunId, tenant, stamp]

end PipelineCall

section Calls

variable {scheduler : PipelineScheduler}

/-- What a call makes and leaves: its run tells what was run, its record is where its key resolves,
and the rest of the history is as it was. -/
theorem executeCall_eq (storage : LocalStorage) (call : PipelineCall) :
    ∃ run left, scheduler.executeCall storage call = (.ok ⟨call, run⟩, left) ∧ run.Truthful ∧
      left.lookup call.path = some (MadeRun.record ⟨call, run⟩) ∧
      ∀ path, InDirectory "runs" path → path ≠ call.path →
        left.lookup path = storage.lookup path := by
  have told := @PipelineScheduler.told_stagesOf call.readings call.tenantId
    (PipelineScheduler.bronzeUnder call.failures call.readings call.tenantId call.inputs)
    (scheduler.silverUnder call.failures call.readings call.tenantId)
    (scheduler.goldUnder call.failures call.readings call.tenantId call.inputs.weekendMode)
    ⟨storage, []⟩
  have spares := PipelineScheduler.spares_stagesOf call.readings call.tenantId
    (PipelineScheduler.spares_bronzeUnder call.failures call.readings call.tenantId (by decide)
      call.inputs)
    (scheduler.spares_silverUnder call.failures call.readings call.tenantId (by decide))
    (scheduler.spares_goldUnder call.failures call.readings call.tenantId
      call.inputs.weekendMode) ⟨storage, []⟩
  have executed := @PipelineScheduler.on_persisting call.readings call.tenantId ⟨storage, []⟩
    (scheduler.runStagesUnder call.failures call.readings call.tenantId call.inputs)
  unfold PipelineScheduler.runStagesUnder at executed
  obtain ⟨run, ran, is⟩ : ∃ run ran, StateT.run (PipelineScheduler.stagesOf call.readings
      call.tenantId
      (PipelineScheduler.bronzeUnder call.failures call.readings call.tenantId call.inputs)
      (scheduler.silverUnder call.failures call.readings call.tenantId)
      (scheduler.goldUnder call.failures call.readings call.tenantId call.inputs.weekendMode))
      ⟨storage, []⟩ = (run, ran) := ⟨_, _, rfl⟩
  rw [is] at told spares executed
  have resolved : resolve (layerKey .runs call.tenantId (run.runId ++ ".json")) = .ok call.path := by
    rw [told.1]
    exact call.resolve_layerKey
  have persisted : (PipelineScheduler.persistRun call.readings call.tenantId run).on ran = _ :=
    Staged.on_save resolved
  simp only [persisted] at executed
  refine ⟨run, _, congrArg (fun outcome => Prod.map _ Staging.storage outcome) executed, told.2,
    LocalStorage.lookup_put_self _ _ _, ?_⟩
  intro path inside other
  exact (LocalStorage.lookup_put_ne _ _ other).trans (spares path inside)

/-- What calls make and leave. -/
structure Left (start : LocalStorage) (calls : List PipelineCall) (runs : List MadeRun)
    (final : LocalStorage) : Prop where
  /-- Each call made a run. -/
  made : runs.map MadeRun.call = calls
  /-- Each run tells what was run. -/
  truthful : ∀ made ∈ runs, made.run.Truthful
  /-- What is not of a call is as it was. -/
  unchanged : ∀ path, InDirectory "runs" path → (∀ call ∈ calls, path ≠ call.path) →
    final.lookup path = start.lookup path
  /-- Each call has a record. -/
  recorded : ∀ call ∈ calls, ∃ made ∈ runs, final.lookup call.path = some made.record ∧
    made.call.path = call.path
  /-- A run that no later one has the path of has its own. -/
  kept : (calls.map PipelineCall.path).Nodup → ∀ made ∈ runs,
    final.lookup made.call.path = some made.record

/-- A call's path is in the run history. -/
theorem inDirectory_path (call : PipelineCall) : InDirectory "runs" call.path := rfl

/-- Calls leave the records of their runs. -/
theorem left_executeAll (start : LocalStorage) (calls : List PipelineCall) :
    ∃ runs final, scheduler.executeAll start calls = (.ok runs, final) ∧
      Left start calls runs final := by
  induction calls generalizing start with
  | nil =>
    refine ⟨[], start, rfl, rfl, ?_, fun _ _ _ => rfl, ?_, ?_⟩
    · exact fun made among => by cases among
    · exact fun call among => by cases among
    · exact fun _ made among => by cases among
  | cons call rest ih =>
    obtain ⟨run, left, executed, truthful, held, others⟩ := @executeCall_eq scheduler start call
    obtain ⟨runs, final, went, later⟩ := ih left
    refine ⟨⟨call, run⟩ :: runs, final, ?_, ?_, ?_, ?_, ?_, ?_⟩
    · rw [PipelineScheduler.executeAll, executed]
      simp only [went]
      rfl
    · rw [List.map_cons, later.made]
    · intro made among
      obtain rfl | among := List.mem_cons.mp among
      · exact truthful
      · exact later.truthful made among
    · intro path inside apart
      rw [later.unchanged path inside fun other among =>
        apart other (List.mem_cons_of_mem _ among)]
      exact others path inside (apart call (List.mem_cons_self ..))
    · intro other among
      by_cases again : ∃ last ∈ rest, call.path = last.path
      · have inRest : ∃ last ∈ rest, other.path = last.path := by
          obtain rfl | among := List.mem_cons.mp among
          · exact again
          · exact ⟨other, among, rfl⟩
        obtain ⟨last, lastAmong, same⟩ := inRest
        obtain ⟨made, madeAmong, recorded, samePath⟩ := later.recorded last lastAmong
        exact ⟨made, List.mem_cons_of_mem _ madeAmong, same ▸ recorded, samePath.trans same.symm⟩
      · obtain rfl | among := List.mem_cons.mp among
        · refine ⟨⟨other, run⟩, List.mem_cons_self .., ?_, rfl⟩
          rw [later.unchanged _ (inDirectory_path other) fun last lastAmong same =>
            again ⟨last, lastAmong, same⟩]
          exact held
        · obtain ⟨made, madeAmong, recorded⟩ := later.recorded other among
          exact ⟨made, List.mem_cons_of_mem _ madeAmong, recorded⟩
    · intro distinct made among
      rw [List.map_cons, List.nodup_cons] at distinct
      obtain rfl | among := List.mem_cons.mp among
      · rw [later.unchanged _ (inDirectory_path call) fun last lastAmong same =>
          distinct.1 (List.mem_map.mpr ⟨last, lastAmong, same.symm⟩)]
        exact held
      · exact later.kept distinct.2 made among

end Calls

section Listing

/-- The parts of the directory of a tenant's records can be some. -/
theorem areParts_runs {tenantId : String} (named : IsPart tenantId.toList) :
    ∀ part ∈ ["runs".toList, tenantId.toList], IsPart part := by
  intro part member
  simp only [List.mem_cons, List.not_mem_nil, or_false] at member
  obtain rfl | rfl := member
  · decide
  · exact named

/-- The directory of a tenant's records. -/
def runsDirectory {tenantId : String} (named : IsPart tenantId.toList) : Path :=
  ⟨["runs".toList, tenantId.toList], areParts_runs named⟩

/-- The prefix of a tenant's records resolves to their directory. -/
theorem resolve_runsPrefix {tenantId : String} (named : IsPart tenantId.toList) :
    resolve ("runs/" ++ tenantId ++ "/") = .ok (runsDirectory named) := by
  apply resolve_eq_ok
  have key : "runs/" ++ tenantId ++ "/" = "runs" ++ "/" ++ tenantId ++ "/" ++ "" := by
    rw [String.append_empty]
    rfl
  have runs : keyParts "runs" = ["runs".toList] := keyParts_of_isPart (by decide)
  have empty : keyParts "" = [] := by decide
  rw [key, keyParts_append_slash, keyParts_append_slash, empty, keyParts_of_isPart named]
  exact congrArg (· ++ [tenantId.toList] ++ []) runs

/-- Records with a start are sorted. -/
theorem newestFirst_perm {records : List Dict}
    (started : ∀ record ∈ records, ∃ text, startedAt record = .ok text) :
    ∃ sorted, newestFirst records = .ok sorted ∧ sorted.Perm records := by
  have keyed : ∃ keyed : List (String × Dict), (records.mapM fun record => do
      let started ← startedAt record
      return (started, record)) = .ok keyed ∧ keyed.map Prod.snd = records := by
    induction records with
    | nil => exact ⟨[], rfl, rfl⟩
    | cons record rest ih =>
      obtain ⟨text, is⟩ := started record (List.mem_cons_self ..)
      obtain ⟨keyed, later, same⟩ := ih fun other among =>
        started other (List.mem_cons_of_mem _ among)
      refine ⟨(text, record) :: keyed, ?_, by rw [List.map_cons, same]⟩
      rw [mapM_cons_ok_iff]
      exact ⟨_, _, by rw [is]; rfl, later, rfl⟩
  obtain ⟨keyed, is, same⟩ := keyed
  unfold newestFirst
  rw [is]
  refine ⟨_, rfl, ?_⟩
  rw [← same]
  exact (List.mergeSort_perm _ _).map _

/-- A record's key is no marker's. -/
theorem isMarkerKey_path (call : PipelineCall) : isMarkerKey call.path.toKey = false := by
  have ends : call.path.toKey.toList =
      (("runs/" ++ call.tenantId ++ "/").toList ++
        (PipelineScheduler.makeRunId call.readings call.tenantId).toList) ++ ".json".toList := by
    rw [Path.toKey, String.toList_ofList]
    simp [PipelineCall.path, PipelineCall.fileName, List.intercalate, List.intersperse]
  exact isMarkerKey_json ends

/-- A record is sorted by the start of its run. -/
theorem startedAt_record (made : MadeRun) :
    startedAt made.record = .ok made.call.readings.startedAt.isoformat := rfl

variable {start final : LocalStorage} {calls : List PipelineCall} {runs : List MadeRun}

/-- A tenant's directory is no file. -/
theorem lookup_runsDirectory (clean : ∀ path, InDirectory "runs" path → start.lookup path = none)
    (left : Left start calls runs final) {tenantId : String} (named : IsPart tenantId.toList) :
    final.lookup (runsDirectory named) = none := by
  have inside : InDirectory "runs" (runsDirectory named) := rfl
  rw [left.unchanged _ inside fun call _ same => ?_]
  · exact clean _ inside
  · have lengths := congrArg (fun path => path.parts.length) same
    simp [runsDirectory, PipelineCall.path] at lengths

/-- The files of a tenant's directory are those of its calls. -/
theorem mem_rglob_iff (clean : ∀ path, InDirectory "runs" path → start.lookup path = none)
    (left : Left start calls runs final) {tenantId : String} (named : IsPart tenantId.toList)
    {path : Path} : path ∈ final.rglob (runsDirectory named) ↔
      ∃ call ∈ calls, call.tenantId = tenantId ∧ call.path = path := by
  rw [(final.rglob_perm _).mem_iff, List.mem_filter, LocalStorage.mem_paths_iff, Bool.and_eq_true]
  constructor
  · rintro ⟨⟨data, held⟩, below, -⟩
    have begins : (runsDirectory named).parts <+: path.parts := by
      rw [← List.isPrefixOf_iff_prefix]
      exact (Bool.and_eq_true_iff.mp below).1
    obtain ⟨rest, is⟩ := begins
    have inside : InDirectory "runs" path := by
      unfold InDirectory
      rw [← is]
      rfl
    have some : ∃ call ∈ calls, path = call.path := by
      by_contra none
      rw [left.unchanged path inside fun call among same => none ⟨call, among, same⟩,
        clean path inside] at held
      cases held
    obtain ⟨call, among, rfl⟩ := some
    refine ⟨call, among, ?_, rfl⟩
    have second := congrArg (fun parts => parts[1]?) is
    exact (String.toList_injective (Option.some.inj second)).symm
  · rintro ⟨call, among, rfl, rfl⟩
    obtain ⟨made, -, recorded, -⟩ := left.recorded call among
    refine ⟨⟨_, recorded⟩, ?_, ?_⟩
    · simp [LocalStorage.below, runsDirectory, PipelineCall.path]
    · simp [LocalStorage.isJson, PipelineCall.path, PipelineCall.fileName]

/-- Reading the keys of records finds their documents. -/
theorem found_of_records {paths : List Path} (held : ∀ path ∈ paths, ∃ made : MadeRun,
      path = made.call.path ∧ ∃ other : MadeRun, final.lookup path = some other.record) :
    ∃ found, ((paths.map Path.toKey).filter fun key => !isMarkerKey key).mapM final.readJson =
        .ok found ∧
      (found.filterMap id).filter Dict.truthy =
        paths.map fun path => (final.lookup path).getD [] := by
  induction paths with
  | nil => exact ⟨[], rfl, rfl⟩
  | cons path rest ih =>
    obtain ⟨found, read, same⟩ := ih fun other among => held other (List.mem_cons_of_mem _ among)
    obtain ⟨made, is, other, document⟩ := held path (List.mem_cons_self ..)
    have kept : (!isMarkerKey path.toKey) = true := by
      rw [is, isMarkerKey_path]
      rfl
    have reads : final.readJson path.toKey = .ok (some other.record) := by
      rw [LocalStorage.readJson, resolve_toKey, ← document]
      rfl
    refine ⟨some other.record :: found, ?_, ?_⟩
    · rw [List.map_cons, List.filter_cons, if_pos kept]
      exact mapM_cons_ok_iff.mpr ⟨_, _, reads, read, rfl⟩
    · rw [List.map_cons, document, ← same]
      rfl

/-- What is listed for a tenant are the documents of its directory, newest first. -/
theorem listPipelineRuns_perm
    (clean : ∀ path, InDirectory "runs" path → start.lookup path = none)
    (left : Left start calls runs final) {tenantId : String} (named : IsPart tenantId.toList) :
    ∃ records, listPipelineRuns final tenantId = .ok records ∧
      records.Perm ((final.rglob (runsDirectory named)).map fun path =>
        (final.lookup path).getD []) := by
  have held : ∀ path ∈ final.rglob (runsDirectory named), ∃ made : MadeRun,
      path = made.call.path ∧ ∃ other : MadeRun, final.lookup path = some other.record := by
    intro path listed
    obtain ⟨call, among, -, rfl⟩ := (mem_rglob_iff clean left named).mp listed
    obtain ⟨made, -, recorded, same⟩ := left.recorded call among
    exact ⟨made, same.symm, made, recorded⟩
  obtain ⟨found, read, documents⟩ := found_of_records held
  have started : ∀ record ∈ (final.rglob (runsDirectory named)).map fun path =>
      (final.lookup path).getD [], ∃ text, startedAt record = .ok text := by
    intro record among
    obtain ⟨path, listed, rfl⟩ := List.mem_map.mp among
    obtain ⟨-, -, other, document⟩ := held path listed
    rw [document]
    exact ⟨_, startedAt_record other⟩
  obtain ⟨sorted, is, perm⟩ := newestFirst_perm started
  refine ⟨sorted, ?_, perm⟩
  unfold listPipelineRuns
  rw [LocalStorage.listKeys_directory (resolve_runsPrefix named)
    (lookup_runsDirectory clean left named)]
  show (((final.rglob (runsDirectory named)).map Path.toKey).filter fun key =>
      !isMarkerKey key).mapM final.readJson >>= _ = _
  rw [read]
  show newestFirst ((found.filterMap id).filter Dict.truthy) = _
  rw [documents]
  exact is

/-- The files of a directory are listed once. -/
theorem nodup_rglob (directory : Path) : (final.rglob directory).Nodup :=
  (final.rglob_perm directory).nodup_iff.mpr (final.distinct.filter _)

/-- The calls of a tenant. -/
def ofTenant (tenantId : String) (calls : List PipelineCall) : List PipelineCall :=
  calls.filter fun call => decide (call.tenantId = tenantId)

/-- The runs of a tenant are those of its calls. -/
theorem map_call_ofTenant (runs : List MadeRun) (tenantId : String) :
    (runs.filter fun made => decide (made.call.tenantId = tenantId)).map MadeRun.call =
      ofTenant tenantId (runs.map MadeRun.call) := by
  rw [ofTenant, List.filter_map]
  rfl

/-- The files of a tenant's directory are the paths of its calls. -/
theorem mem_rglob_iff_mem_map
    (clean : ∀ path, InDirectory "runs" path → start.lookup path = none)
    (left : Left start calls runs final) {tenantId : String} (named : IsPart tenantId.toList)
    {path : Path} : path ∈ final.rglob (runsDirectory named) ↔
      path ∈ (ofTenant tenantId calls).map PipelineCall.path := by
  rw [mem_rglob_iff clean left named, List.mem_map]
  simp only [ofTenant, List.mem_filter, decide_eq_true_eq, and_assoc]

/-- As many files as calls of a tenant have a path each. -/
theorem nodup_of_length (clean : ∀ path, InDirectory "runs" path → start.lookup path = none)
    (left : Left start calls runs final) {tenantId : String} (named : IsPart tenantId.toList)
    (length : (ofTenant tenantId calls).length = (final.rglob (runsDirectory named)).length) :
    ((ofTenant tenantId calls).map PipelineCall.path).Nodup := by
  have within : (final.rglob (runsDirectory named)).Subperm
      ((ofTenant tenantId calls).map PipelineCall.path) :=
    (nodup_rglob _).subperm fun _ listed => (mem_rglob_iff_mem_map clean left named).mp listed
  have all := within.perm_of_length_le (by rw [List.length_map, length])
  exact all.nodup_iff.mp (nodup_rglob _)

/-- Paths that differ among the calls of each tenant differ. -/
theorem nodup_of_tenants
    (each : ∀ call ∈ calls, ((ofTenant call.tenantId calls).map PipelineCall.path).Nodup) :
    (calls.map PipelineCall.path).Nodup := by
  rw [List.Nodup, List.pairwise_map, List.pairwise_iff_forall_sublist]
  intro first second inOrder same
  have tenant := (PipelineCall.path_inj.mp same).1
  have among : [first, second].Sublist (ofTenant first.tenantId calls) := by
    have both : ofTenant first.tenantId [first, second] = [first, second] := by
      simp [ofTenant, tenant]
    rw [← both]
    exact inOrder.filter _
  have distinct := (each first (inOrder.subset (List.mem_cons_self ..))).sublist
    (among.map PipelineCall.path)
  rw [List.map_cons, List.map_cons, List.map_nil, List.nodup_cons] at distinct
  exact distinct.1 (List.mem_singleton.mpr same)

/-- When no two calls have one path, a tenant's documents are the records of its runs. -/
theorem documents_perm (clean : ∀ path, InDirectory "runs" path → start.lookup path = none)
    (left : Left start calls runs final) (distinct : (calls.map PipelineCall.path).Nodup)
    {tenantId : String} (named : IsPart tenantId.toList) :
    ((final.rglob (runsDirectory named)).map fun path => (final.lookup path).getD []).Perm
      ((runs.filter fun made => decide (made.call.tenantId = tenantId)).map MadeRun.record) := by
  have once : ((ofTenant tenantId calls).map PipelineCall.path).Nodup :=
    distinct.sublist (List.filter_sublist.map _)
  have paths : (final.rglob (runsDirectory named)).Perm
      ((ofTenant tenantId calls).map PipelineCall.path) :=
    (List.perm_ext_iff_of_nodup (nodup_rglob _) once).mpr fun _ =>
      mem_rglob_iff_mem_map clean left named
  have mapped := paths.map fun path => (final.lookup path).getD []
  rw [← left.made, ← map_call_ofTenant, List.map_map, List.map_map] at mapped
  refine mapped.trans (List.Perm.of_eq (List.map_congr_left fun made among => ?_))
  have held := left.kept distinct made (List.mem_filter.mp among).1
  show (final.lookup made.call.path).getD [] = made.record
  rw [held]
  rfl

/-- The history is complete exactly when no two calls have one path. -/
theorem complete_iff (clean : ∀ path, InDirectory "runs" path → start.lookup path = none)
    (left : Left start calls runs final) :
    Complete final runs ↔ (calls.map PipelineCall.path).Nodup := by
  constructor
  · intro complete
    refine nodup_of_tenants fun call among => ?_
    obtain ⟨records, listed, perm, -⟩ := complete call.tenantId call.named
    obtain ⟨others, again, documents⟩ := listPipelineRuns_perm clean left call.named
    rw [listed] at again
    cases again
    apply nodup_of_length clean left call.named
    have lengths := (perm.symm.trans documents).length_eq
    rw [List.length_map, List.length_map] at lengths
    rw [← left.made, ← map_call_ofTenant, List.length_map, lengths]
  · intro distinct tenantId named
    obtain ⟨records, listed, documents⟩ := listPipelineRuns_perm clean left named
    have perm := documents.trans (documents_perm clean left distinct named)
    refine ⟨records, listed, perm, fun record among => ?_⟩
    obtain ⟨made, own, rfl⟩ := List.mem_map.mp (perm.mem_iff.mp among)
    exact ⟨made, rfl, left.truthful made (List.mem_filter.mp own).1⟩

end Listing

/-- The history is complete exactly when no tenant starts two runs in one second. -/
theorem history_complete_iff (scheduler : PipelineScheduler) (start : LocalStorage)
    (clean : ∀ path, InDirectory "runs" path → start.lookup path = none)
    (calls : List PipelineCall) :
    ∃ runs final, scheduler.executeAll start calls = (.ok runs, final) ∧
      runs.map MadeRun.call = calls ∧
        (Complete final runs ↔ calls.Pairwise fun first second => ¬SameSecond first second) := by
  obtain ⟨runs, final, executed, left⟩ := @left_executeAll scheduler start calls
  refine ⟨runs, final, executed, left.made, (complete_iff clean left).trans ?_⟩
  rw [List.Nodup, List.pairwise_map]
  simp only [ne_eq, PipelineCall.path_inj]

section Sample

/-- A scheduler over a library that parses nothing, with the default settings. -/
def idleScheduler : PipelineScheduler where
  silver :=
    { library :=
        { repr _ := ""
          lower := id
          parseInt _ := none
          dateFromIsoformat _ := none
          datetimeFromIsoformat _ := none
          sha256 := id }
      pii := ⟨[]⟩ }
  settings := {}

/-- Clocks that show one time. -/
def clocksAt (now : DateTime) (utc : now.offset = some 0) : Readings where
  today := now.date
  runId := now
  startedAt := now
  completedAt := now
  durationMs := 0
  elapsedMs _ := 0
  landed _ := now
  utc _ := utc
  ingestedAt _ := now
  processedAt _ := now
  scoredAt := now
  digestAt := now

/-- A call for a tenant whose digest cannot be written. -/
def callAt (now : DateTime) (utc : now.offset = some 0) : PipelineCall where
  tenantId := "tn_a"
  named := isPart_tenant
  inputs := {}
  failures := { digest := some (.other "OSError" "No space left on device") }
  readings := clocksAt now utc
  utc := utc

/-- The runs of a tenant at noon and later are both in its history. -/
theorem history_of_two : ∃ runs final,
    idleScheduler.executeAll .empty [callAt .newYear rfl, callAt tenPast rfl] = (.ok runs, final) ∧
      Complete final runs := by
  obtain ⟨runs, final, executed, -, complete⟩ := history_complete_iff idleScheduler .empty
    (fun _ _ => rfl) [callAt .newYear rfl, callAt tenPast rfl]
  have seconds : DateTime.newYear.secondIndex ≠ tenPast.secondIndex := by decide +kernel
  refine ⟨runs, final, executed, complete.mpr ?_⟩
  rw [List.pairwise_pair]
  exact fun same => seconds same.2

/-- Of two runs of a tenant in one second, only one is in its history. -/
theorem run_forgotten : ∃ runs final,
    idleScheduler.executeAll .empty [callAt .newYear rfl, callAt .newYear rfl] =
      (.ok runs, final) ∧ ¬Complete final runs := by
  obtain ⟨runs, final, executed, left⟩ := @left_executeAll idleScheduler .empty
    [callAt .newYear rfl, callAt .newYear rfl]
  refine ⟨runs, final, executed, fun complete => ?_⟩
  have distinct := (complete_iff (fun _ _ => rfl) left).mp complete
  rw [List.map_cons, List.map_cons, List.map_nil, List.nodup_cons] at distinct
  exact distinct.1 (List.mem_cons_self ..)

end Sample

end VelaFlow.Pipeline
