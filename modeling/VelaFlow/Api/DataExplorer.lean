import VelaFlow.Api.Auth
import VelaFlow.Foundation.KeyValue
import VelaFlow.Foundation.Names
import VelaFlow.Pipeline.Medallion
import VelaFlow.Pipeline.RunHistory
import VelaFlow.Storage.KeyValueStore

/-!
# The data explorer of `api/routes/data_explorer.py`

The documents of a layer are listed under flat names, in which underscores stand for the slashes of
their paths, and are read by name. A name is turned back into a path by a table and, where that has
no entry, by taking every underscore for a slash. The documents of the silver and gold layers come
back; a batch of the bronze layer has underscores of its own and is never found again.
-/
namespace VelaFlow.Api

open Pipeline Planner Process Security Storage

/-- `_LAYER_PERMISSIONS`, whose keys are `_VALID_LAYERS`. -/
def layerPermission : String → Option Permission
  | "bronze" => some .readBronze
  | "silver" => some .readSilver
  | "gold" => some .readGold
  | _ => none

/-- `DatasetInfo`, of which nothing sets `record_count`. -/
structure DatasetInfo where
  /-- `name`. -/
  name : String
  /-- `layer`. -/
  layer : String
  /-- `path`. -/
  path : String
  /-- `record_count`. -/
  recordCount : Option Nat := none
  deriving DecidableEq, Repr

/-- `DatasetPage`. -/
structure DatasetPage where
  /-- `layer`. -/
  layer : String
  /-- `dataset`. -/
  dataset : String
  /-- `records`. -/
  records : List Dict
  /-- `total`. -/
  total : Nat
  /-- `page`. -/
  page : Nat
  /-- `page_size`. -/
  pageSize : Nat

/-- `DatasetStats`. -/
structure DatasetStats where
  /-- `layer`. -/
  layer : String
  /-- `dataset`. -/
  dataset : String
  /-- `record_count`. -/
  recordCount : Nat
  /-- `fields`. -/
  fields : List String
  /-- `processed_at`. -/
  processedAt : Option String

/-- The query of `read_dataset`, as it is validated. -/
structure PageQuery where
  /-- `page`. -/
  page : Nat
  /-- `page_size`. -/
  pageSize : Nat
  /-- `ge=1, le=10000`. -/
  pageBounds : 1 ≤ page ∧ page ≤ 10000
  /-- `ge=1, le=_MAX_PAGE_SIZE`. -/
  sizeBounds : 1 ≤ pageSize ∧ pageSize ≤ 100

/-- `path.replace(prefix, "").replace("/", "_").replace(".json", "")`. -/
def datasetName (keyPrefix path : String) : String :=
  String.ofList (replaceAll ".json".toList []
    (replaceAll ['/'] ['_'] (replaceAll keyPrefix.toList [] path.toList)))

/-- `known_datasets`, below the directory of the tenant. -/
def knownDatasets : List (String × String) :=
  [("todoist_tasks", "todoist/tasks.json"), ("calendar_events", "calendar/events.json"),
   ("gmail_alerts", "gmail/alerts.json"), ("scored_tasks", "scored_tasks.json"),
   ("daily_digest", "daily_digest.json"), ("weekly_review", "weekly_review.json")]

/-- The file of a dataset below the directory of the tenant. -/
def datasetFile (dataset : String) : String :=
  match knownDatasets.lookup dataset with
  | some file => file
  | none => String.ofList (replaceAll ['_'] ['/'] dataset.toList) ++ ".json"

/-- `_resolve_dataset_path`. -/
def resolveDatasetPath (layer tenantId dataset : String) : Reply String :=
  if matchesName 128 dataset then .ok (layer ++ "/" ++ tenantId ++ "/" ++ datasetFile dataset)
  else .error ⟨400, "Invalid dataset name"⟩

/-- `records[start:end]`, where the response takes a list of objects. -/
def sliceRecords (start size : Nat) : Json → Except PyException (List Dict)
  | .arr items => ((items.drop start).take size).mapM fun
    | .obj members => .ok members
    | _ => .error (.other "ValidationError" "records")
  | .str _ => .error (.other "ValidationError" "records")
  | _ => .error (.typeError "unhashable type: 'slice'")

/-- `list(records[0].keys()) if records else []`. -/
def firstFields (records : Json) : Except PyException (List String) :=
  if records.truthy then
    match records with
    | .arr (.obj members :: _) => .ok (members.map Prod.fst)
    | .arr (value :: _) => .error (noAttribute value "keys")
    | .str _ => .error (noAttribute records "keys")
    | .obj _ => .error (.keyError "0")
    | _ => .error (.typeError ("'" ++ typeName records ++ "' object is not subscriptable"))
  else .ok []

/-- `data.get("processed_at")`, which the response takes as a text or not at all. -/
def processedAt (data : Dict) : Except PyException (Option String) :=
  match data.getD "processed_at" .null with
  | .null => .ok none
  | .str text => .ok (some text)
  | _ => .error (.other "ValidationError" "processed_at")

/-- The page of a document that `read_dataset` returns. -/
def pageOf (layer dataset : String) (query : PageQuery) (data : Dict) :
    Except PyException DatasetPage := do
  let records := data.getD "records" (.arr [])
  let total ← pyLen records
  let rows ← sliceRecords ((query.page - 1) * query.pageSize) query.pageSize records
  return { layer, dataset, records := rows, total, page := query.page, pageSize := query.pageSize }

/-- The statistics of a document that `dataset_stats` returns. -/
def statsOf (layer dataset : String) (data : Dict) : Except PyException DatasetStats := do
  let records := data.getD "records" (.arr [])
  let fields ← firstFields records
  let recordCount ← pyLen records
  let processedAt ← processedAt data
  return { layer, dataset, recordCount, fields, processedAt }

/-- What the routes over the datasets are given: the text of `_VALID_LAYERS`, the order of which
is not fixed, and the storage. -/
structure DataExplorer where
  /-- `f"{_VALID_LAYERS}"`. -/
  layersText : String
  /-- `storage`. -/
  storage : LocalStorage

namespace DataExplorer

variable (explorer : DataExplorer) (claims : TokenClaims) (layer : String)

/-- What every route checks first, with the tenant it goes on with. -/
def enter : Reply String := do
  let tenantId ← getCurrentTenantId claims
  match layerPermission layer with
  | none => .error ⟨400, "Invalid layer. Must be one of: " ++ explorer.layersText⟩
  | some permission =>
    if RBACPolicy.checkAccess {} claims.role claims.userRole permission then .ok tenantId
    else .error ⟨403, "No access to " ++ layer ++ " layer"⟩

/-- `list_datasets`. -/
def listDatasets : Except PyException (Reply (List DatasetInfo)) :=
  match explorer.enter claims layer with
  | .error refusal => .ok (.error refusal)
  | .ok tenantId =>
    let keyPrefix := layer ++ "/" ++ tenantId ++ "/"
    (explorer.storage.listKeys keyPrefix).map fun paths =>
      .ok ((paths.filter fun path => ".json".toList.isSuffixOf path.toList).map fun path =>
        { name := datasetName keyPrefix path, layer, path })

/-- The document a name stands for, which `read_dataset` and `dataset_stats` begin with. -/
def openDataset (dataset : String) : Except PyException (Reply Dict) :=
  match explorer.enter claims layer >>= fun tenantId => resolveDatasetPath layer tenantId dataset with
  | .error refusal => .ok (.error refusal)
  | .ok path => (explorer.storage.readJson path).map fun
    | none => .error ⟨404, "Dataset not found"⟩
    | some data => .ok data

/-- `read_dataset`. -/
def readDataset (dataset : String) (query : PageQuery) : Except PyException (Reply DatasetPage) := do
  match ← explorer.openDataset claims layer dataset with
  | .error refusal => return .error refusal
  | .ok data => return .ok (← pageOf layer dataset query data)

/-- `dataset_stats`. -/
def datasetStats (dataset : String) : Except PyException (Reply DatasetStats) := do
  match ← explorer.openDataset claims layer dataset with
  | .error refusal => return .error refusal
  | .ok data => return .ok (← statsOf layer dataset data)

end DataExplorer

section Names

variable {layer tenantId dataset path : String}

/-- The name of a file below the directory of a tenant, when the file has at most one slash. -/
theorem datasetName_eq {file : String} (flat : file.toList.count '/' < 2) :
    datasetName (layer ++ "/" ++ tenantId ++ "/") (layer ++ "/" ++ tenantId ++ "/" ++ file) =
      String.ofList (replaceAll ".json".toList [] (replaceAll ['/'] ['_'] file.toList)) := by
  have slashes : 2 ≤ (layer ++ "/" ++ tenantId ++ "/").toList.count '/' := by
    have one : "/".toList.count '/' = 1 := by decide
    simp only [String.toList_append, List.count_append, one]
    omega
  have some : (layer ++ "/" ++ tenantId ++ "/").toList ≠ [] := by
    intro none
    rw [none] at slashes
    exact absurd slashes (by decide)
  have rest := @replaceAll_eq_self _ _ _ [] '/' file.toList (flat.trans_le slashes)
  have split : (layer ++ "/" ++ tenantId ++ "/" ++ file).toList =
      (layer ++ "/" ++ tenantId ++ "/").toList ++ file.toList := String.toList_append
  unfold datasetName
  rw [split, replaceAll_append some, rest, List.nil_append]

/-- A path that a name stands for has no slash or no underscore below the tenant's directory. -/
theorem file_of_resolve (resolved : resolveDatasetPath layer tenantId dataset = .ok path) :
    ∃ file : String, path = layer ++ "/" ++ tenantId ++ "/" ++ file ∧
      ('/' ∉ file.toList ∨ '_' ∉ file.toList) := by
  unfold resolveDatasetPath at resolved
  split at resolved
  case isFalse other => cases resolved
  case isTrue named =>
    refine ⟨datasetFile dataset, (Except.ok.inj resolved).symm, ?_⟩
    unfold datasetFile
    split
    case h_1 file known =>
      have all : ∀ entry ∈ knownDatasets, '/' ∉ entry.2.toList ∨ '_' ∉ entry.2.toList := by decide
      exact all _ (mem_of_lookup known)
    case h_2 unknown =>
      refine Or.inr fun inside => ?_
      rw [String.toList_append, String.toList_ofList] at inside
      cases List.mem_append.mp inside with
      | inl replaced => exact not_mem_replaceAll_singleton (by decide) _ replaced
      | inr ending => exact absurd ending (by decide)

/-- A name of a plain file stands for its path. -/
theorem resolve_of_name {file : String} (flat : file.toList.count '/' < 2)
    (named : String.ofList (replaceAll ".json".toList [] (replaceAll ['/'] ['_'] file.toList)) =
      dataset) (matched : matchesName 128 dataset = true) (known : datasetFile dataset = file) :
    resolveDatasetPath layer tenantId (datasetName (layer ++ "/" ++ tenantId ++ "/")
      (layer ++ "/" ++ tenantId ++ "/" ++ file)) =
      .ok (layer ++ "/" ++ tenantId ++ "/" ++ file) := by
  rw [datasetName_eq flat, named]
  unfold resolveDatasetPath
  rw [if_pos matched, known]

/-- The key of a document that a call writes to the silver or gold layer is found by its name. -/
theorem resolve_of_cleaned {call : LayerCall} (other : call.layer ≠ .bronze) :
    resolveDatasetPath call.layer.name call.tenantId
      (datasetName (call.layer.name ++ "/" ++ call.tenantId ++ "/") call.path.toKey) =
        .ok call.path.toKey := by
  rw [call.toKey_path]
  cases call with
  | ingest call => exact absurd rfl other
  | process _ _ _ _ source _ =>
    cases source with
    | todoist =>
      exact @resolve_of_name _ _ "todoist_tasks" "todoist/tasks.json" (by decide) (by decide)
        (by decide) (by decide)
    | calendar =>
      exact @resolve_of_name _ _ "calendar_events" "calendar/events.json" (by decide) (by decide)
        (by decide) (by decide)
    | gmail =>
      exact @resolve_of_name _ _ "gmail_emails" "gmail/emails.json" (by decide) (by decide)
        (by decide) (by decide)
  | score =>
    exact @resolve_of_name _ _ "scored_tasks" "scored_tasks.json" (by decide) (by decide)
      (by decide) (by decide)
  | digest =>
    exact @resolve_of_name _ _ "daily_digest" "daily_digest.json" (by decide) (by decide)
      (by decide) (by decide)

/-- No name stands for the key of a batch. -/
theorem resolve_ne_batch {call : LayerCall} (bronze : call.layer = .bronze) :
    resolveDatasetPath call.layer.name call.tenantId dataset ≠ .ok call.path.toKey := by
  intro resolved
  obtain ⟨file, is, lacks⟩ := file_of_resolve resolved
  rw [call.toKey_path] at is
  have same : "/".intercalate call.file = file := (String.append_right_inj _).mp is
  cases call with
  | ingest call =>
    have shape : file =
        call.batch.source.name ++ "/" ++ (makeBatchId call.tenantId call.batch.source call.now ++
          ".json") := same.symm
    cases lacks with
    | inl slash => exact slash (by rw [shape]; simp)
    | inr underscore => exact underscore (by rw [shape]; simp [makeBatchId])
  | process => cases bronze
  | score => cases bronze
  | digest => cases bronze

end Names

section Documents

/-- A document of records that are objects, which says with a text when it was processed if it
does. -/
structure Readable (data : Dict) (rows : List Dict) (processed : Option String) : Prop where
  /-- Its records. -/
  records : data.getD "records" (.arr []) = .arr (rows.map .obj)
  /-- When it was processed. -/
  processed : processedAt data = .ok processed

variable {data : Dict} {rows : List Dict} {processed : Option String}

/-- What the layers write is readable. -/
theorem readable_of_writes {call : LayerCall} (writes : call.Writes data) :
    ∃ rows processed, Readable data rows processed := by
  cases call with
  | ingest call =>
    rw [show data = call.payload from writes]
    exact ⟨[], none, rfl, rfl⟩
  | process _ _ tenantId _ source _ =>
    obtain ⟨time, records, is⟩ := writes
    rw [is]
    exact ⟨records, some time.isoformat, rfl, rfl⟩
  | score _ _ tenantId _ _ weekendMode =>
    obtain ⟨time, scored, is⟩ := writes
    rw [is]
    refine ⟨scored.map goldRecord, none, ?_, rfl⟩
    show Json.arr (scored.map fun task => .obj (goldRecord task)) = _
    rw [List.map_map]
    rfl
  | digest =>
    obtain ⟨time, made, is⟩ := writes
    rw [is]
    exact ⟨[], none, rfl, rfl⟩

/-- A slice of records that are objects. -/
theorem sliceRecords_objects (start size : Nat) (rows : List Dict) :
    sliceRecords start size (.arr (rows.map .obj)) = .ok ((rows.drop start).take size) := by
  unfold sliceRecords
  dsimp only
  rw [← List.map_drop, ← List.map_take]
  induction (rows.drop start).take size with
  | nil => rfl
  | cons row rest ih => exact mapM_cons_ok_iff.mpr ⟨row, rest, rfl, ih, rfl⟩

/-- The page of a readable document. -/
theorem pageOf_eq (readable : Readable data rows processed) (layer dataset : String)
    (query : PageQuery) : pageOf layer dataset query data = .ok
      { layer, dataset, records := (rows.drop ((query.page - 1) * query.pageSize)).take query.pageSize,
        total := rows.length, page := query.page, pageSize := query.pageSize } := by
  have count : pyLen (.arr (rows.map .obj)) = .ok rows.length :=
    congrArg Except.ok (List.length_map _)
  unfold pageOf
  dsimp only
  rw [readable.records, sliceRecords_objects, count]
  rfl

/-- The statistics of a readable document. -/
theorem statsOf_eq (readable : Readable data rows processed) (layer dataset : String) :
    statsOf layer dataset data = .ok
      { layer, dataset, recordCount := rows.length, fields := (rows.headD []).map Prod.fst,
        processedAt := processed } := by
  have count : pyLen (.arr (rows.map .obj)) = .ok rows.length :=
    congrArg Except.ok (List.length_map _)
  have fields : firstFields (.arr (rows.map .obj)) = .ok ((rows.headD []).map Prod.fst) := by
    cases rows with
    | nil => rfl
    | cons row rest => rfl
  unfold statsOf
  dsimp only
  rw [readable.records, fields, count, readable.processed]
  rfl

end Documents

namespace DataExplorer

variable (explorer : DataExplorer) (claims : TokenClaims) (layer : String)

/-- A listed dataset leads back to its document, which both routes return. -/
structure Opens (dataset : DatasetInfo) : Prop where
  /-- The name stands for the path. -/
  resolves : resolveDatasetPath layer claims.tenantId dataset.name = .ok dataset.path
  /-- The routes read the document at the path. -/
  reads : ∃ data rows processed, explorer.storage.readJson dataset.path = .ok (some data) ∧
    Readable data rows processed ∧
    (∀ query, explorer.readDataset claims layer dataset.name query = .ok (.ok
      { layer, dataset := dataset.name,
        records := (rows.drop ((query.page - 1) * query.pageSize)).take query.pageSize,
        total := rows.length, page := query.page, pageSize := query.pageSize })) ∧
    explorer.datasetStats claims layer dataset.name = .ok (.ok
      { layer, dataset := dataset.name, recordCount := rows.length,
        fields := (rows.headD []).map Prod.fst, processedAt := processed })

/-- The datasets of a layer are listed under distinct names that lead back to them. -/
def Browsable : Prop :=
  ∃ datasets, explorer.listDatasets claims layer = .ok (.ok datasets) ∧
    (datasets.map DatasetInfo.name).Nodup ∧
    ∀ dataset ∈ datasets, explorer.Opens claims layer dataset

section Listing

variable {explorer : DataExplorer} {claims : TokenClaims} {layer : Layer} {permission : Permission}

/-- Whoever may read a layer goes on with the tenant of the token. -/
theorem enter_of_granted (named : IsPart claims.tenantId.toList)
    (known : layerPermission layer.name = some permission)
    (granted : RBACPolicy.checkAccess {} claims.role claims.userRole permission = true) :
    explorer.enter claims layer.name = .ok claims.tenantId := by
  have filled : claims.tenantId ≠ "" := fun empty => named.1 (by rw [empty]; rfl)
  refine bind_ok_iff.mpr ⟨claims.tenantId, if_neg filled, ?_⟩
  rw [known]
  exact if_pos granted

/-- The key of a file that is listed ends in `.json`. -/
theorem json_suffix_toKey {path : Path} (json : LocalStorage.isJson path = true) :
    ".json".toList.isSuffixOf path.toKey.toList = true := by
  have whole : path.toKey.toList = ['/'].intercalate path.parts := String.toList_ofList
  rw [List.isSuffixOf_iff_suffix, whole]
  unfold LocalStorage.isJson at json
  split at json
  case h_1 none => cases json
  case h_2 name last =>
    have ends := List.isSuffixOf_iff_suffix.mp json
    obtain ⟨before, parts⟩ := List.getLast?_eq_some_iff.mp last
    have one : ['/'].intercalate [name] = name := by simp [List.intercalate]
    rw [parts]
    by_cases alone : before = []
    · rw [alone, List.nil_append, one]
      exact ends
    · rw [intercalate_append alone (List.cons_ne_nil _ _), one]
      exact ends.trans ((List.suffix_cons _ _).trans (List.suffix_append _ _))

/-- The listing of the datasets. -/
theorem listDatasets_eq (named : IsPart claims.tenantId.toList)
    (entered : explorer.enter claims layer.name = .ok claims.tenantId)
    (apart : explorer.storage.lookup (layerDirectory layer named) = none) :
    explorer.listDatasets claims layer.name = .ok (.ok
      ((explorer.storage.rglob (layerDirectory layer named)).map fun path =>
        { name := datasetName (layer.name ++ "/" ++ claims.tenantId ++ "/") path.toKey,
          layer := layer.name, path := path.toKey })) := by
  let directory := layerDirectory layer named
  have all : ((explorer.storage.rglob directory).map Path.toKey).filter
      (fun key => ".json".toList.isSuffixOf key.toList) =
        (explorer.storage.rglob directory).map Path.toKey := by
    rw [List.filter_eq_self]
    intro key listed
    obtain ⟨path, inside, rfl⟩ := List.mem_map.mp listed
    have found := ((explorer.storage.rglob_perm directory).mem_iff.mp inside)
    have kept := (List.mem_filter.mp found).2
    exact json_suffix_toKey (Bool.and_eq_true_iff.mp kept).2
  unfold listDatasets
  rw [entered]
  dsimp only
  rw [LocalStorage.listKeys_directory (resolve_layerDirectory layer named) apart]
  show Except.ok (Except.ok (List.map _ (List.filter _ _))) = _
  rw [all, List.map_map]
  rfl

/-- A document that its name stands for opens. -/
theorem opens_of_resolve {dataset : DatasetInfo} {data : Dict} {rows : List Dict}
    {processed : Option String}
    (entered : explorer.enter claims layer.name = .ok claims.tenantId)
    (resolved : resolveDatasetPath layer.name claims.tenantId dataset.name = .ok dataset.path)
    (read : explorer.storage.readJson dataset.path = .ok (some data))
    (readable : Readable data rows processed) :
    explorer.Opens claims layer.name dataset := by
  have opened : explorer.openDataset claims layer.name dataset.name = .ok (.ok data) := by
    have path : (explorer.enter claims layer.name >>= fun tenantId =>
        resolveDatasetPath layer.name tenantId dataset.name) = .ok dataset.path := by
      rw [entered]
      exact resolved
    unfold openDataset
    rw [path]
    dsimp only
    rw [read]
    rfl
  refine ⟨resolved, data, rows, processed, read, readable, fun query => ?_, ?_⟩
  · have page := pageOf_eq readable layer.name dataset.name query
    exact bind_ok_iff.mpr ⟨.ok data, opened, bind_ok_iff.mpr ⟨_, page, rfl⟩⟩
  · have stats := statsOf_eq readable layer.name dataset.name
    exact bind_ok_iff.mpr ⟨.ok data, opened, bind_ok_iff.mpr ⟨_, stats, rfl⟩⟩

end Listing

/-- Of the documents that the layers have written for a tenant, those of a layer are listed under
distinct names that lead back to them exactly when none of them is a batch of raw data. -/
theorem browsable_iff (explorer : DataExplorer) (claims : TokenClaims) (layer : Layer)
    (start : LocalStorage) (calls : List LayerCall) (permission : Permission)
    (stored : explorer.storage = LayerCall.leavesAll start calls)
    (named : IsPart claims.tenantId.toList)
    (known : layerPermission layer.name = some permission)
    (granted : RBACPolicy.checkAccess {} claims.role claims.userRole permission = true)
    (clean : ∀ path, (layerDirectory layer named).parts <+: path.parts → start.lookup path = none) :
    explorer.Browsable claims layer.name ↔
      (layer = .bronze → ∀ call ∈ calls, call.layer = .bronze → call.tenantId ≠ claims.tenantId) := by
  have entered : explorer.enter claims layer.name = .ok claims.tenantId :=
    enter_of_granted named known granted
  let directory := layerDirectory layer named
  have written {path : Path} {data : Dict} (inside : directory.parts <+: path.parts)
      (found : explorer.storage.lookup path = some data) :
      ∃ call ∈ calls, call.path = path ∧ call.Writes data := by
    rw [stored] at found
    have cases_ := LayerCall.cases_lookup_leavesAll start calls found
    rw [clean path inside] at cases_
    exact cases_.resolve_left (by simp)
  have apart : explorer.storage.lookup directory = none := by
    cases found : explorer.storage.lookup directory with
    | none => rfl
    | some data =>
      obtain ⟨call, -, same, -⟩ := written (List.prefix_refl _) found
      have lengths := congrArg (fun path => path.parts.length) same
      have some := List.length_pos_iff.mpr call.file_ne_nil
      simp only [LayerCall.path, directory, layerDirectory, List.length_cons, List.length_map,
        List.length_nil] at lengths
      omega
  have listed := listDatasets_eq named entered apart
  have held {path : Path} : path ∈ explorer.storage.rglob directory ↔
      (∃ data, explorer.storage.lookup path = some data) ∧
        LocalStorage.below directory path = true ∧ LocalStorage.isJson path = true := by
    rw [(explorer.storage.rglob_perm directory).mem_iff, List.mem_filter,
      LocalStorage.mem_paths_iff, Bool.and_eq_true]
  have read (path : Path) : explorer.storage.readJson path.toKey =
      .ok (explorer.storage.lookup path) := by
    unfold LocalStorage.readJson
    rw [resolve_toKey]
    rfl
  constructor
  · intro browsable bronze call made landed own
    obtain ⟨datasets, isList, -, opens⟩ := browsable
    rw [listed] at isList
    cases isList
    have below := (call.below_path_iff layer named).mpr ⟨landed.trans bronze.symm, own⟩
    have found := LayerCall.lookup_leavesAll_of_bronze start made landed
    rw [← stored] at found
    have inside := held.mpr ⟨found, below, call.isJson_path⟩
    have opened := (opens _ (List.mem_map_of_mem inside)).resolves
    rw [bronze, ← landed, ← own] at opened
    exact resolve_ne_batch landed opened
  · intro plain
    have opens : ∀ path ∈ explorer.storage.rglob directory, explorer.Opens claims layer.name
        { name := datasetName (layer.name ++ "/" ++ claims.tenantId ++ "/") path.toKey,
          layer := layer.name, path := path.toKey } := by
      intro path inside
      obtain ⟨⟨data, found⟩, below, -⟩ := held.mp inside
      obtain ⟨rest, -, parts⟩ := below_iff.mp below
      obtain ⟨call, made, same, writes⟩ := written ⟨rest, parts.symm⟩ found
      subst same
      obtain ⟨sameLayer, own⟩ := (call.below_path_iff layer named).mp below
      have other : call.layer ≠ .bronze := fun landed =>
        plain (sameLayer.symm.trans landed) call made landed own
      have resolved := resolve_of_cleaned other
      rw [sameLayer, own] at resolved
      obtain ⟨rows, processed, readable⟩ := readable_of_writes writes
      exact opens_of_resolve entered resolved ((read _).trans (congrArg Except.ok found)) readable
    refine ⟨_, listed, ?_, List.forall_mem_map.mpr opens⟩
    have once := (explorer.storage.rglob_perm directory).nodup_iff.mpr
      (explorer.storage.distinct.filter _)
    rw [List.map_map]
    refine once.map_on fun one inOne two inTwo same => ?_
    have first := (opens one inOne).resolves
    have second := (opens two inTwo).resolves
    dsimp only [Function.comp_apply] at same first second
    rw [same, second] at first
    exact toKey_inj (Except.ok.inj first).symm

/-- The token of an owner. -/
def ownerOf (tenantId : String) : TokenClaims :=
  { tenantId, role := "standard", email := "owner@example.org", userId := "usr_1",
    userRole := "owner" }

/-- The new year is in UTC. -/
theorem utc_newYear : DateTime.newYear.offset = some 0 := rfl

/-- An email is landed and the tasks are scored. -/
def sampleCalls : List LayerCall :=
  [.ingest (landing [.null] .newYear utc_newYear),
   .score idleScheduler (clocksAt .newYear utc_newYear) "tn_a" isPart_tenant [] (.bool false)]

/-- The explorer over what the sample calls leave. -/
def sampleExplorer : DataExplorer where
  layersText := "\x7b'bronze', 'silver', 'gold'\x7d"
  storage := LayerCall.leavesAll .empty sampleCalls

/-- The gold layer of the sample can be browsed. -/
theorem browsable_gold : sampleExplorer.Browsable (ownerOf "tn_a") "gold" :=
  (browsable_iff sampleExplorer (ownerOf "tn_a") .gold .empty sampleCalls .readGold rfl isPart_tenant
    rfl (by decide) fun _ _ => rfl).mpr fun bronze => by cases bronze

/-- The explorer over one landed email. -/
def landedExplorer : DataExplorer where
  layersText := "\x7b'bronze', 'silver', 'gold'\x7d"
  storage := LayerCall.leavesAll .empty [.ingest (landing [.null] .newYear utc_newYear)]

/-- What the name of the landed batch comes to can be parts. -/
theorem isPart_deeper : ∀ part ∈ ["bronze".toList, "tn_a".toList, "gmail".toList, "gmail".toList,
    "tn".toList, "a".toList, "20250101T120000.json".toList], IsPart part := by decide

/-- Where the name of the landed batch leads. -/
def deeperPath : Path where
  parts := ["bronze".toList, "tn_a".toList, "gmail".toList, "gmail".toList, "tn".toList, "a".toList,
    "20250101T120000.json".toList]
  areParts := isPart_deeper

/-- The name under which a batch is listed is not that of any document. -/
theorem batch_unreadable :
    landedExplorer.listDatasets (ownerOf "tn_a") "bronze" = .ok (.ok
      [{ name := "gmail_gmail_tn_a_20250101T120000", layer := "bronze",
         path := "bronze/tn_a/gmail/gmail_tn_a_20250101T120000.json" }]) ∧
    resolveDatasetPath "bronze" "tn_a" "gmail_gmail_tn_a_20250101T120000" =
      .ok "bronze/tn_a/gmail/gmail/tn/a/20250101T120000.json" ∧
    ∀ query, landedExplorer.readDataset (ownerOf "tn_a") "bronze" "gmail_gmail_tn_a_20250101T120000"
      query = .ok (.error ⟨404, "Dataset not found"⟩) := by
  have named : IsPart (ownerOf "tn_a").tenantId.toList := isPart_tenant
  have entered : landedExplorer.enter (ownerOf "tn_a") Layer.bronze.name =
      .ok (ownerOf "tn_a").tenantId := @enter_of_granted _ _ .bronze .readBronze named rfl (by decide)
  have stored : landedExplorer.storage =
      LocalStorage.empty.put (landing [.null] .newYear utc_newYear).path
        (landing [.null] .newYear utc_newYear).payload := by
    unfold landedExplorer LayerCall.leavesAll
    rw [List.foldl_cons, List.foldl_nil, LayerCall.leaves_ingest]
  have apart : landedExplorer.storage.lookup (layerDirectory .bronze named) = none := by
    rw [stored]
    rfl
  let call : LayerCall := .ingest (landing [.null] .newYear utc_newYear)
  have one : landedExplorer.storage.rglob (layerDirectory .bronze named) = [call.path] := by
    have found := landedExplorer.storage.rglob_perm (layerDirectory .bronze named)
    have below := (call.below_path_iff .bronze named).mpr ⟨rfl, rfl⟩
    have paths : landedExplorer.storage.paths = [call.path] := by
      rw [stored]
      rfl
    rw [paths, List.filter_cons, below, call.isJson_path] at found
    exact List.perm_singleton.mp found
  have key : call.path.toKey = "bronze/tn_a/gmail/gmail_tn_a_20250101T120000.json" := by
    rw [call.toKey_path]
    decide +kernel
  have name : datasetName (Layer.bronze.name ++ "/" ++ (ownerOf "tn_a").tenantId ++ "/")
      "bronze/tn_a/gmail/gmail_tn_a_20250101T120000.json" =
        "gmail_gmail_tn_a_20250101T120000" := by decide +kernel
  have resolved : resolveDatasetPath "bronze" "tn_a" "gmail_gmail_tn_a_20250101T120000" =
      .ok "bronze/tn_a/gmail/gmail/tn/a/20250101T120000.json" := by decide +kernel
  refine ⟨?_, resolved, fun query => ?_⟩
  · have listed := listDatasets_eq named entered apart
    rw [one, List.map_cons, List.map_nil, key, name] at listed
    exact listed
  · have deeper : resolve "bronze/tn_a/gmail/gmail/tn/a/20250101T120000.json" = .ok deeperPath := by
      decide +kernel
    have other : deeperPath ≠ call.path := by
      intro same
      have lengths := congrArg (fun path => path.parts.length) same
      exact absurd lengths (by decide)
    have missing : landedExplorer.storage.readJson
        "bronze/tn_a/gmail/gmail/tn/a/20250101T120000.json" = .ok none := by
      unfold LocalStorage.readJson
      rw [deeper, stored]
      exact congrArg Except.ok (LocalStorage.lookup_put_ne _ _ other)
    have path : (landedExplorer.enter (ownerOf "tn_a") Layer.bronze.name >>= fun tenantId =>
        resolveDatasetPath Layer.bronze.name tenantId "gmail_gmail_tn_a_20250101T120000") =
          .ok "bronze/tn_a/gmail/gmail/tn/a/20250101T120000.json" := by
      rw [entered]
      exact resolved
    have opened : landedExplorer.openDataset (ownerOf "tn_a") Layer.bronze.name
        "gmail_gmail_tn_a_20250101T120000" = .ok (.error ⟨404, "Dataset not found"⟩) := by
      unfold openDataset
      rw [path]
      dsimp only
      rw [missing]
      rfl
    exact bind_ok_iff.mpr ⟨_, opened, rfl⟩

end DataExplorer

end VelaFlow.Api
