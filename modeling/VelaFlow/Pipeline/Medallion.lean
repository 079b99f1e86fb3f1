import VelaFlow.Pipeline.Failures

/-!
# What the layers write

The calls of the bronze, silver and gold layers, each with the one document it may write: its path,
and the form of what is stored there. Whatever calls are made, a tenant's directory of a layer
holds documents of its own calls of that layer alone.
-/
namespace VelaFlow.Pipeline

open Planner Process Storage

/-- The file of what the silver layer makes of a source. -/
def silverFile : Source → String
  | .todoist => "tasks.json"
  | .calendar => "events.json"
  | .gmail => "emails.json"

/-- A call of a method of the layers. -/
inductive LayerCall where
  /-- `ingest_todoist`, `ingest_calendar` or `ingest_gmail`. -/
  | ingest (call : Ingest)
  /-- `process_todoist`, `process_calendar` or `process_gmail`. -/
  | process (layer : SilverLayer) (readings : Readings) (tenantId : String)
      (named : IsPart tenantId.toList) (source : Source) (bronze : Dict)
  /-- `produce_scored_tasks`. -/
  | score (scheduler : PipelineScheduler) (readings : Readings) (tenantId : String)
      (named : IsPart tenantId.toList) (tasks : List Task) (weekendMode : Json)
  /-- `produce_daily_digest`. -/
  | digest (scheduler : PipelineScheduler) (readings : Readings) (tenantId : String)
      (named : IsPart tenantId.toList) (cleaned : Cleaned)

namespace LayerCall

/-- The storage after a call, which may have raised. -/
def leaves (storage : LocalStorage) : LayerCall → LocalStorage
  | ingest call =>
    match Pipeline.ingest storage call with
    | .ok (_, written) => written
    | .error _ => storage
  | process layer readings tenantId _ .todoist bronze =>
    ((layer.processTodoist readings tenantId bronze).on ⟨storage, []⟩).2.storage
  | process layer readings tenantId _ .calendar bronze =>
    ((layer.processCalendar readings tenantId bronze).on ⟨storage, []⟩).2.storage
  | process layer readings tenantId _ .gmail bronze =>
    ((layer.processGmail readings tenantId bronze).on ⟨storage, []⟩).2.storage
  | score scheduler readings tenantId _ tasks weekendMode =>
    ((scheduler.produceScoredTasks readings tenantId tasks weekendMode).on ⟨storage, []⟩).2.storage
  | digest scheduler readings tenantId _ cleaned =>
    ((scheduler.produceDailyDigest readings tenantId cleaned).on ⟨storage, []⟩).2.storage

/-- The layer of a call. -/
def layer : LayerCall → Layer
  | ingest _ => .bronze
  | process .. => .silver
  | score .. => .gold
  | digest .. => .gold

/-- The tenant of a call. -/
def tenantId : LayerCall → String
  | ingest call => call.tenantId
  | process _ _ tenantId .. => tenantId
  | score _ _ tenantId .. => tenantId
  | digest _ _ tenantId .. => tenantId

/-- The path of the document below its tenant's directory. -/
def file : LayerCall → List String
  | ingest call => [call.batch.source.name, call.batchId ++ ".json"]
  | process _ _ _ _ source _ => [source.name, silverFile source]
  | score .. => ["scored_tasks.json"]
  | digest .. => ["daily_digest.json"]

/-- The form of what a call stores. -/
def Writes (data : Dict) : LayerCall → Prop
  | ingest call => data = call.payload
  | process _ _ tenantId _ source _ =>
    ∃ time records, data = silverDocument tenantId source.name time records
  | score _ _ tenantId _ _ weekendMode =>
    ∃ time scored, data = scoredTasksDocument tenantId time weekendMode scored
  | digest _ _ tenantId _ _ => ∃ time made, data = dailyDigestDocument tenantId time made

/-- The tenant of a call has a name. -/
theorem named (call : LayerCall) : IsPart call.tenantId.toList := by
  cases call with
  | ingest call => exact call.named
  | process _ _ _ named => exact named
  | score _ _ _ named => exact named
  | digest _ _ _ named => exact named

/-- The parts of a document's file have names. -/
theorem isPart_file (call : LayerCall) : ∀ part ∈ call.file, IsPart part.toList := by
  intro part member
  cases call with
  | ingest call =>
    simp only [file, List.mem_cons, List.not_mem_nil, or_false] at member
    rcases member with rfl | rfl
    · exact isPart_source _
    · exact isPart_batch call.named _ _
  | process _ _ _ _ source _ =>
    simp only [file, List.mem_cons, List.not_mem_nil, or_false] at member
    rcases member with rfl | rfl
    · exact isPart_source _
    · cases source <;> decide
  | score => exact (List.mem_singleton.mp member) ▸ (by decide)
  | digest => exact (List.mem_singleton.mp member) ▸ (by decide)

end LayerCall

section Directory

/-- Two layers do not have one directory. -/
theorem layer_eq_of_name {one other : Layer} (same : one.name = other.name) : one = other := by
  cases one <;> cases other <;> first | rfl | exact absurd same (by decide)

variable {tenantId : String} (layer : Layer) (named : IsPart tenantId.toList)

/-- A tenant's directory of a layer. -/
def layerDirectory : Path where
  parts := [layer.name.toList, tenantId.toList]
  areParts := List.forall_mem_cons.mpr ⟨isPart_layer layer, List.forall_mem_singleton.mpr named⟩

include named in
/-- The parts of a key in a layer. -/
theorem keyParts_layerKey (name : String) :
    keyParts (layerKey layer tenantId name) =
      layer.name.toList :: tenantId.toList :: keyParts name := by
  rw [layerKey, keyParts_append_slash, keyParts_append_slash, keyParts_of_isPart named,
    keyParts_of_isPart (isPart_layer layer)]
  rfl

/-- The directory is where its key resolves to. -/
theorem resolve_layerDirectory :
    resolve (layer.name ++ "/" ++ tenantId ++ "/") = .ok (layerDirectory layer named) := by
  have empty : keyParts "" = [] := by decide
  have parts := keyParts_layerKey layer named ""
  rw [layerKey, String.append_empty, empty] at parts
  exact resolve_eq_ok parts

end Directory

namespace LayerCall

/-- The path of the document of a call. -/
def path (call : LayerCall) : Path where
  parts := call.layer.name.toList :: call.tenantId.toList :: call.file.map String.toList
  areParts part member := by
    rcases List.mem_cons.mp member with rfl | member
    · exact isPart_layer _
    · rcases List.mem_cons.mp member with rfl | member
      · exact call.named
      · obtain ⟨part, inside, rfl⟩ := List.mem_map.mp member
        exact call.isPart_file part inside

/-- A document has a file. -/
theorem file_ne_nil (call : LayerCall) : call.file ≠ [] := by
  cases call <;> exact List.cons_ne_nil _ _

/-- The document of a call is listed. -/
theorem isJson_path (call : LayerCall) : LocalStorage.isJson call.path = true := by
  have batch (name : String) : ".json".toList.isSuffixOf (name ++ ".json").toList = true := by
    rw [List.isSuffixOf_iff_suffix, String.toList_append]
    exact List.suffix_append _ _
  cases call with
  | ingest call => exact batch _
  | process _ _ _ _ source _ =>
    cases source with
    | todoist => exact batch "tasks"
    | calendar => exact batch "events"
    | gmail => exact batch "emails"
  | score => exact batch "scored_tasks"
  | digest => exact batch "daily_digest"

/-- The document of a call is in the directory of its layer and tenant. -/
theorem below_path_iff (call : LayerCall) (layer : Layer) {tenantId : String}
    (named : IsPart tenantId.toList) :
    LocalStorage.below (layerDirectory layer named) call.path = true ↔
      call.layer = layer ∧ call.tenantId = tenantId := by
  rw [LocalStorage.below, Bool.and_eq_true, List.isPrefixOf_iff_prefix, decide_eq_true_eq]
  constructor
  · intro ⟨inside, _⟩
    obtain ⟨sameLayer, inside⟩ := List.cons_prefix_cons.mp inside
    obtain ⟨sameTenant, -⟩ := List.cons_prefix_cons.mp inside
    exact ⟨(layer_eq_of_name (String.toList_injective sameLayer)).symm,
      (String.toList_injective sameTenant).symm⟩
  · intro ⟨sameLayer, sameTenant⟩
    subst sameLayer sameTenant
    refine ⟨⟨call.file.map String.toList, rfl⟩, fun same => call.file_ne_nil ?_⟩
    have lengths := congrArg List.length same
    simp only [layerDirectory, path, List.length_cons, List.length_map, List.length_nil] at lengths
    exact List.length_eq_zero_iff.mp (by omega)

/-- The key of the document of a call. -/
theorem toKey_path (call : LayerCall) :
    call.path.toKey = layerKey call.layer call.tenantId ("/".intercalate call.file) := by
  have whole : call.path.toKey =
      "/".intercalate (call.layer.name :: call.tenantId :: call.file) := by
    apply String.toList_injective
    rw [String.toList_intercalate, Path.toKey, String.toList_ofList]
    rfl
  rw [whole, String.intercalate_cons_of_ne_nil (List.cons_ne_nil _ _),
    String.intercalate_cons_of_ne_nil call.file_ne_nil, layerKey]
  simp only [String.append_assoc]

/-- The key of the document of a call resolves to its path. -/
theorem resolve_key (call : LayerCall) :
    resolve (layerKey call.layer call.tenantId ("/".intercalate call.file)) = .ok call.path := by
  rw [← toKey_path]
  exact resolve_toKey call.path

/-- What a method leaves in the storage that writes what was computed. -/
theorem storage_returning {α β : Type} {path : Path} {start : Staging} (outcome : Except PyException α)
    {data : α → Dict} {rest : α → Staged β}
    (writes : ∀ made, ((rest made).on start).2.storage = start.storage.put path (data made)) :
    ((returning outcome >>= rest).on start).2.storage = start.storage ∨
      ∃ made, ((returning outcome >>= rest).on start).2.storage =
        start.storage.put path (data made) := by
  rw [Staged.on_bind, Staged.on_returning]
  cases outcome with
  | error exception => exact Or.inl rfl
  | ok made => exact Or.inr ⟨made, writes made⟩

/-- What a method leaves in the storage that saves what was computed and returns it. -/
theorem storage_saving {α : Type} {layer : Layer} {tenantId name : String} {path : Path}
    (resolved : resolve (layerKey layer tenantId name) = .ok path) (outcome : Except PyException α)
    (data : α → Dict) (start : Staging) :
    let ran := (do
      let made ← returning outcome
      save layer tenantId name (data made)
      pure made : Staged α).on start
    ran.2.storage = start.storage ∨ ∃ made, ran.2.storage = start.storage.put path (data made) := by
  apply storage_returning
  intro made
  rw [Staged.on_bind, Staged.on_save resolved]
  rfl

/-- Landing raw data writes its batch. -/
theorem leaves_ingest (call : Ingest) (storage : LocalStorage) :
    leaves storage (.ingest call) = storage.put call.path call.payload := by
  have landed : Pipeline.ingest storage call =
      .ok (call.batchId, storage.put call.path call.payload) := by
    unfold Pipeline.ingest LocalStorage.writeJson
    rw [call.resolve_key]
    rfl
  unfold leaves
  dsimp only
  rw [landed]

/-- A call leaves the storage as it is, unless it lands raw data, or writes its document. -/
theorem leaves_cases (call : LayerCall) (storage : LocalStorage) :
    leaves storage call = storage ∧ call.layer ≠ .bronze ∨
      ∃ data, call.Writes data ∧ leaves storage call = storage.put call.path data := by
  have resolved := call.resolve_key
  have silver : Layer.silver ≠ .bronze := by decide
  have gold : Layer.gold ≠ .bronze := by decide
  cases call with
  | ingest call =>
    exact Or.inr ⟨call.payload, rfl, leaves_ingest call storage⟩
  | process layer readings tenantId named source bronze =>
    cases source with
    | todoist =>
      have left := storage_saving resolved (layer.cleanTasks bronze) (fun tasks => silverDocument tenantId
        "todoist" (readings.processedAt .todoist) (tasks.map taskToDict)) ⟨storage, []⟩
      exact left.imp (fun same => ⟨same, silver⟩) fun ⟨made, is⟩ => ⟨_, ⟨_, _, rfl⟩, is⟩
    | calendar =>
      have left := storage_saving resolved (layer.cleanEvents bronze) (fun events => silverDocument tenantId
        "calendar" (readings.processedAt .calendar) (events.map eventToDict)) ⟨storage, []⟩
      exact left.imp (fun same => ⟨same, silver⟩) fun ⟨made, is⟩ => ⟨_, ⟨_, _, rfl⟩, is⟩
    | gmail =>
      have left := storage_saving resolved (layer.cleanEmails bronze) (fun emails => silverDocument tenantId
        "gmail" (readings.processedAt .gmail) (emails.map emailToDict)) ⟨storage, []⟩
      exact left.imp (fun same => ⟨same, silver⟩) fun ⟨made, is⟩ => ⟨_, ⟨_, _, rfl⟩, is⟩
  | score scheduler readings tenantId named tasks weekendMode =>
    have left := storage_saving resolved (scheduler.rank readings weekendMode.truthy tasks)
      (scoredTasksDocument tenantId readings.scoredAt weekendMode) ⟨storage, []⟩
    exact left.imp (fun same => ⟨same, gold⟩) fun ⟨made, is⟩ => ⟨_, ⟨_, _, rfl⟩, is⟩
  | digest scheduler readings tenantId named cleaned =>
    have left := @storage_returning _ _ _ ⟨storage, []⟩
      (scheduler.digestUnder readings scheduler.settings cleaned)
      (dailyDigestDocument tenantId readings.digestAt) (fun made =>
        save .gold tenantId "daily_digest.json" (dailyDigestDocument tenantId readings.digestAt made))
      fun made => congrArg (fun ran => ran.2.storage) (Staged.on_save resolved)
    exact left.imp (fun same => ⟨same, gold⟩) fun ⟨made, is⟩ => ⟨_, ⟨_, _, rfl⟩, is⟩

/-- The storage after calls. -/
def leavesAll (storage : LocalStorage) (calls : List LayerCall) : LocalStorage :=
  calls.foldl leaves storage

/-- What there is after calls was there before or is the document of one of them. -/
theorem cases_lookup_leavesAll (start : LocalStorage) (calls : List LayerCall) {path : Path}
    {data : Dict} (found : (leavesAll start calls).lookup path = some data) :
    start.lookup path = some data ∨ ∃ call ∈ calls, call.path = path ∧ call.Writes data := by
  induction calls using List.reverseRecOn with
  | nil => exact Or.inl found
  | append_singleton earlier call ih =>
    have last : leavesAll start (earlier ++ [call]) = leaves (leavesAll start earlier) call :=
      List.foldl_concat _ _ _ _
    have before (held : (leavesAll start earlier).lookup path = some data) :
        start.lookup path = some data ∨
          ∃ other ∈ earlier ++ [call], other.path = path ∧ other.Writes data := by
      refine (ih held).imp_right fun ⟨other, inside, is⟩ => ⟨other, ?_, is⟩
      exact List.mem_append_left _ inside
    rw [last] at found
    cases leaves_cases call (leavesAll start earlier) with
    | inl same =>
      rw [same.1] at found
      exact before found
    | inr wrote =>
      obtain ⟨made, writes, is⟩ := wrote
      rw [is] at found
      by_cases here : path = call.path
      · subst here
        rw [LocalStorage.lookup_put_self] at found
        cases found
        exact Or.inr ⟨call, List.mem_append_right _ List.mem_cons_self, rfl, writes⟩
      · rw [LocalStorage.lookup_put_ne _ _ here] at found
        exact before found

/-- A batch that was landed is there. -/
theorem lookup_leavesAll_of_bronze (start : LocalStorage) {calls : List LayerCall} {call : LayerCall}
    (made : call ∈ calls) (bronze : call.layer = .bronze) :
    ∃ data, (leavesAll start calls).lookup call.path = some data := by
  induction calls using List.reverseRecOn with
  | nil => cases made
  | append_singleton earlier last ih =>
    have ends : leavesAll start (earlier ++ [last]) = leaves (leavesAll start earlier) last :=
      List.foldl_concat _ _ _ _
    rw [ends]
    have kept (wrote : ∃ data, (leavesAll start earlier).lookup call.path = some data) :
        ∃ data, (leaves (leavesAll start earlier) last).lookup call.path = some data := by
      cases leaves_cases last (leavesAll start earlier) with
      | inl same => rwa [same.1]
      | inr written =>
        obtain ⟨made, -, is⟩ := written
        rw [is]
        by_cases here : call.path = last.path
        · exact ⟨made, by rw [here, LocalStorage.lookup_put_self]⟩
        · rwa [LocalStorage.lookup_put_ne _ _ here]
    cases List.mem_append.mp made with
    | inl inside => exact kept (ih inside)
    | inr inside =>
      obtain rfl := List.mem_singleton.mp inside
      cases leaves_cases call (leavesAll start earlier) with
      | inl same => exact absurd bronze same.2
      | inr written =>
        obtain ⟨made, -, is⟩ := written
        exact ⟨made, by rw [is, LocalStorage.lookup_put_self]⟩

end LayerCall

end VelaFlow.Pipeline
