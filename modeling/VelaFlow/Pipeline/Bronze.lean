import VelaFlow.Foundation.Calendar
import VelaFlow.Storage.EncryptionCoverage

/-!
# The bronze layer of `pipeline/bronze.py`

Every call lands its raw data as a batch of its tenant and source, under a name that ends in the
time of the call. The time is written to the second, so the batches of one tenant and source in
different seconds have different keys, and those in one second have the same.
-/
namespace VelaFlow.Pipeline

open Storage

/-- Where raw data comes from. -/
inductive Source where
  /-- Todoist. -/
  | todoist
  /-- Google Calendar. -/
  | calendar
  /-- Gmail. -/
  | gmail
  deriving DecidableEq, Repr

/-- The name of a source. -/
def Source.name : Source → String
  | todoist => "todoist"
  | calendar => "calendar"
  | gmail => "gmail"

/-- The arguments of a call that lands raw data. -/
inductive RawBatch where
  /-- Of `ingest_todoist`. -/
  | todoist (tasks : List Json) (projects sections : Option (List Json))
  /-- Of `ingest_calendar`. -/
  | calendar (events : List Json)
  /-- Of `ingest_gmail`. -/
  | gmail (emails : List Json)

/-- The source of raw data. -/
def RawBatch.source : RawBatch → Source
  | todoist _ _ _ => .todoist
  | calendar _ => .calendar
  | gmail _ => .gmail

/-- The `data` of a batch. -/
def RawBatch.data : RawBatch → Dict
  | todoist tasks projects sections =>
    [("tasks", .arr tasks), ("projects", .arr (projects.getD [])),
      ("sections", .arr (sections.getD []))]
  | calendar events => [("events", .arr events)]
  | gmail emails => [("emails", .arr emails)]

/-- `_make_batch_id`. -/
def makeBatchId (tenantId : String) (source : Source) (now : DateTime) : String :=
  source.name ++ "_" ++ tenantId ++ "_" ++ now.stamp

/-- `_bronze_path`. -/
def bronzePath (tenantId : String) (source : Source) (batchId : String) : String :=
  (Document.bronze tenantId source.name batchId).key

/-- A call that lands raw data of a tenant. -/
structure Ingest where
  /-- `tenant.tenant_id`. -/
  tenantId : String
  /-- The identifier of a tenant is a name. -/
  named : IsPart tenantId.toList
  /-- What is landed. -/
  batch : RawBatch
  /-- The clock when the batch is named. -/
  now : DateTime
  /-- The time is in UTC. -/
  utc : now.offset = some 0
  /-- The clock when the batch is put together. -/
  ingestedAt : DateTime

namespace Ingest

/-- The batch a call makes. -/
def batchId (call : Ingest) : String := makeBatchId call.tenantId call.batch.source call.now

/-- The key of the batch. -/
def key (call : Ingest) : String := bronzePath call.tenantId call.batch.source call.batchId

/-- The payload of the batch. -/
def payload (call : Ingest) : Dict :=
  [("source", .str call.batch.source.name), ("tenant_id", .str call.tenantId),
    ("ingested_at", .str call.ingestedAt.isoformat), ("batch_id", .str call.batchId),
    ("data", .obj call.batch.data)]

end Ingest

/-- `ingest_todoist`, `ingest_calendar` and `ingest_gmail`. -/
def ingest (storage : LocalStorage) (call : Ingest) : Except PyException (String × LocalStorage) :=
  (storage.writeJson call.key call.payload).map fun written => (call.batchId, written)

/-- The storage after calls. -/
def ingestAll : LocalStorage → List Ingest → Except PyException LocalStorage
  | storage, [] => .ok storage
  | storage, call :: rest => do
    let (_, written) ← ingest storage call
    ingestAll written rest

/-- `sorted(keys)`. -/
def sortedKeys (keys : List String) : List String :=
  keys.mergeSort fun first second => decide (first ≤ second)

/-- The prefix of the batches of a tenant and source. -/
def batchPrefix (tenantId : String) (source : Source) : String :=
  "bronze/" ++ tenantId ++ "/" ++ source.name ++ "/"

/-- `list_batches`. -/
def listBatches (storage : LocalStorage) (tenantId : String) (source : Source) :
    Except PyException (List String) :=
  (storage.listKeys (batchPrefix tenantId source)).map sortedKeys

/-- `read_latest`. -/
def readLatest (storage : LocalStorage) (tenantId : String) (source : Source) :
    Except PyException (Option Dict) := do
  let batches ← storage.listKeys (batchPrefix tenantId source)
  match (sortedKeys batches).getLast? with
  | none => pure none
  | some latest => storage.readJson latest

/-- A source's name can be a part of a path. -/
theorem isPart_source (source : Source) : IsPart source.name.toList := by
  cases source <;> decide

/-- A stamp has no slash. -/
theorem slash_not_mem_stamp (time : DateTime) :
    '/' ∉ time.stamp.toList ∧ '\\' ∉ time.stamp.toList := by
  have plain : ∀ {width value} {character : Char}, character ∈ digits width value →
      character ≠ '/' ∧ character ≠ '\\' := by
    intro width value character inside
    have digit := isDigit_of_mem_digits inside
    constructor
    · rintro rfl
      cases digit
    · rintro rfl
      cases digit
  unfold DateTime.stamp
  rw [String.toList_ofList]
  simp only [List.mem_append, List.mem_cons, not_or]
  exact ⟨⟨fun is => (plain is).1 rfl, fun is => (plain is).1 rfl, fun is => (plain is).1 rfl,
    by decide, fun is => (plain is).1 rfl, fun is => (plain is).1 rfl,
    fun is => (plain is).1 rfl⟩, fun is => (plain is).2 rfl, fun is => (plain is).2 rfl,
    fun is => (plain is).2 rfl, by decide, fun is => (plain is).2 rfl,
    fun is => (plain is).2 rfl, fun is => (plain is).2 rfl⟩

/-- The file of a batch has a name. -/
theorem isPart_batch {tenantId : String} (named : IsPart tenantId.toList) (source : Source)
    (now : DateTime) : IsPart (makeBatchId tenantId source now ++ ".json").toList := by
  obtain ⟨-, -, -, noSlash, noBackslash⟩ := named
  obtain ⟨-, -, -, sourceSlash, sourceBackslash⟩ := isPart_source source
  obtain ⟨stampSlash, stampBackslash⟩ := slash_not_mem_stamp now
  have long : 3 ≤ (makeBatchId tenantId source now ++ ".json").toList.length := by
    simp [makeBatchId]
    omega
  refine ⟨?_, ?_, ?_, ?_, ?_⟩
  · intro is
    simp [is] at long
  · intro is
    simp [is] at long
  · intro is
    simp [is] at long
  · simp [makeBatchId, noSlash, sourceSlash, stampSlash]
  · simp [makeBatchId, noBackslash, sourceBackslash, stampBackslash]

namespace Ingest

/-- The parts of the path of a batch can be some. -/
theorem areParts (call : Ingest) : ∀ part ∈ ["bronze".toList, call.tenantId.toList,
    call.batch.source.name.toList, (call.batchId ++ ".json").toList], IsPart part := by
  intro part member
  simp only [List.mem_cons, List.not_mem_nil, or_false] at member
  rcases member with rfl | rfl | rfl | rfl
  · decide
  · exact call.named
  · exact isPart_source _
  · exact isPart_batch call.named _ _

/-- The path of a batch. -/
def path (call : Ingest) : Path :=
  ⟨["bronze".toList, call.tenantId.toList, call.batch.source.name.toList,
    (call.batchId ++ ".json").toList], call.areParts⟩

/-- The key of a batch resolves to its path. -/
theorem resolve_key (call : Ingest) : resolve call.key = .ok call.path := by
  apply resolve_eq_ok
  have key : call.key = "bronze" ++ "/" ++ call.tenantId ++ "/" ++ call.batch.source.name ++ "/" ++
      (call.batchId ++ ".json") := by
    unfold key bronzePath Document.key
    simp only [String.append_assoc]
    rfl
  have bronze : keyParts "bronze" = ["bronze".toList] := keyParts_of_isPart (by decide)
  have file : keyParts (call.batchId ++ ".json") = [(call.batchId ++ ".json").toList] :=
    keyParts_of_isPart (isPart_batch call.named _ _)
  rw [key, keyParts_append_slash, keyParts_append_slash, keyParts_append_slash, bronze, file,
    keyParts_of_isPart call.named, keyParts_of_isPart (isPart_source _)]
  rfl

/-- Two batches have one path when they are of one tenant, source and second. -/
theorem path_inj {first second : Ingest} : first.path = second.path ↔
    first.tenantId = second.tenantId ∧ first.batch.source = second.batch.source ∧
      first.now.secondIndex = second.now.secondIndex := by
  have sources : ∀ one other : Source, one.name = other.name → one = other := by
    intro one other same
    cases one <;> cases other <;> first | rfl | (revert same; decide)
  rw [← DateTime.stamp_inj first.utc second.utc]
  constructor
  · intro same
    have parts := congrArg Path.parts same
    simp only [path, List.cons.injEq, true_and, and_true] at parts
    obtain ⟨tenant, source, file⟩ := parts
    have one := String.toList_injective tenant
    have other := sources _ _ (String.toList_injective source)
    have ids := String.toList_injective file
    rw [String.append_left_inj] at ids
    unfold batchId makeBatchId at ids
    rw [one, other, String.append_right_inj] at ids
    exact ⟨one, other, ids⟩
  · rintro ⟨tenant, source, stamp⟩
    apply Storage.Path.ext
    simp only [path, batchId, makeBatchId, tenant, source, stamp]

/-- Landing a batch puts its payload at its path. -/
theorem ingest_eq (storage : LocalStorage) (call : Ingest) :
    ingest storage call = .ok (call.batchId, storage.put call.path call.payload) := by
  unfold ingest LocalStorage.writeJson
  rw [call.resolve_key]
  rfl

/-- Landing batches puts them in their places one after the other. -/
theorem ingestAll_cons (storage : LocalStorage) (call : Ingest) (rest : List Ingest) :
    ingestAll storage (call :: rest) = ingestAll (storage.put call.path call.payload) rest := by
  rw [ingestAll, ingest_eq]
  rfl

/-- After batches there are those that were there before and the new ones. -/
theorem lookup_ingestAll (storage : LocalStorage) (calls : List Ingest) :
    ∃ after, ingestAll storage calls = .ok after ∧ ∀ path, (after.lookup path).isSome = true ↔
      (storage.lookup path).isSome = true ∨ ∃ call ∈ calls, call.path = path := by
  induction calls generalizing storage with
  | nil => exact ⟨storage, rfl, fun path => by simp⟩
  | cons call rest ih =>
    obtain ⟨after, done, found⟩ := ih (storage.put call.path call.payload)
    refine ⟨after, (ingestAll_cons storage call rest).trans done, fun path => ?_⟩
    rw [found, List.exists_mem_cons_iff]
    by_cases same : call.path = path
    · subst same
      simp
    · rw [LocalStorage.lookup_put_ne _ _ (Ne.symm same)]
      simp only [same, false_or]

end Ingest

end VelaFlow.Pipeline
