import VelaFlow.Engine.Processor
import VelaFlow.Pipeline.Deduplication
import VelaFlow.Security.PiiLocality

/-!
# The two silver layers

A batch of raw tasks can go through the layers of the pipeline or through the tables of the
processor. The first keeps of each identifier the first record, cut and masked. The other keeps any
one of the records, since those of one batch have one time, and keeps its content as it is. So both
keep the same exactly when records of one identifier have the same content and priority and no
content is changed by the cut and the mask.
-/
namespace VelaFlow.Engine

open Pipeline Planner Process Storage

/-- A batch of raw tasks of a tenant, and the times at which the two sides handle it. -/
structure Delivery where
  /-- The tenant. -/
  tenantId : String
  /-- The identifier of a tenant is a name. -/
  named : IsPart tenantId.toList
  /-- The raw tasks. -/
  tasks : List Dict
  /-- The raw projects. -/
  projects : List Dict
  /-- The raw sections. -/
  sections : List Dict
  /-- The clocks of the pipeline. -/
  readings : Readings
  /-- The clock of `bronze_ingest`. -/
  ingestedAt : DateTime
  /-- The clock of `silver_transform`. -/
  transformedAt : DateTime
  /-- The `batch_id` of `bronze_ingest`. -/
  batchId : String

namespace Delivery

/-- The call of `ingest_todoist`. -/
def call (delivery : Delivery) : Ingest where
  tenantId := delivery.tenantId
  named := delivery.named
  batch := .todoist (delivery.tasks.map .obj) (some (delivery.projects.map .obj))
    (some (delivery.sections.map .obj))
  now := delivery.readings.landed .todoist
  utc := delivery.readings.utc .todoist
  ingestedAt := delivery.readings.ingestedAt .todoist

/-- The landed batch is cleaned as its raw records are. -/
theorem cleanTasks_payload (delivery : Delivery) (layer : SilverLayer) :
    layer.cleanTasks delivery.call.payload =
      layer.cleanTasks (batch delivery.tasks delivery.projects delivery.sections) := rfl

end Delivery

/-- What the layers keep of a task, its identifier, content and priority. -/
abbrev Facts := String × String × Int

/-- What the pipeline keeps of a task. -/
def taskFacts (task : Task) : Facts := (task.id, task.content, task.priority)

/-- What the processor keeps of a task. -/
def rowFacts (row : SilverRow) : Facts := (row.id, row.content, row.priority)

/-- The two sides agree on a batch: both take it, and in whatever order the database numbers rows,
both keep the same identifiers with the same contents and priorities. -/
def Agree (processor : MedallionProcessor) (delivery : Delivery) (start : Staging)
    (tables : Tables) : Prop :=
  ∃ landed bronze made left count ingested,
    ingest start.storage delivery.call = .ok (delivery.call.batchId, landed) ∧
    landed.readJson delivery.call.key = .ok (some bronze) ∧
    (processor.builtins.processTodoist delivery.readings delivery.tenantId bronze).on
      { start with storage := landed } = (.ok made, left) ∧
    processor.bronzeIngest delivery.tenantId "todoist" delivery.tasks delivery.batchId
      delivery.ingestedAt tables = .ok (count, ingested) ∧
    ∀ window, (made.map taskFacts).Perm
      (((processor.silverTransform window delivery.tenantId delivery.transformedAt
        ingested).2.silver.filter fun row => decide (row.tenantId = delivery.tenantId)).map
          rowFacts)

/-- The content of a raw task. -/
def content (layer : SilverLayer) (record : Dict) : String :=
  layer.text (record.getD "content" (.str ""))

/-- The priority that the pipeline reads of a raw task. -/
def priority (layer : SilverLayer) (record : Dict) : Int :=
  layer.safeInt (record.getD "priority" .null) 1

/-- A raw task that both sides can read, with an identifier and a content that are not empty. -/
structure WellFormedTask (layer : SilverLayer) (record : Dict) : Prop where
  /-- Its identifier. -/
  id : layer.text (record.getD "id" (.str "")) ≠ ""
  /-- Its content. -/
  content : content layer record ≠ ""
  /-- Its priority. -/
  priority : ∃ value, layer.toInt (record.getD "priority" (.int 1)) = .ok value ∧
    isInteger value = true
  /-- Its other fields. -/
  fields : Buildable layer record

/-- A well-formed batch of a tenant of whom the tables hold no rows. -/
structure WellFormedDelivery (layer : SilverLayer) (delivery : Delivery) (tables : Tables) :
    Prop where
  /-- The tasks are well-formed. -/
  tasks : ∀ record ∈ delivery.tasks, WellFormedTask layer record
  /-- The projects have keys. -/
  projects : ∀ record ∈ delivery.projects, Named record
  /-- The sections have keys. -/
  sections : ∀ record ∈ delivery.sections, Named record
  /-- The batch is the first of its tenant. -/
  fresh : ∀ row ∈ tables.bronze, row.tenantId ≠ delivery.tenantId

/-- Neither the order of the records nor the cut and the mask make a difference. -/
structure Settled (layer : SilverLayer) (tasks : List Dict) : Prop where
  /-- No content is changed by the cut and the mask. -/
  clean : ∀ record ∈ tasks, layer.cleanText 2000 (record.getD "content" (.str "")) =
    content layer record
  /-- Records of one identifier have the same content and priority. -/
  same : ∀ one ∈ tasks, ∀ other ∈ tasks, layer.taskId one = layer.taskId other →
    content layer one = content layer other ∧ priority layer one = priority layer other

section Records

variable {layer : SilverLayer} {record : Dict}

/-- A field whose text is not empty is there. -/
theorem get?_of_text {field : String} (some' : layer.text (record.getD field (.str "")) ≠ "") :
    ∃ value, record.get? field = some value := by
  cases found : record.get? field with
  | some value => exact ⟨value, rfl⟩
  | none =>
    have empty : record.getD field (.str "") = .str "" := by
      unfold Dict.getD
      rw [found]
      rfl
    rw [empty] at some'
    exact absurd rfl some'

/-- A well-formed task has the required fields. -/
theorem WellFormedTask.hasFields (wellFormed : WellFormedTask layer record) :
    hasFields ["id", "content"] record = true := by
  obtain ⟨id, isId⟩ := get?_of_text wellFormed.id
  obtain ⟨content, isContent⟩ := get?_of_text wellFormed.content
  simp [Pipeline.hasFields, isId, isContent]

/-- Both sides read the same identifier. -/
theorem WellFormedTask.taskId (wellFormed : WellFormedTask layer record) :
    layer.text (record.getD "id" (.str "")) = layer.taskId record := by
  obtain ⟨id, isId⟩ := get?_of_text wellFormed.id
  unfold SilverLayer.taskId Dict.getD
  rw [isId]
  rfl

/-- Both sides read the same priority where `int` reads one. -/
theorem priority_eq {value : Int} (read : layer.toInt (record.getD "priority" (.int 1)) = .ok value) :
    priority layer record = value := by
  unfold priority
  unfold Dict.getD at read ⊢
  cases found : record.get? "priority" with
  | none =>
    rw [found] at read
    cases read
    rfl
  | some known =>
    rw [found, Option.getD_some] at read
    rw [Option.getD_some]
    cases known with
    | null => cases read
    | _ => simp only [SilverLayer.safeInt, read, Except.toOption, Option.getD_some]

end Records

section Sides

variable {processor : MedallionProcessor} {delivery : Delivery} {tables : Tables}

/-- The row of a well-formed task. -/
def landedRow (processor : MedallionProcessor) (delivery : Delivery) (batch : String)
    (record : Dict) : BronzeRow where
  id := processor.builtins.taskId record
  tenantId := delivery.tenantId
  source := "todoist"
  content := content processor.builtins record
  priority := priority processor.builtins record
  dueDate :=
    if (record.getD "due_date" (.str "")).truthy then
      processor.builtins.text (record.getD "due_date" (.str ""))
    else ""
  labels := processor.dumps (record.getD "labels" (.arr []))
  projectName := processor.builtins.text (record.getD "project_name" (.str ""))
  ingestedAt := delivery.ingestedAt.instant
  batchId := batch

/-- A well-formed task has a row. -/
theorem bronzeRow_eq {batch : String} {record : Dict}
    (wellFormed : WellFormedTask processor.builtins record) :
    processor.bronzeRow delivery.tenantId "todoist" batch delivery.ingestedAt record =
        .ok (landedRow processor delivery batch record) ∧
      isInteger (priority processor.builtins record) = true := by
  obtain ⟨value, read, fits⟩ := wellFormed.priority
  have level := priority_eq read
  unfold MedallionProcessor.bronzeRow landedRow
  rw [level, ← wellFormed.taskId]
  simp only [read]
  exact ⟨rfl, fits⟩

/-- The rows of well-formed tasks are inserted. -/
theorem bronzeIngest_eq (wellFormed : ∀ record ∈ delivery.tasks,
    WellFormedTask processor.builtins record) :
    ∃ count batch, processor.bronzeIngest delivery.tenantId "todoist" delivery.tasks
      delivery.batchId delivery.ingestedAt tables = .ok (count, { tables with
        bronze := tables.bronze ++ delivery.tasks.map (landedRow processor delivery batch) }) := by
  unfold MedallionProcessor.bronzeIngest
  cases tasks : delivery.tasks with
  | nil => exact ⟨0, "", by simp⟩
  | cons first rest =>
    rw [← tasks]
    have some' : delivery.tasks.isEmpty = false := by rw [tasks]; rfl
    rw [some']
    let batch := if delivery.batchId = "" then
      "todoist" ++ "_" ++ delivery.tenantId ++ "_" ++ delivery.ingestedAt.isoformat
      else delivery.batchId
    let rows := delivery.tasks.map (landedRow processor delivery batch)
    have read : delivery.tasks.mapM (processor.bronzeRow delivery.tenantId "todoist" batch
        delivery.ingestedAt) = .ok rows := by
      have pure' := @List.mapM_pure (Except PyException) _ _ _ _ delivery.tasks
        (landedRow processor delivery batch)
      exact (mapM_eq_ok_iff pure').mpr fun record inside =>
        (bronzeRow_eq (wellFormed record inside)).1.symm
    have fit : rows.find? (fun row => !isInteger row.priority) = none := by
      rw [List.find?_eq_none]
      intro row inside
      obtain ⟨record, member, is⟩ := List.mem_map.mp inside
      have fits := (@bronzeRow_eq processor delivery batch record (wellFormed record member)).2
      rw [← is]
      simpa [landedRow] using fits
    have inserted : processor.insert tables rows =
        .ok { tables with bronze := tables.bronze ++ rows } := by
      unfold MedallionProcessor.insert
      rw [fit]
    exact ⟨rows.length, batch, bind_ok_iff.mpr ⟨rows, read, bind_ok_iff.mpr ⟨_, inserted, rfl⟩⟩⟩

/-- The query reads the rows of the batch. -/
theorem validRows_eq {batch : String}
    (wellFormed : WellFormedDelivery processor.builtins delivery tables) :
    MedallionProcessor.validRows delivery.tenantId { tables with
        bronze := tables.bronze ++ delivery.tasks.map (landedRow processor delivery batch) } =
      delivery.tasks.map (landedRow processor delivery batch) := by
  unfold MedallionProcessor.validRows
  rw [List.filter_append]
  have none' : tables.bronze.filter (fun row => decide (row.tenantId = delivery.tenantId) &&
      decide (row.id ≠ "") && decide (row.content ≠ "")) = [] := by
    rw [List.filter_eq_nil_iff]
    intro row inside
    simp [wellFormed.fresh row inside]
  rw [none', List.nil_append, List.filter_eq_self]
  intro row inside
  obtain ⟨record, member, is⟩ := List.mem_map.mp inside
  have task := wellFormed.tasks record member
  have id : processor.builtins.taskId record ≠ "" := by
    rw [← task.taskId]
    exact task.id
  rw [← is]
  simp [landedRow, id, task.content]

/-- The rows that a query leaves of a tenant are those it makes. -/
theorem filter_silverTransform (window : Window BronzeRow.ingestedAt) (tenantId : String)
    (now : DateTime) (tables : Tables) :
    (processor.silverTransform window tenantId now tables).2.silver.filter
        (fun row => decide (row.tenantId = tenantId)) =
      (window.ones (fun row => (row.tenantId, row.id))
        (MedallionProcessor.validRows tenantId tables)).map (processor.silverRow now) := by
  unfold MedallionProcessor.silverTransform
  rw [List.filter_append]
  have none' : (tables.silver.filter fun row => decide (row.tenantId ≠ tenantId)).filter
      (fun row => decide (row.tenantId = tenantId)) = [] := by
    rw [List.filter_eq_nil_iff]
    intro row inside
    simpa using (List.mem_filter.mp inside).2
  rw [none', List.nil_append, List.filter_eq_self]
  intro row inside
  obtain ⟨one, member, is⟩ := List.mem_map.mp inside
  have valid := (List.mem_filter.mp (window.mem_of_mem_ones _ member)).2
  rw [← is]
  simp only [Bool.and_eq_true] at valid
  exact valid.1.1

end Sides

section Facts

variable {layer : SilverLayer}

/-- What a raw task says. -/
def rawFacts (layer : SilverLayer) (record : Dict) : Facts :=
  (layer.taskId record, content layer record, priority layer record)

/-- What a raw task says once it is cut and masked. -/
def cleanFacts (layer : SilverLayer) (record : Dict) : Facts :=
  (layer.taskId record, layer.cleanText 2000 (record.getD "content" (.str "")),
    priority layer record)

/-- The pipeline keeps of a task what it says once it is cut and masked. -/
theorem taskFacts_buildTask {projects sections : NameMap} {raw : Dict} {task : Task}
    (built : layer.buildTask projects sections raw = .ok task) :
    taskFacts task = cleanFacts layer raw := by
  unfold SilverLayer.buildTask at built
  obtain ⟨_, -, built⟩ := bind_ok_iff.mp built
  obtain ⟨_, -, built⟩ := bind_ok_iff.mp built
  obtain ⟨_, -, built⟩ := bind_ok_iff.mp built
  obtain ⟨_, -, built⟩ := bind_ok_iff.mp built
  cases built
  rfl

/-- Of well-formed tasks the pipeline keeps the first of each identifier. -/
theorem kept_eq {tasks : List Dict} (wellFormed : ∀ record ∈ tasks, WellFormedTask layer record) :
    kept layer tasks = firstBy layer.taskId tasks [] := by
  have all : tasks.filter (hasFields ["id", "content"]) = tasks :=
    List.filter_eq_self.mpr fun record inside => (wellFormed record inside).hasFields
  unfold kept
  rw [all]

/-- Contents of one text are cut and masked to one. -/
theorem cleanText_congr {one other : Dict} (same : content layer one = content layer other) :
    layer.cleanText 2000 (one.getD "content" (.str "")) =
      layer.cleanText 2000 (other.getD "content" (.str "")) := by
  unfold content at same
  unfold SilverLayer.cleanText
  rw [same]

/-- Records that each say what the first of its identifier says once it is cut and masked are
settled. -/
theorem settled_of_firsts {tasks : List Dict}
    (firsts : ∀ record ∈ tasks, ∃ first ∈ firstBy layer.taskId tasks [],
      cleanFacts layer first = rawFacts layer record) : Settled layer tasks := by
  have distinct := nodup_map_firstBy layer.taskId tasks []
  have unique : ∀ {one other}, one ∈ firstBy layer.taskId tasks [] →
      other ∈ firstBy layer.taskId tasks [] → layer.taskId one = layer.taskId other →
        one = other := fun first second level => List.inj_on_of_nodup_map distinct first second level
  constructor
  · intro record inside
    obtain ⟨first, own, facts⟩ := firsts record inside
    obtain ⟨again, among, itself⟩ := firsts first (mem_of_mem_firstBy _ own)
    have same := unique among own (congrArg Prod.fst itself)
    subst same
    have texts : content layer again = content layer record :=
      (congrArg (·.2.1) itself).symm.trans (congrArg (·.2.1) facts)
    exact (cleanText_congr texts).symm.trans (congrArg (·.2.1) facts)
  · intro one inside other among level
    obtain ⟨first, own, facts⟩ := firsts one inside
    obtain ⟨second, its, others⟩ := firsts other among
    have ids : layer.taskId first = layer.taskId second :=
      (congrArg Prod.fst facts).trans (level.trans (congrArg Prod.fst others).symm)
    have same := unique own its ids
    subst same
    have whole : rawFacts layer one = rawFacts layer other := facts.symm.trans others
    exact ⟨congrArg (·.2.1) whole, congrArg (·.2.2) whole⟩

/-- Settled records of one identifier say the same, and do so once they are cut and masked. -/
theorem Settled.facts {tasks : List Dict} (settled : Settled layer tasks) :
    (∀ record ∈ tasks, cleanFacts layer record = rawFacts layer record) ∧
      ∀ one ∈ tasks, ∀ other ∈ tasks, layer.taskId one = layer.taskId other →
        rawFacts layer one = rawFacts layer other := by
  constructor
  · intro record inside
    unfold cleanFacts rawFacts
    rw [settled.clean record inside]
  · intro one inside other among level
    obtain ⟨texts, numbers⟩ := settled.same one inside other among level
    unfold rawFacts
    rw [level, texts, numbers]

end Facts

section Choice

variable {processor : MedallionProcessor} {delivery : Delivery} {batch : String}

/-- What the processor keeps of a row of the first table. -/
def bronzeFacts (row : BronzeRow) : Facts := (row.id, row.content, row.priority)

/-- The partition of a row. -/
def partitionOf (row : BronzeRow) : String × String := (row.tenantId, row.id)

/-- The database can number the row of any record of a batch one. -/
theorem exists_window {record : Dict} (inside : record ∈ delivery.tasks) :
    ∃ window : Window BronzeRow.ingestedAt, landedRow processor delivery batch record ∈
      window.ones partitionOf (delivery.tasks.map (landedRow processor delivery batch)) := by
  rw [Window.exists_mem_ones_iff]
  refine ⟨List.mem_map_of_mem inside, ?_⟩
  intro other among _
  obtain ⟨one, _, is⟩ := List.mem_map.mp among
  rw [← is]
  exact le_refl delivery.ingestedAt.instant

/-- Rows of different partitions say different things. -/
theorem nodup_bronzeFacts (window : Window BronzeRow.ingestedAt) :
    ((window.ones partitionOf (delivery.tasks.map (landedRow processor delivery batch))).map
      bronzeFacts).Nodup := by
  let ones := window.ones partitionOf (delivery.tasks.map (landedRow processor delivery batch))
  have distinct : (ones.map partitionOf).Nodup := window.nodup_map_ones _ _
  have split : ones.map partitionOf =
      (ones.map bronzeFacts).map fun facts => (delivery.tenantId, facts.1) := by
    rw [List.map_map]
    apply List.map_congr_left
    intro row one
    obtain ⟨record, _, is⟩ := List.mem_map.mp (window.mem_of_mem_ones _ one)
    rw [← is]
    rfl
  rw [split] at distinct
  exact distinct.of_map _

/-- Of settled records the rows that are numbered one say what all say. -/
theorem mem_bronzeFacts_iff (settled : Settled processor.builtins delivery.tasks)
    (window : Window BronzeRow.ingestedAt) (facts : Facts) :
    facts ∈ (window.ones partitionOf
        (delivery.tasks.map (landedRow processor delivery batch))).map bronzeFacts ↔
      facts ∈ delivery.tasks.map (rawFacts processor.builtins) := by
  let rows := delivery.tasks.map (landedRow processor delivery batch)
  have stated : rows.map bronzeFacts = delivery.tasks.map (rawFacts processor.builtins) :=
    List.map_map
  rw [← stated]
  apply @mem_map_of_covers _ _ _ partitionOf
  · exact fun row => window.mem_of_mem_ones partitionOf
  · exact fun row inside => (window.mem_map_ones partitionOf).mpr (List.mem_map_of_mem inside)
  · intro row inside other among level
    obtain ⟨one, first, rfl⟩ := List.mem_map.mp inside
    obtain ⟨two, second, rfl⟩ := List.mem_map.mp among
    exact settled.facts.2 one first two second (congrArg Prod.snd level)

/-- Of settled records the firsts say, once they are cut and masked, what all say. -/
theorem mem_cleanFacts_iff {layer : SilverLayer} {tasks : List Dict} (settled : Settled layer tasks)
    (facts : Facts) : facts ∈ (firstBy layer.taskId tasks []).map (cleanFacts layer) ↔
      facts ∈ tasks.map (rawFacts layer) := by
  have firsts : (firstBy layer.taskId tasks []).map (cleanFacts layer) =
      (firstBy layer.taskId tasks []).map (rawFacts layer) :=
    List.map_congr_left fun record first =>
      settled.facts.1 record (mem_of_mem_firstBy _ first)
  rw [firsts]
  apply @mem_map_of_covers _ _ _ layer.taskId
  · exact fun record => mem_of_mem_firstBy _
  · exact fun record inside => (mem_map_firstBy _ _ _ _).mpr
      ⟨List.mem_map_of_mem inside, List.not_mem_nil⟩
  · exact settled.facts.2

/-- Whatever rows the database numbers one, these say what the pipeline keeps, exactly when the
records are settled. -/
theorem perm_facts_iff : (∀ window : Window BronzeRow.ingestedAt,
    ((firstBy processor.builtins.taskId delivery.tasks []).map
      (cleanFacts processor.builtins)).Perm ((window.ones partitionOf
        (delivery.tasks.map (landedRow processor delivery batch))).map bronzeFacts)) ↔
      Settled processor.builtins delivery.tasks := by
  constructor
  · intro agree
    apply settled_of_firsts
    intro record inside
    obtain ⟨window, one⟩ := @exists_window processor delivery batch record inside
    have said := (agree window).mem_iff.mpr (List.mem_map_of_mem one)
    exact List.mem_map.mp said
  · intro settled window
    have ids : ((firstBy processor.builtins.taskId delivery.tasks []).map
        (cleanFacts processor.builtins)).Nodup := by
      have distinct := nodup_map_firstBy processor.builtins.taskId delivery.tasks []
      have split : (firstBy processor.builtins.taskId delivery.tasks []).map
          processor.builtins.taskId = ((firstBy processor.builtins.taskId delivery.tasks []).map
            (cleanFacts processor.builtins)).map Prod.fst := by
        rw [List.map_map]
        rfl
      rw [split] at distinct
      exact distinct.of_map _
    apply (List.perm_ext_iff_of_nodup ids (nodup_bronzeFacts window)).mpr
    intro facts
    rw [mem_cleanFacts_iff settled, mem_bronzeFacts_iff settled]

end Choice

/-- The pipeline takes a well-formed batch, and keeps the first of each identifier, cut and masked. -/
theorem process_landed {processor : MedallionProcessor} {delivery : Delivery} {tables : Tables}
    (start : Staging) (wellFormed : WellFormedDelivery processor.builtins delivery tables) :
    ∃ landed made left,
      ingest start.storage delivery.call = .ok (delivery.call.batchId, landed) ∧
      landed.readJson delivery.call.key = .ok (some delivery.call.payload) ∧
      (processor.builtins.processTodoist delivery.readings delivery.tenantId
        delivery.call.payload).on { start with storage := landed } = (.ok made, left) ∧
      made.map taskFacts = (firstBy processor.builtins.taskId delivery.tasks []).map
        (cleanFacts processor.builtins) := by
  obtain ⟨made, built⟩ := mapM_ok_exists_iff.mpr fun record inside =>
    (@buildTask_ok_iff processor.builtins (namesOf delivery.projects)
      (namesOf delivery.sections) record).mpr (wellFormed.tasks record
        (mem_of_mem_firstBy processor.builtins.taskId inside)).fields
  have cleaned : processor.builtins.cleanTasks delivery.call.payload = .ok made := by
    rw [delivery.cleanTasks_payload, cleanTasks_batch_iff, kept_eq wellFormed.tasks]
    exact ⟨wellFormed.projects, wellFormed.sections, built⟩
  obtain ⟨path, resolved⟩ := @resolve_silver delivery.tenantId "todoist" "tasks.json"
    delivery.named (by decide)
  let landed := start.storage.put delivery.call.path delivery.call.payload
  have reads : landed.readJson delivery.call.key = .ok (some delivery.call.payload) := by
    have there := start.storage.lookup_put_self delivery.call.path delivery.call.payload
    unfold LocalStorage.readJson
    rw [delivery.call.resolve_key]
    exact congrArg Except.ok there
  have saves := @on_saving Task delivery.tenantId "todoist/tasks.json" "todoist" taskToDict
    (delivery.readings.processedAt .todoist) { start with storage := landed } _ made path cleaned
    resolved
  obtain ⟨left, _, done, -⟩ := saves
  exact ⟨landed, made, left, Ingest.ingest_eq start.storage delivery.call, reads, done,
    map_of_mapM built fun _ _ => taskFacts_buildTask⟩

/-- On well-formed batches the two silver layers agree when, whatever rows are numbered one, these say
what the pipeline keeps. -/
theorem agree_iff_perm {processor : MedallionProcessor} {delivery : Delivery} {start : Staging}
    {tables : Tables} (wellFormed : WellFormedDelivery processor.builtins delivery tables) :
    ∃ batch, Agree processor delivery start tables ↔ ∀ window : Window BronzeRow.ingestedAt,
      ((firstBy processor.builtins.taskId delivery.tasks []).map
        (cleanFacts processor.builtins)).Perm ((window.ones partitionOf
          (delivery.tasks.map (landedRow processor delivery batch))).map bronzeFacts) := by
  obtain ⟨landed, made, left, lands, reads, done, stated⟩ := process_landed start wellFormed
  obtain ⟨count, batch, ingests⟩ := @bronzeIngest_eq processor delivery tables wellFormed.tasks
  let ingested : Tables := { tables with
    bronze := tables.bronze ++ delivery.tasks.map (landedRow processor delivery batch) }
  have rows : ∀ window : Window BronzeRow.ingestedAt,
      ((processor.silverTransform window delivery.tenantId delivery.transformedAt
        ingested).2.silver.filter fun row => decide (row.tenantId = delivery.tenantId)).map
          rowFacts = (window.ones partitionOf
            (delivery.tasks.map (landedRow processor delivery batch))).map bronzeFacts := by
    intro window
    rw [filter_silverTransform, validRows_eq wellFormed, List.map_map]
    rfl
  refine ⟨batch, ?_⟩
  rw [← stated]
  constructor
  · rintro ⟨landed', bronze, made', left', count', ingested', lands', reads', done', ingests', same⟩
    cases lands.symm.trans lands'
    cases reads.symm.trans reads'
    cases done.symm.trans done'
    cases ingests.symm.trans ingests'
    intro window
    rw [← rows window]
    exact same window
  · intro same
    refine ⟨landed, _, made, left, count, ingested, lands, reads, done, ingests, ?_⟩
    intro window
    rw [rows window]
    exact same window

/-- On well-formed batches the two silver layers agree exactly when the records are settled. -/
theorem agree_iff_settled (processor : MedallionProcessor) (delivery : Delivery) (start : Staging)
    (tables : Tables) (wellFormed : WellFormedDelivery processor.builtins delivery tables) :
    Agree processor delivery start tables ↔ Settled processor.builtins delivery.tasks := by
  obtain ⟨batch, agree⟩ := @agree_iff_perm processor delivery start tables wellFormed
  exact agree.trans perm_facts_iff

section Sample

/-- A processor whose silver layer knows one phone number. -/
def phoneProcessor : MedallionProcessor where
  builtins := { idleScheduler.silver with pii := Security.PiiDetector.phoneDetector }
  dumps _ := "[]"
  md5 := id
  outOfRange _ := .other "ConversionException" "Conversion Error"

/-- A batch of one task. -/
def deliveryOf (text : String) : Delivery where
  tenantId := "tn_a"
  named := isPart_tenant
  tasks := [[("id", .str "2"), ("content", .str text)]]
  projects := []
  sections := []
  readings := clocksAt .newYear rfl
  ingestedAt := .newYear
  transformedAt := .newYear
  batchId := ""

/-- A batch of one task with a text is well-formed. -/
theorem wellFormed_deliveryOf {text : String} (some' : text ≠ "") :
    WellFormedDelivery phoneProcessor.builtins (deliveryOf text) ⟨[], []⟩ where
  tasks := by
    intro record inside
    cases List.mem_singleton.mp inside
    have id : phoneProcessor.builtins.text (.str "2") ≠ "" := by decide
    have priority : phoneProcessor.builtins.toInt (.int 1) = .ok 1 := rfl
    exact ⟨id, some', ⟨1, priority, by decide⟩,
      ⟨rfl, rfl, Or.inl rfl, fun _ same => by cases same⟩⟩
  projects _ nothing := absurd nothing List.not_mem_nil
  sections _ nothing := absurd nothing List.not_mem_nil
  fresh _ nothing := absurd nothing List.not_mem_nil

/-- The two silver layers agree on a task without personal data. -/
theorem agree_read : Agree phoneProcessor (deliveryOf "Read") ⟨.empty, []⟩ ⟨[], []⟩ := by
  have settled : Settled phoneProcessor.builtins (deliveryOf "Read").tasks := by
    constructor
    · intro record inside
      cases List.mem_singleton.mp inside
      decide +kernel
    · intro one first other second _
      cases List.mem_singleton.mp first
      cases List.mem_singleton.mp second
      exact ⟨rfl, rfl⟩
  exact (agree_iff_settled phoneProcessor (deliveryOf "Read") ⟨.empty, []⟩ ⟨[], []⟩
    (wellFormed_deliveryOf (by decide))).mpr settled

/-- The number is masked. -/
theorem clean_number : phoneProcessor.builtins.pii.clean "Call +1 555-123-4567 now please" =
    "Call [PHONE_INTL] now please" := by
  have found : Security.PiiDetector.phoneDetector.detect Security.PiiDetector.callMe =
    [⟨"phone_intl", "+1 555-123-4567".toList, 5, 20⟩] := rfl
  have masked : Security.PiiDetector.phoneDetector.mask Security.PiiDetector.callMe =
      "Call [PHONE_INTL] now please".toList := by
    unfold Security.PiiDetector.mask
    rw [found, List.mergeSort_singleton]
    decide +kernel
  have has : Security.PiiDetector.phoneDetector.hasPii Security.PiiDetector.callMe = true := rfl
  unfold Security.PiiDetector.clean
  change (if Security.PiiDetector.phoneDetector.hasPii Security.PiiDetector.callMe = true then
    String.ofList (Security.PiiDetector.phoneDetector.mask Security.PiiDetector.callMe)
    else _) = _
  rw [if_pos has, masked, String.ofList_toList]

/-- The two silver layers do not agree on a task with a phone number. -/
theorem number_kept : WellFormedDelivery phoneProcessor.builtins
      (deliveryOf "Call +1 555-123-4567 now please") ⟨[], []⟩ ∧
    ¬ Agree phoneProcessor (deliveryOf "Call +1 555-123-4567 now please") ⟨.empty, []⟩
      ⟨[], []⟩ := by
  have wellFormed := @wellFormed_deliveryOf "Call +1 555-123-4567 now please" (by decide)
  refine ⟨wellFormed, fun agree => ?_⟩
  obtain ⟨batch, same⟩ := @agree_iff_perm phoneProcessor _ ⟨.empty, []⟩ _ wellFormed
  have settled := perm_facts_iff.mp (same.mp agree)
  have kept := settled.clean [("id", .str "2"), ("content", .str "Call +1 555-123-4567 now please")]
    List.mem_cons_self
  have read : Dict.getD [("id", .str "2"), ("content", .str "Call +1 555-123-4567 now please")]
    "content" (.str "") = .str "Call +1 555-123-4567 now please" := rfl
  unfold SilverLayer.cleanText content at kept
  have whole : cut 2000 (phoneProcessor.builtins.text (.str "Call +1 555-123-4567 now please")) =
    "Call +1 555-123-4567 now please" := by decide +kernel
  rw [read, whole, clean_number] at kept
  exact absurd kept (by decide +kernel)

end Sample

end VelaFlow.Engine
