import VelaFlow.Pipeline.Records

/-!
# Malformed records in the silver layer

A record whose fields have other types than the layer reads is not dropped: where one of them
cannot be parsed, the whole batch fails. So a batch returns exactly when each project and section
has a key and each task that is kept can be built. And what it returns for the well-formed tasks
is what it would return without the others exactly when these take no identifier and no name from
them.
-/
namespace VelaFlow.Pipeline

open Planner

/-- A batch of raw tasks, projects and sections. -/
def batch (tasks projects sections : List Dict) : Dict :=
  [("data", .obj [("tasks", .arr (tasks.map .obj)), ("projects", .arr (projects.map .obj)),
    ("sections", .arr (sections.map .obj))])]

/-- A project or a section has an id that can be a key. -/
def Named (record : Dict) : Prop := ∃ id, record.get? "id" = some id ∧ hashable id = true

/-- The names of projects or sections, later ones first. -/
def namesOf (records : List Dict) : NameMap :=
  records.reverse.map fun record => (record.getD "id" .null, record.getD "name" (.str ""))

/-- A value that a parser of dates takes: a text, or nothing. -/
def IsText (value : Json) : Prop := value.truthy = false ∨ ∃ text, value = .str text

/-- A due object that can be parsed, or nothing. -/
def DueParses (value : Json) : Prop :=
  value.truthy = false ∨ ∃ due : Dict, value = .obj due ∧ IsText (due.getD "date" .null) ∧
    IsText (due.getD "datetime" .null)

/-- A duration that can be parsed: only in an object an amount that is no number fails. -/
def DurationParses (layer : SilverLayer) (value : Json) : Prop :=
  ∀ members : Dict, value = .obj members → members.getD "amount" .null = .null ∨
    ∃ minutes, layer.toInt (members.getD "amount" .null) = .ok minutes

/-- A raw task that can be built. -/
structure Buildable (layer : SilverLayer) (raw : Dict) : Prop where
  /-- The project can be looked up. -/
  project : hashable (raw.getD "project_id" (.str "")) = true
  /-- The section can be looked up. -/
  sectionKey : hashable (raw.getD "section_id" (.str "")) = true
  /-- The due object can be parsed. -/
  due : DueParses (raw.getD "due" .null)
  /-- The duration can be parsed. -/
  duration : DurationParses layer (raw.getD "duration" .null)

section Building

variable {layer : SilverLayer}

/-- Names are looked up by what can be a key. -/
theorem lookupName_ok_iff {names : NameMap} {key : Json} :
    (∃ name, lookupName names key = .ok name) ↔ hashable key = true := by
  unfold lookupName
  by_cases known : hashable key = true
  · simp [known]
  · simp [known]

/-- Which texts `_parse_date` takes. -/
theorem parseDate_ok_iff {value : Json} :
    (∃ date, layer.parseDate value = .ok date) ↔ IsText value := by
  unfold SilverLayer.parseDate IsText
  by_cases some' : value.truthy = true
  · rw [if_pos some']
    cases value <;> simp [some']
  · simp [some']

/-- Which texts `_parse_datetime` takes. -/
theorem parseDatetime_ok_iff {value : Json} :
    (∃ time, layer.parseDatetime value = .ok time) ↔ IsText value := by
  unfold SilverLayer.parseDatetime IsText
  by_cases some' : value.truthy = true
  · rw [if_pos some']
    cases value <;> simp [some']
  · simp [some']

/-- Which due objects are parsed. -/
theorem parseDue_ok_iff {value : Json} :
    (∃ due, layer.parseDue value = .ok due) ↔ DueParses value := by
  by_cases some' : value.truthy = true
  · unfold SilverLayer.parseDue DueParses
    rw [if_pos some']
    constructor
    · rintro ⟨due, parsed⟩
      obtain ⟨members, is, parsed⟩ := bind_ok_iff.mp parsed
      obtain ⟨date, first, parsed⟩ := bind_ok_iff.mp parsed
      obtain ⟨time, second, -⟩ := bind_ok_iff.mp parsed
      cases value with
      | obj known =>
        cases is
        exact Or.inr ⟨_, rfl, parseDate_ok_iff.mp ⟨date, first⟩, parseDatetime_ok_iff.mp ⟨time, second⟩⟩
      | _ => cases is
    · rintro (none' | ⟨members, rfl, first, second⟩)
      · rw [some'] at none'
        cases none'
      · obtain ⟨date, isDate⟩ := (@parseDate_ok_iff layer _).mpr first
        obtain ⟨time, isTime⟩ := (@parseDatetime_ok_iff layer _).mpr second
        exact ⟨_, bind_ok_iff.mpr ⟨members, rfl, bind_ok_iff.mpr ⟨date, isDate, bind_ok_iff.mpr
          ⟨time, isTime, rfl⟩⟩⟩⟩
  · have none' : value.truthy = false := by simpa using some'
    refine iff_of_true ⟨{}, ?_⟩ (Or.inl none')
    unfold SilverLayer.parseDue
    rw [if_neg some']
    rfl

/-- Which durations are parsed. -/
theorem parseDuration_ok_iff {value : Json} :
    (∃ minutes, layer.parseDuration value = .ok minutes) ↔ DurationParses layer value := by
  unfold DurationParses
  cases value with
  | obj members =>
    have amounts : (∃ minutes, layer.parseDuration (.obj members) = .ok minutes) ↔
        (Dict.getD members "amount" .null = .null ∨
          ∃ minutes, layer.toInt (Dict.getD members "amount" .null) = .ok minutes) := by
      simp only [SilverLayer.parseDuration]
      constructor
      · rintro ⟨minutes, parsed⟩
        split at parsed
        · rename_i is
          exact Or.inl is
        · obtain ⟨amount, is, -⟩ := bind_ok_iff.mp parsed
          exact Or.inr ⟨amount, is⟩
      · intro known
        split
        · exact ⟨none, rfl⟩
        · rename_i other
          obtain ⟨amount, is⟩ := known.resolve_left other
          simp only [is, bind, Except.bind]
          split
          · exact ⟨_, rfl⟩
          · exact ⟨_, rfl⟩
    rw [amounts]
    constructor
    · rintro parses _ same
      cases same
      exact parses
    · exact fun parses => parses members rfl
  | null => exact iff_of_true ⟨none, rfl⟩ fun _ same => by cases same
  | bool value => exact iff_of_true ⟨_, rfl⟩ fun _ same => by cases same
  | int value => exact iff_of_true ⟨_, rfl⟩ fun _ same => by cases same
  | float value => exact iff_of_true ⟨_, rfl⟩ fun _ same => by cases same
  | str value => exact iff_of_true ⟨_, rfl⟩ fun _ same => by cases same
  | arr value => exact iff_of_true ⟨_, rfl⟩ fun _ same => by cases same

/-- Which raw tasks are built. -/
theorem buildTask_ok_iff {projects sections : NameMap} {raw : Dict} :
    (∃ task, layer.buildTask projects sections raw = .ok task) ↔ Buildable layer raw := by
  unfold SilverLayer.buildTask
  constructor
  · rintro ⟨task, built⟩
    obtain ⟨project, isProject, built⟩ := bind_ok_iff.mp built
    obtain ⟨title, isSection, built⟩ := bind_ok_iff.mp built
    obtain ⟨due, isDue, built⟩ := bind_ok_iff.mp built
    obtain ⟨minutes, isDuration, -⟩ := bind_ok_iff.mp built
    exact ⟨lookupName_ok_iff.mp ⟨project, isProject⟩, lookupName_ok_iff.mp ⟨title, isSection⟩,
      parseDue_ok_iff.mp ⟨due, isDue⟩, parseDuration_ok_iff.mp ⟨minutes, isDuration⟩⟩
  · intro buildable
    obtain ⟨project, isProject⟩ := (@lookupName_ok_iff projects _).mpr buildable.project
    obtain ⟨title, isSection⟩ := (@lookupName_ok_iff sections _).mpr buildable.sectionKey
    obtain ⟨due, isDue⟩ := (@parseDue_ok_iff layer _).mpr buildable.due
    obtain ⟨minutes, isDuration⟩ := (@parseDuration_ok_iff layer _).mpr buildable.duration
    exact ⟨_, bind_ok_iff.mpr ⟨project, isProject, bind_ok_iff.mpr ⟨title, isSection,
      bind_ok_iff.mpr ⟨due, isDue, bind_ok_iff.mpr ⟨minutes, isDuration, rfl⟩⟩⟩⟩⟩

/-- A task has the names of its project and its section. -/
theorem names_buildTask {projects sections : NameMap} {raw : Dict} {task : Task}
    (built : layer.buildTask projects sections raw = .ok task) :
    lookupName projects (raw.getD "project_id" (.str "")) = .ok task.projectName ∧
      lookupName sections (raw.getD "section_id" (.str "")) = .ok task.sectionName := by
  unfold SilverLayer.buildTask at built
  obtain ⟨project, isProject, built⟩ := bind_ok_iff.mp built
  obtain ⟨title, isSection, built⟩ := bind_ok_iff.mp built
  obtain ⟨_, -, built⟩ := bind_ok_iff.mp built
  obtain ⟨_, -, built⟩ := bind_ok_iff.mp built
  cases built
  exact ⟨isProject, isSection⟩

/-- A task that can be built is the same under other names exactly when its project and its section
are called the same. -/
theorem buildTask_eq_iff {projects sections others titles : NameMap} {raw : Dict}
    (buildable : Buildable layer raw) :
    layer.buildTask projects sections raw = layer.buildTask others titles raw ↔
      lookupName projects (raw.getD "project_id" (.str "")) =
          lookupName others (raw.getD "project_id" (.str "")) ∧
        lookupName sections (raw.getD "section_id" (.str "")) =
          lookupName titles (raw.getD "section_id" (.str "")) := by
  constructor
  · intro same
    obtain ⟨task, built⟩ := (@buildTask_ok_iff layer projects sections raw).mpr buildable
    have one := names_buildTask built
    have other := names_buildTask (same ▸ built)
    exact ⟨one.1.trans other.1.symm, one.2.trans other.2.symm⟩
  · rintro ⟨project, title⟩
    unfold SilverLayer.buildTask
    rw [project, title]

end Building

section Lists

variable {α β : Type} {function other : α → Except PyException β}

/-- The results of some of the elements. -/
theorem mapM_filter {items : List α} {results : List β} (keep : α → Bool)
    (mapped : items.mapM function = .ok results) :
    (items.filter keep).mapM function =
      .ok (((items.zip results).filter fun pair => keep pair.1).map Prod.snd) := by
  induction items generalizing results with
  | nil => rfl
  | cons item rest ih =>
    obtain ⟨one, more, isOne, areMore, rfl⟩ := mapM_cons_ok_iff.mp mapped
    rw [List.zip_cons_cons]
    by_cases kept : keep item = true
    · rw [List.filter_cons_of_pos kept, List.filter_cons_of_pos (by exact kept), List.map_cons,
        mapM_cons_ok_iff]
      exact ⟨one, _, isOne, ih areMore, rfl⟩
    · rw [List.filter_cons_of_neg kept, List.filter_cons_of_neg (by exact kept)]
      exact ih areMore

/-- A list is mapped to the same in two ways exactly when each of its elements is. -/
theorem mapM_eq_ok_iff {items : List α} {results : List β}
    (mapped : items.mapM function = .ok results) :
    items.mapM other = .ok results ↔ ∀ item ∈ items, function item = other item := by
  induction items generalizing results with
  | nil =>
    cases mapped
    exact iff_of_true rfl fun _ nothing => absurd nothing List.not_mem_nil
  | cons item rest ih =>
    obtain ⟨one, more, isOne, areMore, rfl⟩ := mapM_cons_ok_iff.mp mapped
    rw [mapM_cons_ok_iff, List.forall_mem_cons, ← ih areMore, isOne]
    constructor
    · rintro ⟨_, _, first, later, same⟩
      cases same
      exact ⟨first.symm, later⟩
    · rintro ⟨first, later⟩
      exact ⟨one, more, first.symm, later, rfl⟩

end Lists

section Batches

variable {layer : SilverLayer} {tasks projects sections : List Dict}

/-- The raw tasks that are kept of a list of objects. -/
def kept (layer : SilverLayer) (tasks : List Dict) : List Dict :=
  firstBy layer.taskId (tasks.filter (hasFields ["id", "content"])) []

/-- The valid records among objects. -/
theorem validRecords_objects (required : List String) (records : List Dict) :
    validRecords required (records.map .obj) = records.filter (hasFields required) := by
  induction records with
  | nil => rfl
  | cons record rest ih =>
    rw [List.map_cons, validRecords, ih]
    by_cases fields : hasFields required record = true
    · rw [if_pos fields, List.filter_cons_of_pos fields]
    · rw [if_neg fields, List.filter_cons_of_neg fields]

/-- Objects are objects. -/
theorem areObjects_map (records : List Dict) : AreObjects (records.map .obj) := by
  intro item inside
  obtain ⟨record, -, is⟩ := List.mem_map.mp inside
  exact ⟨record, is.symm⟩

/-- Projects or sections are named when each has a key. -/
theorem nameMap_ok_iff {records : List Dict} {names result : NameMap} :
    nameMap (records.map .obj) names = .ok result ↔
      (∀ record ∈ records, Named record) ∧ result = namesOf records ++ names := by
  induction records generalizing names with
  | nil =>
    constructor
    · intro done
      cases done
      exact ⟨fun _ nothing => absurd nothing List.not_mem_nil, rfl⟩
    · rintro ⟨-, rfl⟩
      rfl
  | cons record rest ih =>
    have split : namesOf (record :: rest) ++ names =
        namesOf rest ++ (record.getD "id" .null, record.getD "name" (.str "")) :: names := by
      unfold namesOf
      rw [List.reverse_cons, List.map_append, List.append_assoc]
      rfl
    rw [split, List.forall_mem_cons, List.map_cons, nameMap]
    cases found : record.get? "id" with
    | none =>
      have missing : subscriptId (.obj record) = .error (.keyError "id") := by
        simp only [subscriptId, found]
      rw [missing]
      refine iff_of_false (fun done => by cases done) ?_
      rintro ⟨⟨⟨id, is, -⟩, -⟩, -⟩
      rw [found] at is
      cases is
    | some id =>
      have there : subscriptId (.obj record) = .ok id := by simp only [subscriptId, found]
      have first : record.getD "id" .null = id := by simp only [Dict.getD, found, Option.getD_some]
      have named : Named record ↔ hashable id = true := by
        unfold Named
        rw [found]
        simp only [Option.some.injEq, exists_eq_left']
      rw [named, first, bind_ok_iff]
      simp only [there, Except.ok.injEq, exists_eq_left', asDict, bind_ok_iff]
      by_cases known : hashable id = true
      · rw [if_pos known, ih]
        simp only [known, true_and]
      · rw [if_neg known]
        simp only [known, Bool.false_eq_true, false_and, reduceCtorEq]

/-- A batch returns when its projects and sections are named and the tasks that are kept can be
built. -/
theorem cleanTasks_batch_iff {made : List Task} :
    layer.cleanTasks (batch tasks projects sections) = .ok made ↔
      (∀ record ∈ projects, Named record) ∧ (∀ record ∈ sections, Named record) ∧
        (kept layer tasks).mapM (layer.buildTask (namesOf projects) (namesOf sections)) =
          .ok made := by
  have objects := areObjects_map tasks
  have same : keptTasks layer (tasks.map .obj) = kept layer tasks := by
    unfold keptTasks kept
    rw [validRecords_objects]
  have items : rawItems (batch tasks projects sections) "tasks" = .ok (tasks.map .obj) ∧
      rawItems (batch tasks projects sections) "projects" = .ok (projects.map .obj) ∧
      rawItems (batch tasks projects sections) "sections" = .ok (sections.map .obj) :=
    ⟨rfl, rfl, rfl⟩
  rw [cleanTasks_ok_iff, items.1, items.2.1, items.2.2]
  constructor
  · rintro ⟨_, names, _, titles, _, one, named, other, titled, third, -, built⟩
    cases one
    cases other
    cases third
    obtain ⟨first, rfl⟩ := nameMap_ok_iff.mp named
    obtain ⟨second, rfl⟩ := nameMap_ok_iff.mp titled
    rw [same, List.append_nil, List.append_nil] at built
    exact ⟨first, second, built⟩
  · rintro ⟨first, second, built⟩
    have named := (@nameMap_ok_iff projects [] _).mpr ⟨first, rfl⟩
    have titled := (@nameMap_ok_iff sections [] _).mpr ⟨second, rfl⟩
    refine ⟨_, _, _, _, _, rfl, named, rfl, titled, rfl, objects, ?_⟩
    rw [same, List.append_nil, List.append_nil]
    exact built

/-- What counts as a well-formed task, and as a well-formed project or section: only records that
the layer can build or name. -/
structure Schema (layer : SilverLayer) where
  /-- The well-formed tasks. -/
  task : Dict → Bool
  /-- The well-formed projects and sections. -/
  name : Dict → Bool
  /-- A well-formed task has the required fields. -/
  required : ∀ {record}, task record = true → hasFields ["id", "content"] record = true
  /-- It can be built. -/
  buildable : ∀ {record}, task record = true → Buildable layer record
  /-- A well-formed project or section has a key. -/
  named : ∀ {record}, name record = true → Named record

/-- The layer tolerates malformed records: it returns, and what it returns for the well-formed tasks
is what it returns without the malformed records. -/
def Tolerant (layer : SilverLayer) (schema : Schema layer) (tasks projects sections : List Dict) :
    Prop :=
  ∃ made clean, layer.cleanTasks (batch tasks projects sections) = .ok made ∧
    layer.cleanTasks (batch (tasks.filter schema.task) (projects.filter schema.name)
      (sections.filter schema.name)) = .ok clean ∧
    (((kept layer tasks).zip made).filter fun pair => schema.task pair.1).map Prod.snd = clean

/-- The malformed records do no harm. -/
structure Unharmed (layer : SilverLayer) (schema : Schema layer)
    (tasks projects sections : List Dict) : Prop where
  /-- Each project has a key. -/
  projectKeys : ∀ record ∈ projects, Named record
  /-- Each section has a key. -/
  sectionKeys : ∀ record ∈ sections, Named record
  /-- Each task that is kept can be built. -/
  buildable : ∀ record ∈ kept layer tasks, Buildable layer record
  /-- No malformed task is kept in the place of a well-formed one. -/
  identifiers : ∀ record ∈ kept layer tasks, schema.task record = false → ∀ other ∈ tasks,
    schema.task other = true → layer.taskId other ≠ layer.taskId record
  /-- No malformed project or section gives a name to a well-formed task. -/
  names : ∀ record ∈ kept layer tasks, schema.task record = true →
    lookupName (namesOf projects) (record.getD "project_id" (.str "")) =
        lookupName (namesOf (projects.filter schema.name)) (record.getD "project_id" (.str "")) ∧
      lookupName (namesOf sections) (record.getD "section_id" (.str "")) =
        lookupName (namesOf (sections.filter schema.name)) (record.getD "section_id" (.str ""))

/-- The well-formed tasks that are kept without the others are those of the kept ones exactly when
no malformed one is kept in their place. -/
theorem kept_filter_iff (schema : Schema layer) :
    ((kept layer tasks).filter schema.task).map layer.taskId =
        (kept layer (tasks.filter schema.task)).map layer.taskId ↔
      ∀ record ∈ kept layer tasks, schema.task record = false → ∀ other ∈ tasks,
        schema.task other = true → layer.taskId other ≠ layer.taskId record := by
  have order : (tasks.filter schema.task).filter (hasFields ["id", "content"]) =
      (tasks.filter (hasFields ["id", "content"])).filter schema.task := List.filter_comm _ _ _
  unfold kept
  rw [order, filter_firstBy_iff]
  constructor
  · intro apart record first dropped other inside well
    exact apart record first dropped other (List.mem_filter.mpr ⟨inside, schema.required well⟩) well
  · intro apart record first dropped other inside well
    exact apart record first dropped other (List.mem_filter.mp inside).1 well

/-- Then these are the same tasks. -/
theorem kept_filter_eq {schema : Schema layer}
    (apart : ∀ record ∈ kept layer tasks, schema.task record = false → ∀ other ∈ tasks,
      schema.task other = true → layer.taskId other ≠ layer.taskId record) :
    (kept layer tasks).filter schema.task = kept layer (tasks.filter schema.task) := by
  have order : (tasks.filter schema.task).filter (hasFields ["id", "content"]) =
      (tasks.filter (hasFields ["id", "content"])).filter schema.task := List.filter_comm _ _ _
  unfold kept
  rw [order]
  apply filter_firstBy _ _ _ _ _ fun _ _ _ => Iff.rfl
  intro record first dropped other inside well
  exact apart record first dropped other (List.mem_filter.mp inside).1 well

/-- Without the malformed records a batch returns. -/
theorem clean_returns (schema : Schema layer) (tasks projects sections : List Dict) :
    ∃ clean, layer.cleanTasks (batch (tasks.filter schema.task) (projects.filter schema.name)
      (sections.filter schema.name)) = .ok clean := by
  have named : ∀ records : List Dict, ∀ record ∈ records.filter schema.name, Named record :=
    fun records record inside => schema.named (List.mem_filter.mp inside).2
  have built : ∀ record ∈ kept layer (tasks.filter schema.task), Buildable layer record := by
    intro record inside
    have member := (List.mem_filter.mp (mem_of_mem_firstBy _ inside)).1
    exact schema.buildable (List.mem_filter.mp member).2
  obtain ⟨clean, mapped⟩ := mapM_ok_exists_iff.mpr fun record inside =>
    (@buildTask_ok_iff layer (namesOf (projects.filter schema.name))
      (namesOf (sections.filter schema.name)) record).mpr (built record inside)
  exact ⟨clean, cleanTasks_batch_iff.mpr ⟨named projects, named sections, mapped⟩⟩

end Batches

/-- The silver layer tolerates malformed records exactly when they do no harm. -/
theorem tolerant_iff_unharmed (layer : SilverLayer) (schema : Schema layer)
    (tasks projects sections : List Dict) :
    Tolerant layer schema tasks projects sections ↔
      Unharmed layer schema tasks projects sections := by
  constructor
  · rintro ⟨made, clean, returned, cleaned, same⟩
    obtain ⟨projectKeys, sectionKeys, built⟩ := cleanTasks_batch_iff.mp returned
    obtain ⟨-, -, cleanBuilt⟩ := cleanTasks_batch_iff.mp cleaned
    have wellBuilt := mapM_filter schema.task built
    rw [same] at wellBuilt
    have identifiers := (kept_filter_iff schema).mp
      ((ids_buildTasks wellBuilt).symm.trans (ids_buildTasks cleanBuilt))
    have buildable : ∀ record ∈ kept layer tasks, Buildable layer record := fun record inside =>
      buildTask_ok_iff.mp (mapM_ok_exists_iff.mp ⟨made, built⟩ record inside)
    rw [← kept_filter_eq identifiers] at cleanBuilt
    have level := (mapM_eq_ok_iff wellBuilt).mp cleanBuilt
    refine ⟨projectKeys, sectionKeys, buildable, identifiers, fun record inside well => ?_⟩
    exact (buildTask_eq_iff (buildable record inside)).mp
      (level record (List.mem_filter.mpr ⟨inside, well⟩))
  · intro unharmed
    obtain ⟨clean, cleaned⟩ := clean_returns schema tasks projects sections
    obtain ⟨-, -, cleanBuilt⟩ := cleanTasks_batch_iff.mp cleaned
    obtain ⟨made, built⟩ := mapM_ok_exists_iff.mpr fun record inside =>
      (@buildTask_ok_iff layer (namesOf projects) (namesOf sections) record).mpr
        (unharmed.buildable record inside)
    have returned := cleanTasks_batch_iff.mpr ⟨unharmed.projectKeys, unharmed.sectionKeys, built⟩
    refine ⟨made, clean, returned, cleaned, ?_⟩
    have wellBuilt := mapM_filter schema.task built
    rw [← kept_filter_eq unharmed.identifiers] at cleanBuilt
    have level := (mapM_eq_ok_iff wellBuilt).mpr fun record inside => by
      have parts := List.mem_filter.mp inside
      exact (buildTask_eq_iff (unharmed.buildable record parts.1)).mpr
        (unharmed.names record parts.1 parts.2)
    rw [level] at cleanBuilt
    exact Except.ok.inj cleanBuilt

section Typed

/-- A text, or nothing. -/
def textual : Json → Bool
  | .null | .str _ => true
  | _ => false

/-- A text. -/
def isStr : Json → Bool
  | .str _ => true
  | _ => false

/-- A due object with texts for its dates, or nothing. -/
def typedDue : Json → Bool
  | .null => true
  | .obj due => textual (Dict.getD due "date" .null) && textual (Dict.getD due "datetime" .null)
  | _ => false

/-- An integer. -/
def isInt : Json → Bool
  | .int _ => true
  | _ => false

/-- A duration with an integer for its amount, or nothing. -/
def typedDuration : Json → Bool
  | .null => true
  | .obj duration => isInt (Dict.getD duration "amount" .null)
  | _ => false

/-- A task with the types that the API sends. -/
def typedTask (record : Dict) : Bool :=
  hasFields ["id", "content"] record && textual (record.getD "project_id" (.str "")) &&
    textual (record.getD "section_id" (.str "")) && typedDue (record.getD "due" .null) &&
    typedDuration (record.getD "duration" .null)

/-- A project or a section with the types that the API sends. -/
def typedName (record : Dict) : Bool := isStr (record.getD "id" .null)

/-- Texts and nothing are parsed. -/
theorem isText_of_textual {value : Json} (typed : textual value = true) : IsText value := by
  cases value with
  | null => exact Or.inl rfl
  | str text => exact Or.inr ⟨text, rfl⟩
  | _ => cases typed

/-- Texts and nothing can be keys. -/
theorem hashable_of_textual {value : Json} (typed : textual value = true) :
    hashable value = true := by
  cases value with
  | null => rfl
  | str text => rfl
  | _ => cases typed

/-- Tasks with the types of the API have the required fields. -/
theorem hasFields_of_typed {record : Dict} (typed : typedTask record = true) :
    hasFields ["id", "content"] record = true := by
  unfold typedTask at typed
  simp only [Bool.and_eq_true] at typed
  exact typed.1.1.1.1

/-- Tasks with the types of the API can be built. -/
theorem buildable_of_typed (layer : SilverLayer) {record : Dict} (typed : typedTask record = true) :
    Buildable layer record := by
  unfold typedTask at typed
  simp only [Bool.and_eq_true] at typed
  obtain ⟨⟨⟨⟨-, project⟩, title⟩, due⟩, duration⟩ := typed
  refine ⟨hashable_of_textual project, hashable_of_textual title, ?_, ?_⟩
  · cases is : record.getD "due" .null with
    | null => exact Or.inl rfl
    | obj members =>
      rw [is] at due
      have parts := Bool.and_eq_true_iff.mp due
      exact Or.inr ⟨members, rfl, isText_of_textual parts.1, isText_of_textual parts.2⟩
    | _ =>
      rw [is] at due
      cases due
  · intro members is
    rw [is] at duration
    have counted : isInt (members.getD "amount" .null) = true := duration
    cases amount : members.getD "amount" .null with
    | int value => exact Or.inr ⟨value, rfl⟩
    | _ =>
      rw [amount] at counted
      cases counted

/-- Projects and sections with the types of the API are named. -/
theorem named_of_typed {record : Dict} (typed : typedName record = true) : Named record := by
  unfold typedName at typed
  cases found : record.get? "id" with
  | none =>
    rw [Dict.getD, found] at typed
    cases typed
  | some id =>
    rw [Dict.getD, found, Option.getD_some] at typed
    cases id with
    | str text => exact ⟨_, found, rfl⟩
    | _ => cases typed

/-- The types that the API sends. -/
def apiTypes (layer : SilverLayer) : Schema layer where
  task := typedTask
  name := typedName
  required := hasFields_of_typed
  buildable := buildable_of_typed layer
  named := named_of_typed

/-- A task whose due date is a text. -/
def dueTomorrow : Dict :=
  [("id", .str "1"), ("content", .str "Write"), ("due", .str "tomorrow")]

/-- A task of the required fields. -/
def plainTask : Dict := [("id", .str "2"), ("content", .str "Read")]

/-- A layer over a library that parses nothing, without patterns. -/
def plainLayer : SilverLayer where
  library :=
    { repr _ := ""
      lower := id
      parseInt _ := none
      dateFromIsoformat _ := none
      datetimeFromIsoformat _ := none
      sha256 := id }
  pii := ⟨[]⟩

/-- The silver layer does not return when the due date of a task is a text. -/
theorem batch_fails :
    ¬ Tolerant plainLayer (apiTypes plainLayer) [dueTomorrow, plainTask] [] [] := by
  rintro ⟨made, clean, returned, -⟩
  obtain ⟨-, -, built⟩ := cleanTasks_batch_iff.mp returned
  have first : dueTomorrow ∈ kept plainLayer [dueTomorrow, plainTask] := List.mem_cons_self
  obtain ⟨task, isTask⟩ := mapM_ok_exists_iff.mp ⟨made, built⟩ dueTomorrow first
  have buildable := buildTask_ok_iff.mp ⟨task, isTask⟩
  rcases buildable.due with nothing | ⟨due, is, -⟩
  · exact absurd nothing (by decide)
  · cases is

end Typed

end VelaFlow.Pipeline
