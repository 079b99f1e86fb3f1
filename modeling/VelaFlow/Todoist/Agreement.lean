import VelaFlow.Pipeline.Records
import VelaFlow.Todoist.Parsing

/-!
# The two parsers of a Todoist task

The client and the silver layer read the same tasks of the API. They agree on the days, the
recurrence and the priority of all of them, but not on due times, on hours and days of durations,
nor on a section that is missing.
-/
namespace VelaFlow.Todoist

open Planner Pipeline

/-- What the scoring takes of a task is the same. -/
structure Agree (task other : Task) : Prop where
  /-- `due_date`. -/
  dueDate : task.dueDate = other.dueDate
  /-- `due_has_time`. -/
  dueHasTime : task.dueHasTime = other.dueHasTime
  /-- `due_datetime`. -/
  dueDatetime : task.dueDatetime = other.dueDatetime
  /-- `duration_minutes`. -/
  durationMinutes : task.durationMinutes = other.durationMinutes
  /-- `project_id`. -/
  projectId : task.projectId = other.projectId
  /-- `project_name`. -/
  projectName : task.projectName = other.projectName
  /-- `section_id`. -/
  sectionId : task.sectionId = other.sectionId
  /-- `section_name`. -/
  sectionName : task.sectionName = other.sectionName
  /-- `is_recurring`. -/
  isRecurring : task.isRecurring = other.isRecurring
  /-- `priority`. -/
  priority : task.priority = other.priority

/-- A project or a section as JSON. -/
def nameRecord (record : RawName) : Json := .obj [("id", .str record.1), ("name", .str record.2)]

/-- A bronze batch of one task with the projects and sections. -/
def batchOf (raw : RawTask) (projects sections : List RawName) : Dict :=
  [("data", .obj [("tasks", .arr [.obj raw.toDict]), ("projects", .arr (projects.map nameRecord)),
    ("sections", .arr (sections.map nameRecord))])]

/-- What the two parsers read alike: a due day without a time, a duration in minutes or of nothing,
a section, and no name for what stands for a missing project or an empty section. -/
structure Alike (raw : RawTask) (projects sections : List RawName) : Prop where
  /-- The due date is a day. -/
  due : ∀ due ∈ raw.due, ∃ date, due.date = .day date
  /-- A duration is in minutes, or of nothing. -/
  duration : ∀ duration ∈ raw.duration, duration.unit = .minute ∨ duration.amount = 0
  /-- No project is called as the text of a missing one. -/
  project : raw.projectId = none → nameOf projects "None" = ""
  /-- There is a section, and the empty one has no name. -/
  sectionKey : ∃ id, raw.sectionId = some id ∧ (id = "" → nameOf sections "" = "")

section Parts

variable {library : ClientLibrary} {layer : SilverLayer}

/-- The names of a batch, later ones first. -/
theorem nameMap_records (records : List RawName) (names : NameMap) :
    nameMap (records.map nameRecord) names =
      .ok ((records.reverse.map fun record => (Json.str record.1, Json.str record.2)) ++ names) := by
  induction records generalizing names with
  | nil => rfl
  | cons record rest ih =>
    have step : nameMap (nameRecord record :: rest.map nameRecord) names =
        nameMap (rest.map nameRecord) ((.str record.1, .str record.2) :: names) := rfl
    rw [List.map_cons, step, ih, List.reverse_cons, List.map_append, List.append_assoc]
    rfl

/-- A name is looked up by an id. -/
theorem lookupName_records (records : List RawName) (id : String) :
    lookupName (records.reverse.map fun record => (Json.str record.1, Json.str record.2))
      (.str id) = .ok (.str (nameOf records id)) := by
  have known : hashable (.str id) = true := rfl
  unfold lookupName nameOf
  rw [if_pos known]
  congr 1
  induction records.reverse with
  | nil => rfl
  | cons record rest ih =>
    have level : sameKey (.str record.1) (.str id) = decide (record.1 = id) := rfl
    rw [List.map_cons, List.lookup_cons]
    by_cases same : record.1 = id
    · rw [List.find?_cons_of_pos (by rw [level]; exact decide_eq_true same), same,
        beq_self_eq_true]
      rfl
    · rw [List.find?_cons_of_neg (by rw [level]; simpa using same),
        beq_false_of_ne (Ne.symm same)]
      exact ih

/-- There is no name for a missing id. -/
theorem lookupName_null (records : List RawName) :
    lookupName (records.reverse.map fun record => (Json.str record.1, Json.str record.2)) .null =
      .ok (.str "") := by
  have known : hashable .null = true := rfl
  unfold lookupName
  rw [if_pos known]
  have none' : (records.reverse.map fun record => (Json.str record.1, Json.str record.2)).find?
      (fun entry => sameKey entry.1 .null) = none := by
    rw [List.find?_eq_none]
    intro entry inside
    obtain ⟨record, -, rfl⟩ := List.mem_map.mp inside
    simp [sameKey, Json.number?]
  rw [none']
  rfl

/-- The text of a day has ten characters. -/
theorem length_isoformat (date : Date) : date.isoformat.toList.length = 10 := by
  simp [Date.isoformat, Date.isoChars, digits]

/-- The day of a due date. -/
def RawDate.dayOf : RawDate → Date
  | day date => date
  | moment date _ => date

/-- The first ten characters of a due date are its day. -/
theorem cut_text (due : RawDate) : cut 10 due.text = due.dayOf.isoformat := by
  unfold cut
  cases due with
  | day date =>
    have long := length_isoformat date
    rw [RawDate.text, List.take_of_length_le long.le, String.ofList_toList]
    rfl
  | moment date time =>
    have long := length_isoformat date
    rw [RawDate.text, String.toList_append, String.toList_append, List.append_assoc,
      List.take_append_of_le_length long.ge, List.take_of_length_le long.le, String.ofList_toList]
    rfl

/-- The text of a due date is not empty. -/
theorem text_ne_empty (due : RawDate) : due.text ≠ "" := by
  intro empty
  have same := cut_text due
  have long := length_isoformat due.dayOf
  rw [← same, empty] at long
  exact absurd long (by decide)

/-- The silver layer reads the day of a due date, and nothing of its time. -/
theorem silver_parseDue (due : RawDue) :
    layer.parseDue (.obj due.toDict) = .ok
      { date := layer.library.dateFromIsoformat due.date.dayOf.isoformat
        isRecurring := due.isRecurring } := by
  have filled : (Json.str due.date.text).truthy = true := decide_eq_true (text_ne_empty due.date)
  have date : layer.parseDate (.str due.date.text) =
      .ok (layer.library.dateFromIsoformat due.date.dayOf.isoformat) := by
    unfold SilverLayer.parseDate
    rw [if_pos filled, ← cut_text]
  have known : due.toDict.getD "date" .null = .str due.date.text := rfl
  have untimed : due.toDict.getD "datetime" .null = .null := rfl
  have again : due.toDict.getD "is_recurring" (.bool false) = .bool due.isRecurring := rfl
  have some' : (Json.obj due.toDict).truthy = true := rfl
  unfold SilverLayer.parseDue
  rw [if_pos some']
  refine bind_ok_iff.mpr ⟨due.toDict, rfl, ?_⟩
  rw [known, untimed, again]
  exact bind_ok_iff.mpr ⟨_, date, bind_ok_iff.mpr ⟨none, rfl, rfl⟩⟩

/-- The silver layer reads hours as minutes, and days as days of twenty-four hours. -/
theorem silver_parseDuration (duration : RawDuration) :
    layer.parseDuration (.obj duration.toDict) =
      .ok (some (if duration.unit = .day then duration.amount * 1440 else duration.amount)) := by
  unfold RawDuration.toDict
  cases duration.unit with
  | minute => rfl
  | hour => rfl
  | day => rfl

/-- What the silver layer takes over of an optional due object. -/
def silverDue (library : TextLibrary) : Option RawDue → SilverLayer.Due
  | none => {}
  | some due =>
    { date := library.dateFromIsoformat due.date.dayOf.isoformat, isRecurring := due.isRecurring }

/-- The minutes that the silver layer makes of an optional duration. -/
def silverDuration : Option RawDuration → Option Int
  | none => none
  | some duration =>
    some (if duration.unit = .day then duration.amount * 1440 else duration.amount)

/-- The name that the silver layer gives an optional id. -/
def silverName (records : List RawName) : Option String → String
  | none => ""
  | some id => nameOf records id

/-- The name of an optional id. -/
theorem lookupName_optional (records : List RawName) (id : Option String) :
    lookupName (records.reverse.map fun record => (Json.str record.1, Json.str record.2))
      (optionalText id) = .ok (.str (silverName records id)) := by
  cases id with
  | none => exact lookupName_null records
  | some id => exact lookupName_records records id

/-- What the silver layer makes of a batch of one task. -/
theorem cleanTasks_batchOf {raw : RawTask} {projects sections : List RawName} {task : Task}
    (built : layer.buildTask
        (projects.reverse.map fun record => (Json.str record.1, Json.str record.2))
        (sections.reverse.map fun record => (Json.str record.1, Json.str record.2)) raw.toDict =
      .ok task) : layer.cleanTasks (batchOf raw projects sections) = .ok [task] := by
  have kept : keptTasks layer [.obj raw.toDict] = [raw.toDict] := rfl
  have objects : AreObjects [.obj raw.toDict] := by
    intro item inside
    rw [List.mem_singleton] at inside
    exact ⟨raw.toDict, inside⟩
  have named := nameMap_records projects []
  have titled := nameMap_records sections []
  rw [List.append_nil] at named titled
  refine cleanTasks_ok_iff.mpr ⟨_, _, _, _, _, rfl, named, rfl, titled, rfl, objects, ?_⟩
  rw [kept, mapM_cons_ok_iff]
  exact ⟨task, [], built, rfl, rfl⟩

/-- What the silver layer makes of a task. -/
theorem silver_buildTask (raw : RawTask) (projects sections : List RawName) :
    ∃ task, layer.buildTask
        (projects.reverse.map fun record => (Json.str record.1, Json.str record.2))
        (sections.reverse.map fun record => (Json.str record.1, Json.str record.2)) raw.toDict =
          .ok task ∧
      task.dueDate = (silverDue layer.library raw.due).date ∧ task.dueHasTime = false ∧
      task.dueDatetime = none ∧ task.durationMinutes = silverDuration raw.duration ∧
      task.projectId = layer.text (optionalText raw.projectId) ∧
      task.projectName = .str (silverName projects raw.projectId) ∧
      task.sectionId = layer.text (optionalText raw.sectionId) ∧
      task.sectionName = .str (silverName sections raw.sectionId) ∧
      task.isRecurring = (silverDue layer.library raw.due).isRecurring ∧
      task.priority = raw.priority := by
  have due : layer.parseDue (raw.toDict.getD "due" .null) =
      .ok (silverDue layer.library raw.due) := by
    have known : raw.toDict.getD "due" .null =
        (raw.due.map fun due => Json.obj due.toDict).getD .null := rfl
    rw [known]
    cases raw.due with
    | none => rfl
    | some due => exact silver_parseDue due
  have duration : layer.parseDuration (raw.toDict.getD "duration" .null) =
      .ok (silverDuration raw.duration) := by
    have known : raw.toDict.getD "duration" .null =
        (raw.duration.map fun duration => Json.obj duration.toDict).getD .null := rfl
    rw [known]
    cases raw.duration with
    | none => rfl
    | some duration => exact silver_parseDuration duration
  have project := lookupName_optional projects raw.projectId
  have titled := lookupName_optional sections raw.sectionId
  refine ⟨_, bind_ok_iff.mpr ⟨_, project, bind_ok_iff.mpr ⟨_, titled, bind_ok_iff.mpr
    ⟨_, due, bind_ok_iff.mpr ⟨_, duration, rfl⟩⟩⟩⟩, rfl, ?_, ?_, rfl, rfl, rfl, rfl, rfl, rfl, rfl⟩
  · cases raw.due <;> rfl
  · cases raw.due <;> rfl

end Parts

section Client

variable {library : ClientLibrary}

/-- A day is written without a `T`. -/
theorem isoformat_without_t (date : Date) : 'T' ∉ date.isoformat.toList := by
  have plain : ∀ width value, 'T' ∉ digits width value := by
    intro width value inside
    have digit := isDigit_of_mem_digits inside
    exact absurd digit (by decide)
  intro inside
  simp only [Date.isoformat, Date.isoChars, String.toList_ofList, List.mem_append, List.mem_cons,
    Char.reduceEq, false_or] at inside
  rcases inside with (year | month) | day
  · exact plain _ _ year
  · exact plain _ _ month
  · exact plain _ _ day

/-- What the client takes over of a due day. -/
theorem parseDue_day {due : RawDue} {date : Date} (is : due.date = .day date) :
    library.parseDue (some due) =
      { date := library.text.dateFromIsoformat date.isoformat, isRecurring := due.isRecurring } := by
  have plain : 'T' ∉ due.date.text.toList := by
    rw [is]
    exact isoformat_without_t date
  have filled := text_ne_empty due.date
  simp only [ClientLibrary.parseDue]
  rw [if_neg plain, if_pos filled, is]
  rfl

/-- The client takes over that a due date has a time. -/
theorem hasTime_moment {due : RawDue} {date : Date} {time : String}
    (is : due.date = .moment date time) : (library.parseDue (some due)).hasTime = true := by
  have marked : 'T' ∈ due.date.text.toList := by
    rw [is, RawDate.text]
    simp
  simp only [ClientLibrary.parseDue]
  rw [if_pos marked]

/-- The parsers agree on an optional due object without a time. -/
theorem parseDue_of_days {due : Option RawDue} (days : ∀ one ∈ due, ∃ date, one.date = .day date) :
    library.parseDue due = silverDue library.text due := by
  cases due with
  | none => rfl
  | some due =>
    obtain ⟨date, is⟩ := days due rfl
    rw [parseDue_day is]
    simp only [silverDue, is, RawDate.dayOf]

/-- A due object of which the client takes over no time has none. -/
theorem days_of_hasTime {due : Option RawDue} (untimed : (library.parseDue due).hasTime = false) :
    ∀ one ∈ due, ∃ date, one.date = .day date := by
  intro one is
  rw [Option.mem_def] at is
  rw [is] at untimed
  cases form : one.date with
  | day date => exact ⟨date, rfl⟩
  | moment date time =>
    rw [hasTime_moment form] at untimed
    cases untimed

/-- The parsers agree on an optional duration exactly when it is in minutes or of nothing. -/
theorem silverDuration_eq_iff (duration : Option RawDuration) :
    silverDuration duration = ClientLibrary.parseDuration duration ↔
      ∀ one ∈ duration, one.unit = .minute ∨ one.amount = 0 := by
  cases duration with
  | none => exact iff_of_true rfl fun _ nothing => by cases nothing
  | some duration =>
    simp only [Option.mem_def, Option.some.injEq, forall_eq', silverDuration,
      ClientLibrary.parseDuration]
    cases unit : duration.unit with
    | minute => simp
    | hour =>
      simp only [reduceCtorEq, if_false, Option.some.injEq, false_or]
      omega
    | day =>
      simp only [reduceCtorEq, if_true, Option.some.injEq, false_or]
      omega

end Client

section Sections

variable {library : ClientLibrary} {raw : RawTask} {projects sections : List RawName}

/-- The section that the client gives a task. -/
theorem client_sectionId : (library.parseTask raw projects sections).sectionId =
    if (optionalText raw.sectionId).truthy = true then library.idText raw.sectionId else "" := rfl

/-- The name that the client gives it. -/
theorem client_sectionName : (library.parseTask raw projects sections).sectionName =
    .str (if (optionalText raw.sectionId).truthy = true then
      nameOf sections (library.idText raw.sectionId) else "") := rfl

end Sections

/-- The two parsers agree on a task exactly when it has a due day without a time, a duration in
minutes or of nothing, a section, and no name for what stands for a missing project or an empty
section. -/
theorem agree_iff_alike (library : ClientLibrary) (pii : Security.PiiDetector)
    (noneText : library.text.repr .null = "None") (raw : RawTask)
    (projects sections : List RawName) :
    (∃ task, (SilverLayer.mk library.text pii).cleanTasks (batchOf raw projects sections) =
        .ok [task] ∧ Agree task (library.parseTask raw projects sections)) ↔
      Alike raw projects sections := by
  obtain ⟨made, built, dueDate, dueHasTime, dueDatetime, durationMinutes, projectId, projectName,
    sectionId, sectionName, isRecurring, priority⟩ :=
    @silver_buildTask (SilverLayer.mk library.text pii) raw projects sections
  have cleaned := cleanTasks_batchOf built
  have missing : ∀ id : Option String, (SilverLayer.mk library.text pii).text (optionalText id) =
      id.getD "None" := by
    intro id
    cases id with
    | none => exact noneText
    | some id => rfl
  have missing' : ∀ id : Option String, library.idText id = id.getD "None" := missing
  rw [missing] at projectId sectionId
  rw [cleaned]
  constructor
  · rintro ⟨task, same, agree⟩
    cases same
    refine ⟨?_, ?_, ?_, ?_⟩
    · exact days_of_hasTime (agree.dueHasTime.symm.trans dueHasTime)
    · exact (silverDuration_eq_iff raw.duration).mp (durationMinutes.symm.trans agree.durationMinutes)
    · intro none'
      have same := projectName.symm.trans agree.projectName
      have name : (library.parseTask raw projects sections).projectName =
          .str (nameOf projects (library.idText raw.projectId)) := rfl
      rw [name, missing', none'] at same
      exact (Json.str.inj same).symm
    · have ids := sectionId.symm.trans agree.sectionId
      have names := sectionName.symm.trans agree.sectionName
      rw [client_sectionId, missing'] at ids
      rw [client_sectionName, missing'] at names
      cases given : raw.sectionId with
      | none =>
        rw [given] at ids
        exact absurd ids (by decide)
      | some id =>
        refine ⟨id, rfl, fun empty => ?_⟩
        rw [given, empty] at names
        exact Json.str.inj names
  · intro alike
    have due := @parseDue_of_days library _ alike.due
    have duration := (silverDuration_eq_iff raw.duration).mpr alike.duration
    obtain ⟨id, given, unnamed⟩ := alike.sectionKey
    have untimed : (silverDue library.text raw.due).hasTime = false ∧
        (silverDue library.text raw.due).datetime = none := by
      cases raw.due <;> exact ⟨rfl, rfl⟩
    have client : (library.parseTask raw projects sections).dueDate =
          (library.parseDue raw.due).date ∧
        (library.parseTask raw projects sections).dueHasTime =
          (library.parseDue raw.due).hasTime ∧
        (library.parseTask raw projects sections).dueDatetime =
          (library.parseDue raw.due).datetime ∧
        (library.parseTask raw projects sections).isRecurring =
          (library.parseDue raw.due).isRecurring := ⟨rfl, rfl, rfl, rfl⟩
    rw [due] at client
    have filled : (optionalText raw.sectionId).truthy = decide (id ≠ "") := by
      rw [given]
      rfl
    have name : (library.parseTask raw projects sections).projectName =
        .str (nameOf projects (library.idText raw.projectId)) := rfl
    refine ⟨made, rfl, ?_⟩
    refine ⟨dueDate.trans client.1.symm, ?_, ?_, durationMinutes.trans duration, ?_, ?_, ?_, ?_,
      isRecurring.trans client.2.2.2.symm, priority⟩
    · rw [dueHasTime, client.2.1, untimed.1]
    · rw [dueDatetime, client.2.2.1, untimed.2]
    · rw [projectId]
      exact (missing' raw.projectId).symm
    · rw [projectName, name, missing']
      cases project : raw.projectId with
      | none => rw [Option.getD_none, alike.project project]; rfl
      | some id => rfl
    · rw [sectionId, client_sectionId, filled, missing', given, Option.getD_some]
      by_cases empty : id = ""
      · simp [empty]
      · simp [empty]
    · rw [sectionName, client_sectionName, filled, missing', given, Option.getD_some]
      by_cases empty : id = ""
      · have none' := unnamed empty
        simp [empty, silverName, none']
      · simp [empty, silverName]

section Sample

/-- The first day of a year. -/
def newYear : Date := ⟨2025, 1, 1, DateTime.valid_newYear⟩

/-- The client, on dates, durations and texts without markup. -/
def sampleClient : ClientLibrary where
  text :=
    { repr := fun _ => "None", lower := id, parseInt := fun _ => none,
      dateFromIsoformat := fun text => if text = "2025-01-01" then some newYear else none,
      datetimeFromIsoformat := fun _ => none, sha256 := id }
  patterns :=
    { stripScripts := id, stripEventHandlers := id, stripTags := id, promptInjection := [] }
  isWord := Char.isAlphanum

/-- The silver layer on texts without personal data. -/
def sampleSilver : SilverLayer := ⟨sampleClient.text, ⟨[]⟩⟩

/-- A task of an hour or of another unit. -/
def taskOf (unit : DurationUnit) : RawTask where
  id := "1"
  content := "Write"
  description := ""
  projectId := some "p"
  sectionId := some "s"
  priority := 4
  labels := []
  due := some ⟨.day newYear, false⟩
  duration := some ⟨1, unit⟩
  url := none
  parentId := none

/-- The parsers agree on a task of a minute. -/
theorem agree_minute :
    ∃ task, sampleSilver.cleanTasks (batchOf (taskOf .minute) [("p", "Home")] [("s", "Desk")]) =
        .ok [task] ∧
      Agree task (sampleClient.parseTask (taskOf .minute) [("p", "Home")] [("s", "Desk")]) :=
  (agree_iff_alike sampleClient ⟨[]⟩ rfl (taskOf .minute) [("p", "Home")] [("s", "Desk")]).mpr
    ⟨fun due is => ⟨newYear, by cases is; rfl⟩, fun duration is => Or.inl (by cases is; rfl),
      fun none' => (by cases none'), "s", rfl, fun empty => absurd empty (by decide)⟩

/-- The parsers do not agree on a task of an hour. -/
theorem disagree_hour :
    ¬ ∃ task, sampleSilver.cleanTasks (batchOf (taskOf .hour) [("p", "Home")] [("s", "Desk")]) =
        .ok [task] ∧
      Agree task (sampleClient.parseTask (taskOf .hour) [("p", "Home")] [("s", "Desk")]) := by
  rintro ⟨task, cleaned, agree⟩
  obtain ⟨made, built, -, -, -, duration, -⟩ :=
    @silver_buildTask sampleSilver (taskOf .hour) [("p", "Home")] [("s", "Desk")]
  rw [cleanTasks_batchOf built] at cleaned
  cases cleaned
  have minutes := duration.symm.trans agree.durationMinutes
  exact absurd minutes (by decide)

end Sample

end VelaFlow.Todoist
