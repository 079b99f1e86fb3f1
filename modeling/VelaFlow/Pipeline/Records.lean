import VelaFlow.Foundation.Firsts
import VelaFlow.Pipeline.Silver

/-!
# The records the silver layer keeps

The loop over raw records returns when each is an object and each record that is kept can be
built. It keeps the first record of each identity among those with the required fields, so the
tasks of a batch have different identifiers and are as many as these.
-/
namespace VelaFlow.Pipeline

open Planner

/-- Whether a record has the required fields. -/
def hasFields (required : List String) (record : Dict) : Bool :=
  required.all fun field => (record.get? field).isSome

/-- The records among raw values that have the required fields. -/
def validRecords (required : List String) : List Json → List Dict
  | [] => []
  | .obj record :: rest =>
    if hasFields required record then record :: validRecords required rest
    else validRecords required rest
  | _ :: rest => validRecords required rest

/-- A record is among the valid ones when it is an object of the list and has the fields. -/
theorem mem_validRecords {required : List String} {items : List Json} {record : Dict}
    (valid : record ∈ validRecords required items) :
    .obj record ∈ items ∧ hasFields required record = true := by
  induction items with
  | nil => cases valid
  | cons item rest ih =>
    cases item with
    | obj members =>
      rw [validRecords] at valid
      by_cases fields : hasFields required members = true
      · rw [if_pos fields] at valid
        cases List.mem_cons.mp valid with
        | inl same =>
          subst same
          exact ⟨List.mem_cons_self, fields⟩
        | inr later => exact ⟨List.mem_cons_of_mem _ (ih later).1, (ih later).2⟩
      · rw [if_neg fields] at valid
        exact ⟨List.mem_cons_of_mem _ (ih valid).1, (ih valid).2⟩
    | _ => exact ⟨List.mem_cons_of_mem _ (ih valid).1, (ih valid).2⟩

/-- Whether raw values are objects. -/
def AreObjects (items : List Json) : Prop := ∀ item ∈ items, ∃ record, item = .obj record

section Collect

variable {α : Type} {required : List String} {identity : Dict → String}
  {build : Dict → Except PyException α}

/-- What is built of records is as it should be exactly when its records are. -/
theorem forall_mapM_iff {β : Type} {function : β → Except PyException α} {ofItem : α → Prop}
    {ofRaw : β → Prop} {raws : List β} {items : List α}
    (each : ∀ raw ∈ raws, ∀ item, function raw = .ok item → (ofItem item ↔ ofRaw raw))
    (built : raws.mapM function = .ok items) :
    (∀ item ∈ items, ofItem item) ↔ ∀ raw ∈ raws, ofRaw raw := by
  induction raws generalizing items with
  | nil =>
    cases built
    exact iff_of_true (fun _ none => absurd none List.not_mem_nil)
      fun _ none => absurd none List.not_mem_nil
  | cons raw rest ih =>
    obtain ⟨item, more, isItem, areMore, rfl⟩ := mapM_cons_ok_iff.mp built
    rw [List.forall_mem_cons, List.forall_mem_cons, each raw List.mem_cons_self item isItem,
      ih (fun other inside => each other (List.mem_cons_of_mem _ inside)) areMore]

/-- The loop returns what is built of the kept records, when every raw value is an object. -/
theorem collect_ok_iff (items : List Json) (seen : List String) (results : List α) :
    collect required identity build items seen = .ok results ↔
      AreObjects items ∧
        (firstBy identity (validRecords required items) seen).mapM build = .ok results := by
  induction items generalizing seen results with
  | nil =>
    constructor
    · intro done
      cases done
      exact ⟨fun _ none => absurd none List.not_mem_nil, rfl⟩
    · rintro ⟨-, done⟩
      cases done
      rfl
  | cons item rest ih =>
    have objects : ∀ {record : Dict}, AreObjects (.obj record :: rest) ↔ AreObjects rest := by
      intro record
      constructor
      · exact fun all other member => all other (List.mem_cons_of_mem _ member)
      · intro all other member
        cases member with
        | head => exact ⟨record, rfl⟩
        | tail _ later => exact all other later
    cases item with
    | obj record =>
      rw [objects]
      by_cases fields : hasFields required record = true
      · have valid : validRecords required (.obj record :: rest) =
            record :: validRecords required rest := by
          rw [validRecords, if_pos fields]
        by_cases old : identity record ∈ seen
        · have step : collect required identity build (.obj record :: rest) seen =
              collect required identity build rest seen := by
            show (if hasFields required record then _ else _) = _
            rw [if_pos fields, if_pos old]
          rw [step, valid, firstBy_cons_of_mem identity old]
          exact ih seen results
        · have step : collect required identity build (.obj record :: rest) seen =
              (do
                let first ← build record
                let others ← collect required identity build rest (identity record :: seen)
                pure (first :: others)) := by
            show (if hasFields required record then _ else _) = _
            rw [if_pos fields, if_neg old]
          rw [step, valid, firstBy_cons_of_not_mem identity old, mapM_cons_ok_iff, bind_ok_iff]
          constructor
          · rintro ⟨first, built, later⟩
            obtain ⟨others, collected, result⟩ := bind_ok_iff.mp later
            cases result
            obtain ⟨all, mapped⟩ := (ih _ _).mp collected
            exact ⟨all, first, others, built, mapped, rfl⟩
          · rintro ⟨all, first, others, built, mapped, rfl⟩
            exact ⟨first, built, bind_ok_iff.mpr ⟨others, (ih _ _).mpr ⟨all, mapped⟩, rfl⟩⟩
      · have step : collect required identity build (.obj record :: rest) seen =
            collect required identity build rest seen := by
          show (if hasFields required record then _ else _) = _
          rw [if_neg fields]
        have valid : validRecords required (.obj record :: rest) = validRecords required rest := by
          rw [validRecords, if_neg fields]
        rw [step, valid]
        exact ih seen results
    | _ =>
      constructor
      · intro done
        cases done
      · rintro ⟨all, -⟩
        obtain ⟨record, is⟩ := all _ List.mem_cons_self
        cases is

end Collect

/-- The raw records of a field of a batch, when they can be gone through. -/
def rawItems (bronze : Dict) (field : String) : Except PyException (List Json) :=
  rawRecords bronze field >>= iterate

/-- The raw tasks of a list that are kept. -/
def keptTasks (layer : SilverLayer) (items : List Json) : List Dict :=
  firstBy layer.taskId (validRecords ["id", "content"] items) []

section Tasks

variable {layer : SilverLayer} {bronze : Dict} {tasks : List Task}

/-- The tasks of a batch are built of the kept raw tasks under the names of its projects and
sections. -/
theorem cleanTasks_ok_iff : layer.cleanTasks bronze = .ok tasks ↔
    ∃ projectItems projects sectionItems sections items,
      rawItems bronze "projects" = .ok projectItems ∧ nameMap projectItems [] = .ok projects ∧
      rawItems bronze "sections" = .ok sectionItems ∧ nameMap sectionItems [] = .ok sections ∧
      rawItems bronze "tasks" = .ok items ∧ AreObjects items ∧
      (keptTasks layer items).mapM (layer.buildTask projects sections) = .ok tasks := by
  have collected : ∀ items valid, layer.validTasks items = .ok valid ↔
      AreObjects items ∧ keptTasks layer items = valid := by
    intro items valid
    unfold SilverLayer.validTasks
    rw [collect_ok_iff, List.mapM_pure]
    constructor
    · rintro ⟨objects, same⟩
      cases same
      exact ⟨objects, (List.map_id _).symm⟩
    · rintro ⟨objects, rfl⟩
      exact ⟨objects, congrArg Except.ok (List.map_id _)⟩
  unfold SilverLayer.cleanTasks rawItems
  simp only [bind_ok_iff, collected]
  constructor
  · rintro ⟨rawTasks, isTasks, rawProjects, isProjects, rawSections, isSections, projectItems,
      areProjects, projects, named, sectionItems, areSections, sections, titled, items, areTasks,
      valid, ⟨objects, rfl⟩, built⟩
    exact ⟨projectItems, projects, sectionItems, sections, items, ⟨rawProjects, isProjects,
      areProjects⟩, named, ⟨rawSections, isSections, areSections⟩, titled,
      ⟨rawTasks, isTasks, areTasks⟩, objects, built⟩
  · rintro ⟨projectItems, projects, sectionItems, sections, items, ⟨rawProjects, isProjects,
      areProjects⟩, named, ⟨rawSections, isSections, areSections⟩, titled,
      ⟨rawTasks, isTasks, areTasks⟩, objects, built⟩
    exact ⟨rawTasks, isTasks, rawProjects, isProjects, rawSections, isSections, projectItems,
      areProjects, projects, named, sectionItems, areSections, sections, titled, items, areTasks,
      _, ⟨objects, rfl⟩, built⟩

/-- A task has the identifier of its raw task. -/
theorem id_buildTask {projects sections : NameMap} {raw : Dict} {task : Task}
    (built : layer.buildTask projects sections raw = .ok task) : task.id = layer.taskId raw := by
  unfold SilverLayer.buildTask at built
  obtain ⟨_, -, built⟩ := bind_ok_iff.mp built
  obtain ⟨_, -, built⟩ := bind_ok_iff.mp built
  obtain ⟨_, -, built⟩ := bind_ok_iff.mp built
  obtain ⟨_, -, built⟩ := bind_ok_iff.mp built
  cases built
  rfl

/-- Tasks have the identifiers of their raw tasks. -/
theorem ids_buildTasks {projects sections : NameMap} {raws : List Dict}
    (built : raws.mapM (layer.buildTask projects sections) = .ok tasks) :
    tasks.map Task.id = raws.map layer.taskId :=
  map_of_mapM built fun _ _ => id_buildTask

/-- The identifiers of the valid raw tasks of a batch, as often as they occur; there is no batch
when none was landed. -/
def batchTaskIds (layer : SilverLayer) (bronze : Option Dict) : List String :=
  match rawItems (bronze.getD []) "tasks" with
  | .ok items => (validRecords ["id", "content"] items).map layer.taskId
  | .error _ => []

/-- The tasks of a batch are as many as the identifiers of its valid raw tasks, and have them. -/
theorem ids_cleanTasks (done : layer.cleanTasks bronze = .ok tasks) :
    (tasks.map Task.id).dedup.length = (batchTaskIds layer (some bronze)).dedup.length := by
  obtain ⟨_, projects, _, sections, items, -, -, -, -, areItems, -, built⟩ :=
    cleanTasks_ok_iff.mp done
  unfold batchTaskIds
  rw [Option.getD_some, areItems, ids_buildTasks built]
  show _ = ((validRecords ["id", "content"] items).map layer.taskId).dedup.length
  unfold keptTasks
  rw [(nodup_map_firstBy layer.taskId _ []).dedup, List.length_map, length_firstBy]

/-- The texts of a task are those of its raw task, cut and masked. -/
theorem texts_buildTask {projects sections : NameMap} {raw : Dict} {task : Task}
    (built : layer.buildTask projects sections raw = .ok task) :
    task.content = layer.cleanText 2000 (raw.getD "content" (.str "")) ∧
      task.description = layer.cleanText 5000 (raw.getD "description" (.str "")) := by
  unfold SilverLayer.buildTask at built
  obtain ⟨_, -, built⟩ := bind_ok_iff.mp built
  obtain ⟨_, -, built⟩ := bind_ok_iff.mp built
  obtain ⟨_, -, built⟩ := bind_ok_iff.mp built
  obtain ⟨_, -, built⟩ := bind_ok_iff.mp built
  cases built
  exact ⟨rfl, rfl⟩

end Tasks

section Entries

variable {layer : SilverLayer} {bronze : Dict}

/-- The raw events of a list that are kept. -/
def keptEvents (layer : SilverLayer) (items : List Json) : List Dict :=
  firstBy layer.eventDedupKey (validRecords ["summary"] items) []

/-- The raw emails of a list that are kept. -/
def keptEmails (layer : SilverLayer) (items : List Json) : List Dict :=
  firstBy layer.emailDedupKey (validRecords ["subject", "sender"] items) []

/-- The events of a batch are built of the kept raw events. -/
theorem cleanEvents_ok_iff {events : List CalendarEvent} : layer.cleanEvents bronze = .ok events ↔
    ∃ items, rawItems bronze "events" = .ok items ∧ AreObjects items ∧
      (keptEvents layer items).mapM layer.buildEvent = .ok events := by
  unfold SilverLayer.cleanEvents rawItems keptEvents
  simp only [bind_ok_iff, collect_ok_iff]
  constructor
  · rintro ⟨records, isRecords, items, areItems, objects, built⟩
    exact ⟨items, ⟨records, isRecords, areItems⟩, objects, built⟩
  · rintro ⟨items, ⟨records, isRecords, areItems⟩, objects, built⟩
    exact ⟨records, isRecords, items, areItems, objects, built⟩

/-- The alerts of a batch are built of the kept raw emails. -/
theorem cleanEmails_ok_iff {alerts : List EmailAlert} : layer.cleanEmails bronze = .ok alerts ↔
    ∃ items, rawItems bronze "emails" = .ok items ∧ AreObjects items ∧
      (keptEmails layer items).mapM layer.buildEmail = .ok alerts := by
  unfold SilverLayer.cleanEmails rawItems keptEmails
  simp only [bind_ok_iff, collect_ok_iff]
  constructor
  · rintro ⟨records, isRecords, items, areItems, objects, built⟩
    exact ⟨items, ⟨records, isRecords, areItems⟩, objects, built⟩
  · rintro ⟨items, ⟨records, isRecords, areItems⟩, objects, built⟩
    exact ⟨records, isRecords, items, areItems, objects, built⟩

/-- The summary of an event is that of its raw event, masked. -/
theorem summary_buildEvent {raw : Dict} {event : CalendarEvent}
    (built : layer.buildEvent raw = .ok event) :
    event.summary = layer.pii.clean (layer.text (raw.getD "summary" (.str ""))) := by
  unfold SilverLayer.buildEvent at built
  obtain ⟨_, -, built⟩ := bind_ok_iff.mp built
  obtain ⟨_, -, built⟩ := bind_ok_iff.mp built
  cases built
  rfl

/-- The subject of an alert is that of its raw email, masked. -/
theorem subject_buildEmail {raw : Dict} {alert : EmailAlert}
    (built : layer.buildEmail raw = .ok alert) :
    alert.subject = layer.pii.clean (layer.text (raw.getD "subject" (.str ""))) := by
  unfold SilverLayer.buildEmail at built
  obtain ⟨_, -, built⟩ := bind_ok_iff.mp built
  cases built
  rfl

end Entries

end VelaFlow.Pipeline
