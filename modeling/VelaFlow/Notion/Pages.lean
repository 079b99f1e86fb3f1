import Mathlib.Data.List.Induction
import VelaFlow.Foundation.DateTime
import VelaFlow.Security.Sanitization

/-!
# Tasks and their pages

A Todoist task, the page of a Notion task database that mirrors it, and the properties that
`_task_to_properties` of `notion.py` writes for it. A request to Notion names some of the
properties of a page; Notion keeps the others. Notion gives a text back as the texts of its
segments.
-/
namespace VelaFlow.Notion

/-- `_sanitize_text`. -/
def sanitizeText (text : String) (maxLen : Nat) : String :=
  String.ofList ((Security.stripControl text).toList.take maxLen)

/-- `_PRIORITY_MAP.get(priority, "⚪ P4 Low")`. -/
def priorityName (priority : Int) : String :=
  if priority = 4 then "🔴 P1 Urgent"
  else if priority = 3 then "🟠 P2 High"
  else if priority = 2 then "🟡 P3 Normal"
  else "⚪ P4 Low"

/-- The priority `notion_item_to_task_fields` reads from a name. -/
def priorityOfName (name : String) : Int :=
  if name = "🔴 P1 Urgent" then 4
  else if name = "🟠 P2 High" then 3
  else if name = "🟡 P3 Normal" then 2
  else 1

/-- `Task` of `models.py`, the fields the sync reads. -/
structure Task where
  /-- `id`. -/
  id : String
  /-- `content`. -/
  content : String
  /-- `description`. -/
  description : String := ""
  /-- `project_id`. -/
  projectId : String := ""
  /-- `section_id`. -/
  sectionId : String := ""
  /-- `section_name`. -/
  sectionName : String := ""
  /-- `priority`. -/
  priority : Int := 1
  /-- `labels`. -/
  labels : List String := []
  /-- `due_date`. -/
  dueDate : Option Date := none
  /-- `due_datetime`. -/
  dueDatetime : Option DateTime := none
  /-- `due_has_time`. -/
  dueHasTime : Bool := false
  /-- `duration_minutes`. -/
  durationMinutes : Option Int := none
  /-- `url`. -/
  url : String := ""

/-- The properties of a page, by their names in `_task_db_schema` and `_board_db_schema`. -/
inductive Property where
  /-- `"Name"`. -/
  | name
  /-- `"Priority"`. -/
  | priority
  /-- `"Due Date"`. -/
  | dueDate
  /-- `"Labels"`. -/
  | labels
  /-- `"Status"`. -/
  | status
  /-- `"Todoist ID"`. -/
  | todoistId
  /-- `"Todoist URL"`. -/
  | todoistUrl
  /-- `"Duration (min)"`. -/
  | duration
  /-- `"Notes"`. -/
  | notes
  /-- `"Section"`. -/
  | sectionName
  deriving DecidableEq

/-- The value of a date property. -/
structure DateValue where
  /-- `"start"`. -/
  start : String
  /-- `"end"`. -/
  finish : Option String := none
  deriving DecidableEq

/-- The values of a property: a text by its segments, a choice, a date, a list of choices, a link
or a number. -/
abbrev Property.Value : Property → Type
  | .name | .todoistId | .notes => List String
  | .priority | .status | .sectionName | .todoistUrl => Option String
  | .dueDate => Option DateValue
  | .labels => List String
  | .duration => Option Rat

/-- What a page shows. -/
abbrev Properties := (property : Property) → property.Value

/-- The properties a request names, each with its value. -/
abbrev Patch := (property : Property) → Option property.Value

/-- A page after a request: what the request does not name stays. -/
def Patch.apply (patch : Patch) (properties : Properties) : Properties :=
  fun property => (patch property).getD (properties property)

/-- The request that names no property. -/
def Patch.empty : Patch := fun _ => none

/-- A new page with none of its properties set. -/
def Properties.blank : Properties
  | .name | .todoistId | .notes => []
  | .priority | .status | .sectionName | .todoistUrl => none
  | .dueDate => none
  | .labels => []
  | .duration => none

/-- The text of a `"Due Date"`: the day, or the time when the task has one. -/
def Task.due (task : Task) : Option String :=
  task.dueDate.map fun day =>
    match task.dueDatetime, task.dueHasTime with
    | some time, true => time.isoformat
    | _, _ => day.isoformat

/-- `NotionClient._task_to_properties`. -/
def taskToProperties (task : Task) (includeSection : Bool) : Patch
  | .name => some [sanitizeText task.content 2000]
  | .priority => some (some (priorityName task.priority))
  | .status => some (some "📋 Todo")
  | .todoistId => some [sanitizeText task.id 100]
  | .todoistUrl => some (if task.url = "" then none else some task.url)
  | .dueDate => task.due.map fun start => some { start }
  | .labels =>
    if task.labels = [] then none
    else some (task.labels.map fun label => sanitizeText label 100)
  | .duration =>
    match task.durationMinutes with
    | none => none
    | some minutes => if minutes = 0 then none else some (some minutes)
  | .notes =>
    if task.description = "" then none else some [sanitizeText task.description 2000]
  | .sectionName =>
    if includeSection then
      some (some (sanitizeText
        (if task.sectionName = "" then "No Section" else task.sectionName) 100))
    else none

/-- A page of a database. Notion's identifiers are numbered. -/
structure Page where
  /-- `id`. -/
  id : Nat
  /-- The database of the page. -/
  databaseId : String
  /-- `properties`. -/
  properties : Properties

/-- The text of the first segment of `"Todoist ID"`, empty when there is none. -/
def Page.todoistId (page : Page) : String := (page.properties .todoistId).headD ""

/-- A page after a request about it. -/
def Page.update (page : Page) (patch : Patch) : Page :=
  { page with properties := patch.apply page.properties }

/-- What Todoist is told of a page: the fields of `notion_item_to_task_fields`. -/
structure TaskFields where
  /-- `"content"`. -/
  content : String
  /-- `"priority"`. -/
  priority : Int
  /-- `"labels"`. -/
  labels : List String
  /-- `"due_string"`, when there is one. -/
  dueString : Option String
  /-- `"description"`, when there is one. -/
  description : Option String

/-- A text, unless it is empty. -/
def nonEmpty (text : String) : Option String := if text = "" then none else some text

/-- `NotionClient.notion_item_to_task_fields`. -/
def notionItemToTaskFields (item : Page) : TaskFields where
  content := ((item.properties .name).head?.map fun text => sanitizeText text 2000).getD ""
  priority := ((item.properties .priority).map priorityOfName).getD 1
  labels := item.properties .labels
  dueString := (item.properties .dueDate).bind fun date => nonEmpty date.start
  description := (item.properties .notes).head?.bind nonEmpty

/-- `existing_map[todoist_id] = notion_page_id`: a key keeps its place. -/
def setEntry : List (String × Nat) → String → Nat → List (String × Nat)
  | [], key, value => [(key, value)]
  | entry :: rest, key, value =>
    if entry.1 = key then (key, value) :: rest else entry :: setEntry rest key value

/-- The map of existing items by their Todoist ID. -/
def existingMap (items : List Page) : List (String × Nat) :=
  items.foldl (fun known item =>
    if item.todoistId = "" then known else setEntry known item.todoistId item.id) []

/-- The items without a Todoist ID. -/
def notionOnly (items : List Page) : List Page :=
  items.filter fun item => decide (item.todoistId = "")

/-- A priority that Todoist knows is read back from its name. -/
theorem priorityOfName_priorityName {priority : Int} (known : 1 ≤ priority ∧ priority ≤ 4) :
    priorityOfName (priorityName priority) = priority := by
  have cases : priority = 1 ∨ priority = 2 ∨ priority = 3 ∨ priority = 4 := by omega
  rcases cases with rfl | rfl | rfl | rfl <;> decide

/-- A property that a request names is what the request says. -/
theorem Patch.apply_of_some {patch : Patch} {property : Property} {value : property.Value}
    (named : patch property = some value) (properties : Properties) :
    patch.apply properties property = value := by
  unfold apply
  rw [named, Option.getD_some]

/-- A property that a request does not name stays. -/
theorem Patch.apply_of_none {patch : Patch} {property : Property}
    (unnamed : patch property = none) (properties : Properties) :
    patch.apply properties property = properties property := by
  unfold apply
  rw [unnamed, Option.getD_none]

/-- A request that is repeated changes nothing. -/
theorem Page.update_update (page : Page) (patch : Patch) :
    (page.update patch).update patch = page.update patch := by
  have same : patch.apply (patch.apply page.properties) = patch.apply page.properties := by
    funext property
    cases named : patch property with
    | none => rw [Patch.apply_of_none named]
    | some value => rw [Patch.apply_of_some named, Patch.apply_of_some named]
  show ({ page with properties := patch.apply (patch.apply page.properties) } : Page) = _
  rw [same]
  rfl

/-- A request that leaves `"Todoist ID"` out leaves the ID. -/
theorem Page.todoistId_update_of_none {patch : Patch} (unnamed : patch .todoistId = none)
    (page : Page) : (page.update patch).todoistId = page.todoistId := by
  show (patch.apply page.properties .todoistId).headD "" = _
  rw [Patch.apply_of_none unnamed]
  rfl

/-- A request that names `"Todoist ID"` sets the ID. -/
theorem Page.todoistId_update_of_some {patch : Patch} {segments : List String}
    (named : patch .todoistId = some segments) (page : Page) :
    (page.update patch).todoistId = segments.headD "" := by
  show (patch.apply page.properties .todoistId).headD "" = _
  rw [Patch.apply_of_some named]

/-- The value of a key after an entry. -/
theorem lookup_setEntry (known : List (String × Nat)) (key other : String) (value : Nat) :
    (setEntry known key value).lookup other =
      if other = key then some value else known.lookup other := by
  induction known with
  | nil =>
    by_cases same : other = key
    · simp [setEntry, same]
    · simp [setEntry, List.lookup_cons, same, beq_false_of_ne same]
  | cons entry rest ih =>
    rcases entry with ⟨first, held⟩
    show (if first = key then (key, value) :: rest
      else (first, held) :: setEntry rest key value).lookup other = _
    by_cases found : first = key
    · rw [if_pos found, found]
      by_cases same : other = key
      · simp [same]
      · simp [List.lookup_cons, same, beq_false_of_ne same]
    · rw [if_neg found]
      by_cases same : other = first
      · simp [same, found]
      · simp [List.lookup_cons, beq_false_of_ne same, ih]

/-- The page that an ID leads to is the last one that shows it. -/
theorem lookup_existingMap (items : List Page) {id : String} (some : id ≠ "") :
    (existingMap items).lookup id =
      ((items.filter fun item => decide (item.todoistId = id)).getLast?).map Page.id := by
  unfold existingMap
  induction items using List.reverseRecOn with
  | nil => rfl
  | append_singleton front item ih =>
    rw [List.foldl_append, List.foldl_cons, List.foldl_nil, List.filter_append,
      List.getLast?_append]
    by_cases unnamed : item.todoistId = ""
    · have apart : item.todoistId ≠ id := fun is => some (is.symm.trans unnamed)
      simp [unnamed, ih, Ne.symm some]
    · rw [if_neg unnamed, lookup_setEntry, ih]
      by_cases same : item.todoistId = id
      · simp [same]
      · simp [same, Ne.symm same]

/-- An ID that leads to a page is the ID of that page. -/
theorem exists_of_lookup_existingMap {items : List Page} {id : String} {pageId : Nat}
    (some : id ≠ "") (found : (existingMap items).lookup id = .some pageId) :
    ∃ page ∈ items, page.id = pageId ∧ page.todoistId = id := by
  rw [lookup_existingMap items some, Option.map_eq_some_iff] at found
  rcases found with ⟨page, last, is⟩
  have member := List.mem_of_getLast? last
  rw [List.mem_filter, decide_eq_true_eq] at member
  exact ⟨page, member.1, is, member.2⟩

/-- No page shows the empty ID. -/
theorem lookup_existingMap_empty (items : List Page) : (existingMap items).lookup "" = none := by
  unfold existingMap
  induction items using List.reverseRecOn with
  | nil => rfl
  | append_singleton front item ih =>
    rw [List.foldl_append, List.foldl_cons, List.foldl_nil]
    by_cases unnamed : item.todoistId = ""
    · rw [if_pos unnamed, ih]
    · rw [if_neg unnamed, lookup_setEntry, if_neg (Ne.symm unnamed), ih]

end VelaFlow.Notion
