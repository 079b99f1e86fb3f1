import VelaFlow.Foundation.JsonCodec
import VelaFlow.Foundation.KeyValue
import VelaFlow.Notion.Pushes
import VelaFlow.Planner.Scoring

/-!
# The properties of a task as dictionaries

`_task_to_properties` and `notion_item_to_task_fields` of `notion.py` as they build and read
dictionaries. Notion echoes each text it is sent as the `plain_text` of its segment. What is read
from a dictionary of properties is what is read from their values, so the fields of a page that has
been written of a task are those of the task, sanitised.
-/
namespace VelaFlow.Notion

open Planner (noAttribute typeName)

namespace Raw

/-- `_rich_text`. -/
def richText (content : String) : Json :=
  .arr [.obj [("type", .str "text"), ("text", .obj [("content", .str content)])]]

/-- `{key: value}`. -/
def single (key : String) (value : Json) : Json := .obj [(key, value)]

/-- `props[key] = value`, when there is a value. -/
def setSome (props : Dict) (key : String) : Option Json → Dict
  | none => props
  | some value => props.set key value

/-- `NotionClient._task_to_properties`. -/
def taskToProperties (task : Task) (includeSection : Bool) : Dict :=
  let props : Dict := [
    ("Name", single "title" (richText (sanitizeText task.content 2000))),
    ("Priority", single "select" (single "name" (.str (priorityName task.priority)))),
    ("Status", single "select" (single "name" (.str "📋 Todo"))),
    ("Todoist ID", single "rich_text" (richText (sanitizeText task.id 100))),
    ("Todoist URL", single "url" (if task.url = "" then .null else .str task.url))]
  let props := setSome props "Due Date"
    (task.due.map fun start => single "date" (single "start" (.str start)))
  let props := setSome props "Labels" (if task.labels = [] then none else
    some (single "multi_select" (.arr (task.labels.map fun label =>
      single "name" (.str (sanitizeText label 100))))))
  let props := setSome props "Duration (min)" (match task.durationMinutes with
    | none => none
    | some minutes => if minutes = 0 then none else some (single "number" (.int minutes)))
  let props := setSome props "Notes" (if task.description = "" then none else
    some (single "rich_text" (richText (sanitizeText task.description 2000))))
  setSome props "Section" (if includeSection then
    some (single "select" (single "name" (.str (sanitizeText
      (if task.sectionName = "" then "No Section" else task.sectionName) 100))))
  else none)

/-- A segment as Notion shows it, with its content as its `plain_text`. -/
def echoSegment : Json → Json
  | .obj segment =>
    match Dict.get? segment "text" with
    | some (.obj text) =>
      .obj (Dict.set segment "plain_text" (Dict.getD text "content" .null))
    | _ => .obj segment
  | other => other

/-- A property as Notion shows it. -/
def echoProperty : Json → Json
  | .obj [(key, .arr items)] =>
    if key = "title" ∨ key = "rich_text" then .obj [(key, .arr (items.map echoSegment))]
    else .obj [(key, .arr items)]
  | other => other

/-- Properties as Notion shows them. -/
def echo (props : Dict) : Dict := props.map fun entry => (entry.1, echoProperty entry.2)

/-- `value.get(key, default)`. -/
def getOr (value : Json) (key : String) (default : Json) : Except PyException Json :=
  match value with
  | .obj members => .ok (Dict.getD members key default)
  | other => .error (noAttribute other "get")

/-- `value[0]`. -/
def firstItem : Json → Except PyException Json
  | .arr [] => .error (.other "IndexError" "list index out of range")
  | .arr (first :: _) => .ok first
  | .str text =>
    match text.toList with
    | [] => .error (.other "IndexError" "string index out of range")
    | first :: _ => .ok (.str (String.singleton first))
  | .obj _ => .error (.keyError "0")
  | other => .error (.typeError ("'" ++ typeName other ++ "' object is not subscriptable"))

/-- What a `for` goes through. -/
def itemsOf : Json → Except PyException (List Json)
  | .arr items => .ok items
  | .str text => .ok (text.toList.map fun character => .str (String.singleton character))
  | .obj members => .ok (members.map fun member => .str member.1)
  | other => .error (.typeError ("'" ++ typeName other ++ "' object is not iterable"))

/-- `pmap.get(name, 1)`. -/
def priorityOf : Json → Except PyException Int
  | .str name => .ok (priorityOfName name)
  | .arr _ => .error (.typeError "unhashable type: 'list'")
  | .obj _ => .error (.typeError "unhashable type: 'dict'")
  | _ => .ok 1

/-- `props.get(key, {}).get(kind, default)`. -/
def valueOf (props : Json) (key kind : String) (default : Json) : Except PyException Json := do
  let property ← getOr props key (.obj [])
  getOr property kind default

/-- `value[0].get("plain_text", "")`. -/
def plainText (value : Json) : Except PyException Json := do
  let segment ← firstItem value
  getOr segment "plain_text" (.str "")

section Reading

variable (str : Json → String)

/-- `_sanitize_text`, which takes the text of a value that is none. -/
def sanitizeValue (value : Json) (maxLen : Nat) : String :=
  match value with
  | .str text => sanitizeText text maxLen
  | other => sanitizeText (str other) maxLen

/-- The content. -/
def readContent (props : Json) : Except PyException String := do
  let nameProp ← valueOf props "Name" "title" (.arr [])
  if nameProp.truthy then do
    let text ← plainText nameProp
    pure (sanitizeValue str text 2000)
  else pure ""

/-- The priority. -/
def readPriority (props : Json) : Except PyException Int := do
  let prioName ← valueOf props "Priority" "select" (.obj [])
  if prioName.truthy then do
    let name ← getOr prioName "name" (.str "")
    priorityOf name
  else pure 1

/-- The due date. -/
def readDue (props : Json) : Except PyException Json := do
  let dateProp ← valueOf props "Due Date" "date" .null
  if dateProp.truthy then do
    let start ← getOr dateProp "start" .null
    pure (if start.truthy then start else .null)
  else pure .null

/-- The labels. -/
def readLabels (props : Json) : Except PyException (List Json) := do
  let multiSelect ← valueOf props "Labels" "multi_select" (.arr [])
  let options ← itemsOf multiSelect
  options.mapM fun opt => getOr opt "name" (.str "")

/-- The notes. -/
def readNotes (props : Json) : Except PyException Json := do
  let notesRt ← valueOf props "Notes" "rich_text" (.arr [])
  if notesRt.truthy then plainText notesRt else pure (.str "")

/-- `NotionClient.notion_item_to_task_fields`. -/
def notionItemToTaskFields (item : Dict) : Except PyException Dict := do
  let props := item.getD "properties" (.obj [])
  let content ← readContent str props
  let priority ← readPriority props
  let dueDate ← readDue props
  let labels ← readLabels props
  let notes ← readNotes props
  let fields : Dict :=
    [("content", .str content), ("priority", .int priority), ("labels", .arr labels)]
  let fields := if dueDate.truthy then fields.set "due_string" dueDate else fields
  pure (if notes.truthy then fields.set "description" notes else fields)

end Reading

end Raw

/-- The name of a property. -/
def Property.key : Property → String
  | name => "Name"
  | priority => "Priority"
  | dueDate => "Due Date"
  | labels => "Labels"
  | status => "Status"
  | todoistId => "Todoist ID"
  | todoistUrl => "Todoist URL"
  | duration => "Duration (min)"
  | notes => "Notes"
  | sectionName => "Section"

open Raw (single)

/-- A segment with its text. -/
def segment (text : String) : Json :=
  .obj [("type", .str "text"), ("text", single "content" (.str text)), ("plain_text", .str text)]

/-- A choice, when there is one. -/
def choice : Option String → Json
  | none => .null
  | some name => single "name" (.str name)

/-- How Notion shows the value of a property. -/
def Property.shown : (property : Property) → property.Value → Json
  | .name, texts => single "title" (.arr (texts.map segment))
  | .todoistId, texts => single "rich_text" (.arr (texts.map segment))
  | .notes, texts => single "rich_text" (.arr (texts.map segment))
  | .priority, chosen => single "select" (choice chosen)
  | .status, chosen => single "select" (choice chosen)
  | .sectionName, chosen => single "select" (choice chosen)
  | .todoistUrl, link => single "url" (match link with | none => .null | some url => .str url)
  | .dueDate, date => single "date" (match date with
    | none => .null
    | some value => .obj (("start", .str value.start) :: match value.finish with
      | none => []
      | some finish => [("end", .str finish)]))
  | .labels, names => single "multi_select" (.arr (names.map fun name => choice (some name)))
  | .duration, number => single "number" (match number with
    | none => .null
    | some value => if value.den = 1 then .int value.num else .float value)

/-- The properties in the order in which a task writes them. -/
def Property.order : List Property :=
  [.name, .priority, .status, .todoistId, .todoistUrl, .dueDate, .labels, .duration, .notes,
    .sectionName]

/-- Those of some properties that a request names, as dictionaries. -/
def Patch.shownOf (patch : Patch) (properties : List Property) : Dict :=
  properties.filterMap fun property =>
    (patch property).map fun value => (property.key, property.shown value)

/-- The properties that a request names, as dictionaries. -/
def Patch.shown (patch : Patch) : Dict := patch.shownOf Property.order

/-- Fields as a dictionary. -/
def TaskFields.toDict (fields : TaskFields) : Dict :=
  [("content", .str fields.content), ("priority", .int fields.priority),
      ("labels", .arr (fields.labels.map Json.str))] ++
    (fields.dueString.map fun due => ("due_string", Json.str due)).toList ++
    (fields.description.map fun text => ("description", Json.str text)).toList

/-- Properties have different names. -/
theorem Property.key_inj {first second : Property} (same : first.key = second.key) :
    first = second := by
  cases first <;> cases second <;> first | rfl | exact absurd same (by decide)

variable {patch : Patch} {property : Property}

/-- A property that is shown is found under its name. -/
theorem get?_shownOf (properties : List Property) :
    Dict.get? (patch.shownOf properties) property.key =
      if property ∈ properties then (patch property).map property.shown else none := by
  induction properties with
  | nil => rfl
  | cons first rest ih =>
    unfold Patch.shownOf at ih ⊢
    rw [List.filterMap_cons]
    by_cases same : property = first
    · subst same
      cases named : patch property with
      | none => simp only [named, Option.map_none, ih, ite_self]
      | some value => simp
    · have apart : first.key ≠ property.key := fun is => same (Property.key_inj is).symm
      cases named : patch first with
      | none => simp only [Option.map_none, ih, List.mem_cons, same, false_or]
      | some value =>
        simp only [Option.map_some, Dict.get?_cons, apart, ih, List.mem_cons, same, false_or, if_false]

/-- A property that is set after others is shown after them. -/
theorem setSome_shownOf {front : List Property} (new : property ∉ front) :
    Raw.setSome (patch.shownOf front) property.key ((patch property).map property.shown) =
      patch.shownOf (front ++ [property]) := by
  unfold Patch.shownOf
  rw [List.filterMap_append]
  cases named : patch property with
  | none => simp [Raw.setSome, named]
  | some value =>
    have fresh : Dict.get? (patch.shownOf front) property.key = none := by
      rw [get?_shownOf, if_neg new]
    have added := Dict.set_of_not_mem (not_mem_of_lookup fresh) (property.shown value)
    simpa [Raw.setSome, named, Patch.shownOf] using added

/-- Showing a property that is set. -/
theorem echo_setSome (props : Dict) (key : String) (value : Option Json) :
    Raw.echo (Raw.setSome props key value) =
      Raw.setSome (Raw.echo props) key (value.map Raw.echoProperty) := by
  cases value with
  | none => rfl
  | some value =>
    show Raw.echo (Dict.set props key value) = Dict.set (Raw.echo props) key _
    induction props with
    | nil => rfl
    | cons entry rest ih =>
      rcases entry with ⟨other, old⟩
      unfold Raw.echo at ih ⊢
      by_cases same : other = key
      · simp [Dict.set, same]
      · simp [Dict.set, same, ih]

/-- Notion shows what is written of a task. -/
theorem echo_taskToProperties (task : Task) (includeSection : Bool) :
    Raw.echo (Raw.taskToProperties task includeSection) =
      (taskToProperties task includeSection).shown := by
  let patch := taskToProperties task includeSection
  have base : Raw.echo [
      ("Name", single "title" (Raw.richText (sanitizeText task.content 2000))),
      ("Priority", single "select" (single "name" (.str (priorityName task.priority)))),
      ("Status", single "select" (single "name" (.str "📋 Todo"))),
      ("Todoist ID", single "rich_text" (Raw.richText (sanitizeText task.id 100))),
      ("Todoist URL", single "url" (if task.url = "" then .null else .str task.url))] =
      patch.shownOf [.name, .priority, .status, .todoistId, .todoistUrl] := by
    show _ = [("Name", _), ("Priority", _), ("Status", _), ("Todoist ID", _), ("Todoist URL", _)]
    by_cases unlinked : task.url = ""
    · simp [Raw.echo, Raw.echoProperty, single, Raw.richText, Raw.echoSegment, Property.shown, segment,
        choice, unlinked, Dict.getD, Dict.set]
    · simp [Raw.echo, Raw.echoProperty, single, Raw.richText, Raw.echoSegment, Property.shown, segment,
        choice, unlinked, Dict.getD, Dict.set]
  have due : (task.due.map fun start =>
      single "date" (single "start" (.str start))).map Raw.echoProperty =
      (patch .dueDate).map (Property.shown .dueDate) := by
    show _ = (task.due.map _).map _
    cases task.due <;> rfl
  have labels : (if task.labels = [] then none else
      some (single "multi_select" (.arr (task.labels.map fun label =>
        single "name" (.str (sanitizeText label 100)))))).map Raw.echoProperty =
      (patch .labels).map (Property.shown .labels) := by
    by_cases unlabelled : task.labels = []
    · simp [patch, taskToProperties, unlabelled]
    · simp [patch, taskToProperties, unlabelled, Property.shown, choice, Raw.echoProperty, single]
  have duration : (match task.durationMinutes with
      | none => none
      | some minutes => if minutes = 0 then none else some (single "number" (.int minutes))).map
        Raw.echoProperty = (patch .duration).map (Property.shown .duration) := by
    cases lasts : task.durationMinutes with
    | none => simp [patch, taskToProperties, lasts]
    | some minutes =>
      by_cases zero : minutes = 0
      · simp [patch, taskToProperties, lasts, zero]
      · simp [patch, taskToProperties, lasts, zero, Property.shown, Raw.echoProperty, single]
  have notes : (if task.description = "" then none else
      some (single "rich_text" (Raw.richText (sanitizeText task.description 2000)))).map
        Raw.echoProperty = (patch .notes).map (Property.shown .notes) := by
    by_cases empty : task.description = ""
    · simp [patch, taskToProperties, empty]
    · simp [patch, taskToProperties, empty, Property.shown, segment, Raw.echoProperty, single,
        Raw.richText, Raw.echoSegment, Dict.getD, Dict.set]
  have inSection : (if includeSection then
      some (single "select" (single "name" (.str (sanitizeText
        (if task.sectionName = "" then "No Section" else task.sectionName) 100))))
      else none).map Raw.echoProperty = (patch .sectionName).map (Property.shown .sectionName) := by
    cases includeSection with
    | false => rfl
    | true => rfl
  have next : ∀ property {props : Dict} {front : List Property}, props = patch.shownOf front →
      property ∉ front →
      Raw.setSome props property.key ((patch property).map property.shown) =
        patch.shownOf (front ++ [property]) := by
    intro property props front is new
    rw [is, setSome_shownOf new]
  unfold Raw.taskToProperties
  simp only [echo_setSome]
  rw [due, labels, duration, notes, inSection]
  exact next .sectionName (next .notes (next .duration (next .labels (next .dueDate base
    (by decide)) (by decide)) (by decide)) (by decide)) (by decide)

/-- A property is read from its dictionary. -/
theorem valueOf_shown {kind : String} {inner : property.Value → Json}
    (is : ∀ value, property.shown value = single kind (inner value)) (default : Json) :
    Raw.valueOf (.obj patch.shown) property.key kind default =
      .ok (((patch property).map inner).getD default) := by
  have among : property ∈ Property.order := by cases property <;> decide
  have found := @get?_shownOf patch property Property.order
  rw [if_pos among] at found
  unfold Raw.valueOf Raw.getOr
  show (do
    let shown ← Except.ok (Dict.getD patch.shown property.key (.obj []))
    Raw.getOr shown kind default) = _
  unfold Dict.getD Patch.shown
  rw [found]
  cases patch property with
  | none => rfl
  | some value =>
    show Raw.getOr (property.shown value) kind default = _
    rw [is value]
    simp [single, Raw.getOr, Dict.getD]

/-- The first text of segments. -/
theorem plainText_segments (text : String) (rest : List String) :
    Raw.plainText (.arr ((text :: rest).map segment)) = .ok (.str text) := by
  simp [Raw.plainText, Raw.firstItem, Raw.getOr, segment, bind, Except.bind, Dict.getD]

section Reading

variable {str : Json → String}

/-- The content is read from the name. -/
theorem readContent_shown : Raw.readContent str (.obj patch.shown) =
    .ok (((patch.apply .blank .name).head?.map fun text => sanitizeText text 2000).getD "") := by
  have found : Raw.valueOf (.obj patch.shown) "Name" "title" (.arr []) =
      .ok (((patch .name).map fun texts => .arr (texts.map segment)).getD (.arr [])) :=
    @valueOf_shown patch .name "title" (fun texts => .arr (texts.map segment)) (fun _ => rfl) _
  rw [Raw.readContent, found, Patch.apply]
  cases patch .name with
  | none => rfl
  | some texts =>
    cases texts with
    | nil => rfl
    | cons text rest =>
      show (Raw.plainText (.arr ((text :: rest).map segment)) >>= fun text =>
        pure (Raw.sanitizeValue str text 2000)) = _
      rw [plainText_segments]
      rfl

/-- The priority is read from its name. -/
theorem readPriority_shown : Raw.readPriority (.obj patch.shown) =
    .ok (((patch.apply .blank .priority).map priorityOfName).getD 1) := by
  have found : Raw.valueOf (.obj patch.shown) "Priority" "select" (.obj []) =
      .ok (((patch .priority).map choice).getD (.obj [])) :=
    @valueOf_shown patch .priority "select" choice (fun _ => rfl) _
  rw [Raw.readPriority, found, Patch.apply]
  cases patch .priority with
  | none => rfl
  | some chosen => cases chosen <;> rfl

/-- The due date is read. -/
theorem readDue_shown : Raw.readDue (.obj patch.shown) =
    .ok ((((patch.apply .blank .dueDate).bind fun date => nonEmpty date.start).map Json.str).getD
      .null) := by
  have found : Raw.valueOf (.obj patch.shown) "Due Date" "date" .null = .ok (((patch .dueDate).map
      fun date => match date with
        | none => .null
        | some value => .obj (("start", .str value.start) :: match value.finish with
          | none => []
          | some finish => [("end", .str finish)])).getD .null) :=
    @valueOf_shown patch .dueDate "date" _ (fun _ => rfl) _
  rw [Raw.readDue, found, Patch.apply]
  cases patch .dueDate with
  | none => rfl
  | some date =>
    cases date with
    | none => rfl
    | some value =>
      by_cases empty : value.start = ""
      · simp [bind, Except.bind, Json.truthy, Raw.getOr, Dict.getD, nonEmpty, empty, pure, Except.pure]
      · simp [bind, Except.bind, Json.truthy, Raw.getOr, Dict.getD, nonEmpty, empty, pure, Except.pure]

/-- The labels are read. -/
theorem readLabels_shown : Raw.readLabels (.obj patch.shown) =
    .ok ((patch.apply .blank .labels).map Json.str) := by
  have found : Raw.valueOf (.obj patch.shown) "Labels" "multi_select" (.arr []) =
      .ok (((patch .labels).map fun names => .arr (names.map fun name => choice (some name))).getD
        (.arr [])) :=
    @valueOf_shown patch .labels "multi_select" _ (fun _ => rfl) _
  rw [Raw.readLabels, found, Patch.apply]
  cases patch .labels with
  | none => rfl
  | some names =>
    show (names.map fun name => choice (some name)).mapM (fun opt =>
      Raw.getOr opt "name" (.str "")) = .ok (names.map Json.str)
    rw [List.mapM_map]
    exact mapM_eq_map fun name _ => rfl

/-- The notes are read. -/
theorem readNotes_shown : Raw.readNotes (.obj patch.shown) =
    .ok (.str ((patch.apply .blank .notes).headD "")) := by
  have found : Raw.valueOf (.obj patch.shown) "Notes" "rich_text" (.arr []) =
      .ok (((patch .notes).map fun texts => .arr (texts.map segment)).getD (.arr [])) :=
    @valueOf_shown patch .notes "rich_text" _ (fun _ => rfl) _
  rw [Raw.readNotes, found, Patch.apply]
  cases patch .notes with
  | none => rfl
  | some texts =>
    cases texts with
    | nil => rfl
    | cons text rest => exact plainText_segments text rest

/-- A text that is taken unless it is empty is not empty. -/
theorem nonEmpty_eq_some {text other : String} (taken : nonEmpty text = some other) :
    other = text ∧ text ≠ "" := by
  unfold nonEmpty at taken
  split at taken
  case isTrue => cases taken
  case isFalse filled => exact ⟨(Option.some.inj taken).symm, filled⟩

/-- What is read from the dictionaries of a page is what is read from the values it shows. -/
theorem notionItemToTaskFields_shown (page : Page)
    (shows : page.properties = patch.apply .blank) :
    Raw.notionItemToTaskFields str [("properties", .obj patch.shown)] =
      .ok (notionItemToTaskFields page).toDict := by
  have due : ∀ text, (page.properties .dueDate).bind (fun date => nonEmpty date.start) = some text →
      text ≠ "" := by
    intro text read
    obtain ⟨date, _, taken⟩ := Option.bind_eq_some_iff.mp read
    obtain ⟨rfl, filled⟩ := nonEmpty_eq_some taken
    exact filled
  have notes : nonEmpty ((page.properties .notes).headD "") =
      (page.properties .notes).head?.bind nonEmpty := by
    cases page.properties .notes <;> rfl
  unfold Raw.notionItemToTaskFields TaskFields.toDict notionItemToTaskFields
  simp only [Dict.getD, Dict.get?_cons, if_true, Option.getD_some]
  rw [readContent_shown, readPriority_shown, readDue_shown, readLabels_shown, readNotes_shown,
    ← shows, ← notes]
  clear notes
  generalize (page.properties .notes).headD "" = note
  cases read : (page.properties .dueDate).bind fun date => nonEmpty date.start with
  | none =>
    by_cases empty : note = ""
    · simp [bind, Except.bind, pure, Except.pure, Json.truthy, nonEmpty, empty]
    · simp [bind, Except.bind, pure, Except.pure, Json.truthy, nonEmpty, empty, Dict.set]
  | some text =>
    have filled := due text read
    by_cases empty : note = ""
    · simp [bind, Except.bind, pure, Except.pure, Json.truthy, nonEmpty, empty, filled, Dict.set]
    · simp [bind, Except.bind, pure, Except.pure, Json.truthy, nonEmpty, empty, filled, Dict.set]

end Reading

/-- The text of a due date is not empty. -/
theorem due_ne_empty {task : Task} {text : String} (due : task.due = some text) : text ≠ "" := by
  obtain ⟨day, _, rfl⟩ := Option.map_eq_some_iff.mp due
  have dayFilled : day.isoformat ≠ "" := by
    intro empty
    have chars := congrArg String.toList empty
    simp [Date.isoformat, Date.isoChars] at chars
  split
  · rename_i time _ _
    intro empty
    have chars := congrArg String.toList empty
    simp [DateTime.isoformat] at chars
  · exact dayFilled

/-- The fields of a page that shows what is written of a task. -/
theorem notionItemToTaskFields_taskToProperties (task : Task)
    (known : 1 ≤ task.priority ∧ task.priority ≤ 4) (includeSection : Bool) (page : Page)
    (shows : page.properties = (taskToProperties task includeSection).apply .blank) :
    notionItemToTaskFields page =
      { content := sanitizeText task.content 2000
        priority := task.priority
        labels := task.labels.map fun label => sanitizeText label 100
        dueString := task.due
        description := nonEmpty (sanitizeText task.description 2000) } := by
  have labels : ((if task.labels = [] then none else
      some (task.labels.map fun label => sanitizeText label 100) : Option (List String)).getD []) =
      task.labels.map fun label => sanitizeText label 100 := by
    split
    case isTrue unlabelled => rw [unlabelled]; rfl
    case isFalse => rfl
  have due : ((task.due.map fun start => some { start : DateValue }).getD none).bind
      (fun date => nonEmpty date.start) = task.due := by
    cases given : task.due with
    | none => rfl
    | some text => exact if_neg (due_ne_empty given)
  have notes : ((if task.description = "" then none else
      some [sanitizeText task.description 2000] : Option (List String)).getD []).head?.bind
        nonEmpty = nonEmpty (sanitizeText task.description 2000) := by
    split
    case isTrue empty => rw [empty, sanitizeText_empty]; rfl
    case isFalse => rw [Option.getD_some, List.head?_cons, Option.bind_some]
  have content : (notionItemToTaskFields page).content = sanitizeText task.content 2000 := by
    rw [notionItemToTaskFields, shows]
    exact sanitizeText_twice task.content 2000
  have priority : (notionItemToTaskFields page).priority = task.priority := by
    rw [notionItemToTaskFields, shows]
    exact priorityOfName_priorityName known
  have fields : notionItemToTaskFields page =
      { content := (notionItemToTaskFields page).content
        priority := (notionItemToTaskFields page).priority
        labels := page.properties .labels
        dueString := (page.properties .dueDate).bind fun date => nonEmpty date.start
        description := (page.properties .notes).head?.bind nonEmpty } := rfl
  rw [fields, content, priority, shows, ← labels, ← due, ← notes]
  rfl

/-- `notion_item_to_task_fields` of a page whose properties are those that `_task_to_properties`
gives a task, as Notion echoes them. -/
theorem fields_of_echoed (str : Json → String) (task : Task)
    (known : 1 ≤ task.priority ∧ task.priority ≤ 4) (includeSection : Bool) :
    Raw.notionItemToTaskFields str
        [("properties", .obj (Raw.echo (Raw.taskToProperties task includeSection)))] =
      .ok ([("content", .str (String.ofList ((task.content.toList.filter fun character =>
            !Security.isControl character).take 2000))),
          ("priority", .int task.priority),
          ("labels", .arr (task.labels.map fun label => .str (sanitizeText label 100)))] ++
        (match task.dueDate with
          | none => []
          | some day => match task.dueDatetime, task.dueHasTime with
            | some time, true => [("due_string", .str time.isoformat)]
            | _, _ => [("due_string", .str day.isoformat)]) ++
        if sanitizeText task.description 2000 = "" then []
        else [("description", .str (sanitizeText task.description 2000))]) := by
  let patch := taskToProperties task includeSection
  have read := @notionItemToTaskFields_shown patch str ⟨0, "", patch.apply .blank⟩ rfl
  have content : sanitizeText task.content 2000 = String.ofList ((task.content.toList.filter
      fun character => !Security.isControl character).take 2000) := by
    rw [sanitizeText, Security.stripControl, String.toList_ofList]
  have due : (task.due.map fun due => ("due_string", Json.str due)).toList =
      match task.dueDate with
      | none => []
      | some day => match task.dueDatetime, task.dueHasTime with
        | some time, true => [("due_string", Json.str time.isoformat)]
        | _, _ => [("due_string", Json.str day.isoformat)] := by
    unfold Task.due
    cases task.dueDate with
    | none => rfl
    | some day =>
      cases task.dueDatetime with
      | none => rfl
      | some time => cases task.dueHasTime <;> rfl
  have notes : ((nonEmpty (sanitizeText task.description 2000)).map fun text =>
      ("description", Json.str text)).toList =
      if sanitizeText task.description 2000 = "" then []
      else [("description", .str (sanitizeText task.description 2000))] := by
    unfold nonEmpty
    split
    case isTrue => rfl
    case isFalse => rfl
  rw [echo_taskToProperties, read,
    notionItemToTaskFields_taskToProperties task known includeSection _ rfl, TaskFields.toDict,
    due, notes, List.map_map, content]
  rfl

/-- The fields of a page of an urgent task. -/
theorem fields_of_echoed_urgent :
    Raw.notionItemToTaskFields (fun _ => "") [("properties", .obj (Raw.echo
        (Raw.taskToProperties { id := "1", content := "Pay rent", priority := 4 } false)))] =
      .ok [("content", .str "Pay rent"), ("priority", .int 4), ("labels", .arr [])] :=
  (fields_of_echoed (fun _ => "") { id := "1", content := "Pay rent", priority := 4 } (by decide)
    false).trans rfl

end VelaFlow.Notion
