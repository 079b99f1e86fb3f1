import VelaFlow.Planner.Scoring
import VelaFlow.Security.Pii

/-!
# The silver layer of `pipeline/silver.py`

The raw records of a bronze batch are checked for their required fields, taken once by their
identity, and turned into tasks, events and alerts. A raw record can be any JSON value, so each
step may raise what Python raises there. Parsing and formatting by the standard library are
parameters.
-/
namespace VelaFlow.Pipeline

open Planner

/-- The functions of the standard library that the layer calls. -/
structure TextLibrary where
  /-- `repr` of a value that is no string. -/
  repr : Json → String
  /-- `str.lower`. -/
  lower : String → String
  /-- `int` of a string; `none` is a `ValueError`. -/
  parseInt : String → Option Int
  /-- `date.fromisoformat`; `none` is a `ValueError`. -/
  dateFromIsoformat : String → Option Date
  /-- `datetime.fromisoformat`; `none` is a `ValueError`. -/
  datetimeFromIsoformat : String → Option DateTime
  /-- `hashlib.sha256(text.encode()).hexdigest()`. -/
  sha256 : String → String

/-- `SilverLayer`. -/
structure SilverLayer where
  /-- The standard library. -/
  library : TextLibrary
  /-- `_pii`. -/
  pii : Security.PiiDetector

/-- `text[:length]`. -/
def cut (length : Nat) (text : String) : String := String.ofList (text.toList.take length)

/-- The items of `for item in value`. -/
def iterate : Json → Except PyException (List Json)
  | .arr items => .ok items
  | .obj members => .ok (members.map fun member => .str member.1)
  | .str text => .ok (text.toList.map fun character => .str (String.singleton character))
  | value => .error (.typeError ("'" ++ typeName value ++ "' object is not iterable"))

/-- A value whose method of a dictionary is called. -/
def asDict (method : String) : Json → Except PyException Dict
  | .obj members => .ok members
  | value => .error (noAttribute value method)

/-- The raw records of a batch, `bronze_data.get("data", {}).get(field, [])`. -/
def rawRecords (bronze : Dict) (field : String) : Except PyException Json := do
  let data ← asDict "get" (bronze.getD "data" (.obj []))
  pure (data.getD field (.arr []))

/-- Whether a value can be the key of a dictionary. -/
def hashable : Json → Bool
  | .arr _ | .obj _ => false
  | _ => true

/-- Whether two keys of a dictionary are the same one. -/
def sameKey (first second : Json) : Bool :=
  match first, second with
  | .null, .null => true
  | .str one, .str other => decide (one = other)
  | _, _ =>
    match first.number?, second.number? with
    | some one, some other => decide (one = other)
    | _, _ => false

/-- A dictionary of names, later entries before earlier ones of the same key. -/
abbrev NameMap := List (Json × Json)

/-- `record["id"]`. -/
def subscriptId : Json → Except PyException Json
  | .obj members =>
    match Dict.get? members "id" with
    | some id => .ok id
    | none => .error (.keyError "id")
  | .str _ => .error (.typeError "string indices must be integers, not 'str'")
  | .arr _ => .error (.typeError "list indices must be integers or slices, not str")
  | value => .error (.typeError ("'" ++ typeName value ++ "' object is not subscriptable"))

/-- The exception for a key that cannot be one. -/
def unhashable (value : Json) : PyException :=
  .typeError ("unhashable type: '" ++ typeName value ++ "'")

/-- `{p["id"]: p.get("name", "") for p in records}`. -/
def nameMap : List Json → NameMap → Except PyException NameMap
  | [], names => .ok names
  | raw :: rest, names => do
    let id ← subscriptId raw
    let members ← asDict "get" raw
    if hashable id then nameMap rest ((id, members.getD "name" (.str "")) :: names)
    else .error (unhashable id)

/-- `names.get(key, "")`. -/
def lookupName (names : NameMap) (key : Json) : Except PyException Json :=
  if hashable key then
    .ok (((names.find? fun entry => sameKey entry.1 key).map Prod.snd).getD (.str ""))
  else .error (unhashable key)

/-- The loop over raw records: a record that lacks a required field, or whose identity was seen, is
dropped; the others are built on the way. -/
def collect {α : Type} (required : List String) (identity : Dict → String)
    (build : Dict → Except PyException α) : List Json → List String → Except PyException (List α)
  | [], _ => .ok []
  | raw :: rest, seen => do
    let record ← asDict "keys" raw
    if required.all fun field => (record.get? field).isSome then
      if identity record ∈ seen then collect required identity build rest seen
      else do
        let first ← build record
        let others ← collect required identity build rest (identity record :: seen)
        pure (first :: others)
    else collect required identity build rest seen

namespace SilverLayer

variable (layer : SilverLayer)

/-- `str(value)`. -/
def text (value : Json) : String := str layer.library.repr value

/-- `int(value)`. -/
def toInt : Json → Except PyException Int
  | .bool value => .ok (if value then 1 else 0)
  | .int value => .ok value
  | .float value => .ok (value.num.tdiv value.den)
  | .str text =>
    match layer.library.parseInt text with
    | some value => .ok value
    | none => .error (.valueError
        ("invalid literal for int() with base 10: " ++ layer.library.repr (.str text)))
  | value => .error (.typeError ("int() argument must be a string, a bytes-like object or a " ++
      "real number, not '" ++ typeName value ++ "'"))

/-- `_safe_int`: `int` raises nothing but `ValueError` and `TypeError`. -/
def safeInt (value : Json) (default : Int) : Int :=
  match value with
  | .null => default
  | value => (layer.toInt value).toOption.getD default

/-- `_parse_date`. -/
def parseDate (value : Json) : Except PyException (Option Date) :=
  if value.truthy then
    match value with
    | .str text => .ok (layer.library.dateFromIsoformat (cut 10 text))
    | .arr _ => .error (.typeError "fromisoformat: argument must be str")
    | .obj _ => .error (.typeError "unhashable type: 'slice'")
    | other => .error (.typeError ("'" ++ typeName other ++ "' object is not subscriptable"))
  else .ok none

/-- `_parse_datetime`. -/
def parseDatetime (value : Json) : Except PyException (Option DateTime) :=
  if value.truthy then
    match value with
    | .str text => .ok (layer.library.datetimeFromIsoformat text)
    | _ => .error (.typeError "fromisoformat: argument must be str")
  else .ok none

/-- `_parse_duration`. -/
def parseDuration : Json → Except PyException (Option Int)
  | .null => .ok none
  | .obj members =>
    match Dict.getD members "amount" .null with
    | .null => .ok none
    | amount => do
      let minutes ← layer.toInt amount
      match Dict.getD members "unit" (.str "minute") with
      | .str "day" => pure (some (minutes * 1440))
      | _ => pure (some minutes)
  | value => .ok (layer.toInt value).toOption

/-- The labels that are kept of a task. -/
def safeLabels : Json → List String
  | .arr items => (items.take 20).filterMap fun item =>
      match item with
      | .str label => some (cut 100 label)
      | _ => none
  | _ => []

/-- What a task takes over of its due object. -/
structure Due where
  /-- `due_date`. -/
  date : Option Date := none
  /-- `due_datetime`. -/
  datetime : Option DateTime := none
  /-- `due_has_time`. -/
  hasTime : Bool := false
  /-- `is_recurring`. -/
  isRecurring : Bool := false

/-- The parsing of `raw.get("due")`. -/
def parseDue (value : Json) : Except PyException Due :=
  if value.truthy then do
    let due ← asDict "get" value
    let date ← layer.parseDate (due.getD "date" .null)
    let datetime ← layer.parseDatetime (due.getD "datetime" .null)
    pure { date, datetime, hasTime := (due.getD "datetime" .null).truthy,
           isRecurring := (due.getD "is_recurring" (.bool false)).truthy }
  else pure {}

/-- A cleaned text of a record. -/
def cleanText (length : Nat) (value : Json) : String := layer.pii.clean (cut length (layer.text value))

/-- The `Task` of a valid record. -/
def buildTask (projects sections : NameMap) (raw : Dict) : Except PyException Task := do
  let projectName ← lookupName projects (raw.getD "project_id" (.str ""))
  let sectionName ← lookupName sections (raw.getD "section_id" (.str ""))
  let due ← layer.parseDue (raw.getD "due" .null)
  let durationMinutes ← layer.parseDuration (raw.getD "duration" .null)
  let parent := raw.getD "parent_id" .null
  pure {
    id := layer.text (raw.getD "id" .null)
    content := layer.cleanText 2000 (raw.getD "content" (.str ""))
    description := layer.cleanText 5000 (raw.getD "description" (.str ""))
    projectId := layer.text (raw.getD "project_id" (.str ""))
    projectName
    sectionId := layer.text (raw.getD "section_id" (.str ""))
    sectionName
    priority := layer.safeInt (raw.getD "priority" .null) 1
    labels := safeLabels (raw.getD "labels" (.arr []))
    dueDate := due.date
    dueDatetime := due.datetime
    dueHasTime := due.hasTime
    durationMinutes
    url := layer.text (raw.getD "url" (.str ""))
    isRecurring := due.isRecurring
    parentId := if parent.truthy then some (layer.text parent) else none }

/-- The identity of a raw task. -/
def taskId (raw : Dict) : String := layer.text (raw.getD "id" .null)

/-- The valid raw tasks of a batch. -/
def validTasks (rawTasks : List Json) : Except PyException (List Dict) :=
  collect ["id", "content"] layer.taskId pure rawTasks []

/-- The tasks `process_todoist` makes of a batch. -/
def cleanTasks (bronze : Dict) : Except PyException (List Task) := do
  let rawTasks ← rawRecords bronze "tasks"
  let rawProjects ← rawRecords bronze "projects"
  let rawSections ← rawRecords bronze "sections"
  let projects ← nameMap (← iterate rawProjects) []
  let sections ← nameMap (← iterate rawSections) []
  let valid ← layer.validTasks (← iterate rawTasks)
  valid.mapM (layer.buildTask projects sections)

/-- The first sixteen digits of the hash of three fields. -/
def dedupKey (first second third : String) (raw : Dict) : String :=
  let field := fun name => layer.text (raw.getD name (.str ""))
  cut 16 (layer.library.sha256 (field first ++ "|" ++ field second ++ "|" ++ field third))

/-- `_event_dedup_key`. -/
def eventDedupKey (raw : Dict) : String := layer.dedupKey "summary" "start" "end" raw

/-- `_email_dedup_key`. -/
def emailDedupKey (raw : Dict) : String := layer.dedupKey "subject" "sender" "sent_at" raw

/-- The `CalendarEvent` of a valid record. -/
def buildEvent (raw : Dict) : Except PyException CalendarEvent := do
  let start ← layer.parseDatetime (raw.getD "start" .null)
  let finish ← layer.parseDatetime (raw.getD "end" .null)
  pure { summary := layer.pii.clean (layer.text (raw.getD "summary" (.str "")))
         start, finish, allDay := (raw.getD "all_day" (.bool false)).truthy }

/-- The `EmailAlert` of a valid record. -/
def buildEmail (raw : Dict) : Except PyException EmailAlert := do
  let sentAt ← layer.parseDatetime (raw.getD "sent_at" .null)
  pure { subject := layer.pii.clean (layer.text (raw.getD "subject" (.str "")))
         sender := layer.text (raw.getD "sender" (.str "")), sentAt }

/-- The events `process_calendar` makes of a batch. -/
def cleanEvents (bronze : Dict) : Except PyException (List CalendarEvent) := do
  let rawEvents ← rawRecords bronze "events"
  collect ["summary"] layer.eventDedupKey layer.buildEvent (← iterate rawEvents) []

/-- The alerts `process_gmail` makes of a batch. -/
def cleanEmails (bronze : Dict) : Except PyException (List EmailAlert) := do
  let rawEmails ← rawRecords bronze "emails"
  collect ["subject", "sender"] layer.emailDedupKey layer.buildEmail (← iterate rawEmails) []

end SilverLayer

/-- An optional text in a document. -/
def optionalText (value : Option String) : Json := value.elim .null .str

/-- `_task_to_dict`. -/
def taskToDict (task : Task) : Dict :=
  [("id", .str task.id), ("content", .str task.content), ("description", .str task.description),
    ("project_id", .str task.projectId), ("project_name", task.projectName),
    ("section_id", .str task.sectionId), ("section_name", task.sectionName),
    ("priority", .int task.priority), ("labels", .arr (task.labels.map .str)),
    ("due_date", optionalText (task.dueDate.map Date.isoformat)),
    ("due_datetime", optionalText (task.dueDatetime.map DateTime.isoformat)),
    ("due_has_time", .bool task.dueHasTime),
    ("duration_minutes", task.durationMinutes.elim .null .int), ("url", .str task.url),
    ("is_recurring", .bool task.isRecurring), ("parent_id", optionalText task.parentId)]

/-- `_event_to_dict`. -/
def eventToDict (event : CalendarEvent) : Dict :=
  [("summary", .str event.summary), ("start", optionalText (event.start.map DateTime.isoformat)),
    ("end", optionalText (event.finish.map DateTime.isoformat)), ("all_day", .bool event.allDay)]

/-- `_email_to_dict`. -/
def emailToDict (email : EmailAlert) : Dict :=
  [("subject", .str email.subject), ("sender", .str email.sender),
    ("sent_at", optionalText (email.sentAt.map DateTime.isoformat))]

/-- The document of a source that the layer persists. -/
def silverDocument (tenantId source : String) (processedAt : DateTime) (records : List Dict) : Dict :=
  [("tenant_id", .str tenantId), ("source", .str source),
    ("processed_at", .str processedAt.isoformat), ("record_count", .int records.length),
    ("records", .arr (records.map .obj))]

end VelaFlow.Pipeline
