import VelaFlow.Pipeline.Silver
import VelaFlow.Security.Sanitization

/-!
# Tasks of the Todoist API

A task as version 1 of the API sends it, and `_parse_task` of `todoist.py`, which makes of it the
task that the client returns. Parsing by the standard library and the patterns of the sanitizer are
parameters.
-/
namespace VelaFlow.Todoist

open Planner Pipeline

/-- `due.date`. -/
inductive RawDate where
  /-- A day. -/
  | day (date : Date)
  /-- A day and, behind a `T`, a time with the suffix of its zone. -/
  | moment (date : Date) (time : String)

/-- The text of `due.date`. -/
def RawDate.text : RawDate → String
  | day date => date.isoformat
  | moment date time => date.isoformat ++ "T" ++ time

/-- `due`. -/
structure RawDue where
  /-- `date`. -/
  date : RawDate
  /-- `is_recurring`. -/
  isRecurring : Bool

/-- `duration.unit`. -/
inductive DurationUnit where
  /-- `"minute"`. -/
  | minute
  /-- `"hour"`. -/
  | hour
  /-- `"day"`. -/
  | day
  deriving DecidableEq, Repr

/-- The text of a unit. -/
def DurationUnit.text : DurationUnit → String
  | minute => "minute"
  | hour => "hour"
  | day => "day"

/-- `duration`. -/
structure RawDuration where
  /-- `amount`. -/
  amount : Int
  /-- `unit`. -/
  unit : DurationUnit

/-- A task as the API sends it. -/
structure RawTask where
  /-- `id`. -/
  id : String
  /-- `content`. -/
  content : String
  /-- `description`. -/
  description : String
  /-- `project_id`. -/
  projectId : Option String
  /-- `section_id`. -/
  sectionId : Option String
  /-- `priority`. -/
  priority : Int
  /-- `labels`. -/
  labels : List String
  /-- `due`. -/
  due : Option RawDue
  /-- `duration`. -/
  duration : Option RawDuration
  /-- `url`. -/
  url : Option String
  /-- `parent_id`. -/
  parentId : Option String

/-- `due` as JSON. -/
def RawDue.toDict (due : RawDue) : Dict :=
  [("date", .str due.date.text), ("is_recurring", .bool due.isRecurring)]

/-- `duration` as JSON. -/
def RawDuration.toDict (duration : RawDuration) : Dict :=
  [("amount", .int duration.amount), ("unit", .str duration.unit.text)]

/-- A task as JSON. -/
def RawTask.toDict (raw : RawTask) : Dict :=
  [("id", .str raw.id), ("content", .str raw.content), ("description", .str raw.description),
    ("project_id", optionalText raw.projectId), ("section_id", optionalText raw.sectionId),
    ("priority", .int raw.priority), ("labels", .arr (raw.labels.map .str)),
    ("due", (raw.due.map fun due => Json.obj due.toDict).getD .null),
    ("duration", (raw.duration.map fun duration => Json.obj duration.toDict).getD .null),
    ("url", optionalText raw.url), ("parent_id", optionalText raw.parentId)]

/-- A project or a section as the API sends it: its id and its name. -/
abbrev RawName := String × String

/-- `{p["id"]: p["name"] for p in records}`, read at a key: later records before earlier ones. -/
def nameOf (records : List RawName) (id : String) : String :=
  (records.reverse.lookup id).getD ""

/-- What `_parse_task` calls. -/
structure ClientLibrary where
  /-- The standard library. -/
  text : TextLibrary
  /-- The compiled patterns of the sanitizer. -/
  patterns : Security.Patterns
  /-- The characters of `\w`. -/
  isWord : Char → Bool

namespace ClientLibrary

variable (library : ClientLibrary)

/-- `sanitize_label`. -/
def sanitizeLabel (label : String) : String :=
  if label = "" then ""
  else
    let stripped := library.patterns.stripTags (Security.stripControl label)
    let safe := stripped.toList.filter fun character =>
      library.isWord character || isSpace character || character == '-' || character == '.'
    String.ofList (strip (safe.take 100))

/-- `sanitize_labels`. -/
def sanitizeLabels (labels : List String) : List String :=
  ((labels.take 20).map library.sanitizeLabel).filter fun label => decide (label ≠ "")

/-- `date_str.replace("Z", "+00:00")`, and `"+00:00"` behind a text that shows no offset. -/
def withOffset (text : String) : String :=
  let cleaned := text.toList.flatMap fun character =>
    if character = 'Z' then "+00:00".toList else [character]
  if '+' ∉ cleaned ∧ '-' ∉ cleaned.drop 10 then String.ofList (cleaned ++ "+00:00".toList)
  else String.ofList cleaned

/-- What a task takes over of its due object. -/
def parseDue : Option RawDue → SilverLayer.Due
  | none => {}
  | some due =>
    if 'T' ∈ due.date.text.toList then
      let datetime := library.text.datetimeFromIsoformat (withOffset due.date.text)
      { date := datetime.map DateTime.date, datetime, hasTime := true,
        isRecurring := due.isRecurring }
    else if due.date.text ≠ "" then
      { date := library.text.dateFromIsoformat due.date.text, isRecurring := due.isRecurring }
    else { isRecurring := due.isRecurring }

/-- The minutes of a duration. -/
def parseDuration : Option RawDuration → Option Int
  | none => none
  | some duration =>
    match duration.unit with
    | .minute => some duration.amount
    | .hour => some (duration.amount * 60)
    | .day => some (duration.amount * 480)

/-- `str` of an id that can be missing. -/
def idText (id : Option String) : String := Planner.str library.text.repr (optionalText id)

/-- `_parse_task`, with the projects and sections that the maps are made of. -/
def parseTask (raw : RawTask) (projects sections : List RawName) : Task :=
  let due := library.parseDue raw.due
  let hasSection := (optionalText raw.sectionId).truthy
  { id := raw.id
    content := (Security.sanitizeText library.patterns raw.content 2000 true true).text
    description := (Security.sanitizeText library.patterns raw.description 5000 true true).text
    projectId := library.idText raw.projectId
    projectName := .str (nameOf projects (library.idText raw.projectId))
    sectionId := if hasSection then library.idText raw.sectionId else ""
    sectionName := .str (if hasSection then nameOf sections (library.idText raw.sectionId) else "")
    priority := raw.priority
    labels := library.sanitizeLabels raw.labels
    dueDate := due.date
    dueDatetime := due.datetime
    dueHasTime := due.hasTime
    durationMinutes := parseDuration raw.duration
    url :=
      if (optionalText raw.url).truthy then raw.url.getD ""
      else "https://app.todoist.com/app/task/" ++ raw.id
    isRecurring := due.isRecurring
    parentId := raw.parentId }

end ClientLibrary

end VelaFlow.Todoist
