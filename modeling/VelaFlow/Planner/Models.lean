import VelaFlow.Foundation.DateTime
import VelaFlow.Foundation.Json

/-!
# The records of `models.py`

Tasks, events and alerts as the silver layer cleans them, tasks with a score, and digests. The
names of a task's project and section are taken over from the raw projects and sections, so they
can be any JSON value. `added_at` and `body_html` keep their defaults in the modelled code and are
left out.
-/
namespace VelaFlow.Planner

/-- `str(value)`, for a `repr` of the values that are no strings. -/
def str (repr : Json → String) : Json → String
  | .str text => text
  | value => repr value

/-- `Task`. -/
structure Task where
  /-- `id`. -/
  id : String
  /-- `content`. -/
  content : String
  /-- `description`. -/
  description : String := ""
  /-- `project_id`. -/
  projectId : String := ""
  /-- `project_name`. -/
  projectName : Json := .str ""
  /-- `section_id`. -/
  sectionId : String := ""
  /-- `section_name`. -/
  sectionName : Json := .str ""
  /-- `priority`, from one up to four when urgent. -/
  priority : Int := 1
  /-- `labels`. -/
  labels : List String := []
  /-- `due_date`. -/
  dueDate : Option Date := none
  /-- `due_datetime`. -/
  dueDatetime : Option DateTime := none
  /-- `due_has_time`. -/
  dueHasTime : Bool := false
  /-- `duration_minutes`. -/
  durationMinutes : Option Int := none
  /-- `url`. -/
  url : String := ""
  /-- `is_recurring`. -/
  isRecurring : Bool := false
  /-- `parent_id`. -/
  parentId : Option String := none

/-- `ScoredTask`. -/
structure ScoredTask where
  /-- `task`. -/
  task : Task
  /-- `score`. -/
  score : Int
  /-- `reasons`. -/
  reasons : List String

/-- `CalendarEvent`. -/
structure CalendarEvent where
  /-- `summary`. -/
  summary : String
  /-- `start`. -/
  start : Option DateTime := none
  /-- `end`. -/
  finish : Option DateTime := none
  /-- `all_day`. -/
  allDay : Bool := false

/-- `EmailAlert`. -/
structure EmailAlert where
  /-- `subject`. -/
  subject : String
  /-- `sender`. -/
  sender : String
  /-- `sent_at`. -/
  sentAt : Option DateTime := none

/-- `DigestResult`. -/
structure DigestResult where
  /-- `subject`. -/
  subject : String
  /-- `body_text`. -/
  bodyText : String
  deriving DecidableEq

/-- The `Settings` of `config.py` that the planner reads. -/
structure Settings where
  /-- `todoist_focus_label`. -/
  todoistFocusLabel : String := "focus"
  /-- `todoist_weekend_label`. -/
  todoistWeekendLabel : String := "weekend"
  /-- `default_task_duration_minutes`. -/
  defaultTaskDurationMinutes : Int := 30
  /-- `daily_top_task_limit`. -/
  dailyTopTaskLimit : Int := 5
  /-- `overdue_section_limit`. -/
  overdueSectionLimit : Int := 7
  /-- `weekend_capacity_hours`. -/
  weekendCapacityHours : Int := 3
  /-- `weekend_task_limit`. -/
  weekendTaskLimit : Int := 8

end VelaFlow.Planner
