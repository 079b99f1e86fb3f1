import Mathlib.Data.List.Infix
import Mathlib.Data.List.Sort
import Mathlib.Data.Prod.Lex
import Mathlib.Data.String.Basic
import VelaFlow.Foundation.Python
import VelaFlow.Planner.Models

/-!
# The scoring engine of `planner.py`

A task's score is the sum of the points it is awarded, each with a reason. Ranked tasks are sorted
by score, then by due date, priority and content. Both read the date of today once for all tasks.
-/
namespace VelaFlow.Planner

/-- Points, and the reason they are given for. -/
structure Award where
  /-- The points. -/
  points : Int
  /-- The reason. -/
  reason : String

/-- What a due date is worth. -/
def dueAward (today : Date) : Option Date → Option Award
  | none => none
  | some due =>
    if due.ordinal < today.ordinal then
      let daysOverdue := today.ordinal - due.ordinal
      let points := min daysOverdue 7 * 20
      some ⟨points, s!"Overdue {daysOverdue}d → +{points}"⟩
    else if due = today then some ⟨25, "Due today → +25"⟩
    else
      let daysUntil := due.ordinal - today.ordinal
      if daysUntil = 1 then some ⟨16, "Due tomorrow → +16"⟩
      else if daysUntil = 2 then some ⟨8, "Due in 2 days → +8"⟩
      else if daysUntil = 3 then some ⟨4, "Due in 3 days → +4"⟩
      else none

/-- `priority_points.get(priority, 0)`. -/
def priorityPoints (priority : Int) : Int :=
  if priority = 4 then 18 else if priority = 3 then 10 else if priority = 2 then 4 else 0

/-- What a priority is worth. -/
def priorityAward (priority : Int) : Option Award :=
  let points := priorityPoints priority
  if points = 0 then none else some ⟨points, s!"Priority p{5 - priority} → +{points}"⟩

/-- What a label is worth to a task that has it. -/
def labelAward (label : String) (points : Int) (task : Task) : Option Award :=
  if label ∈ task.labels then some ⟨points, s!"@{label} → +{points}"⟩ else none

/-- `task.duration_minutes or settings.default_task_duration_minutes`. -/
def effectiveDuration (settings : Settings) (task : Task) : Int :=
  match task.durationMinutes with
  | none => settings.defaultTaskDurationMinutes
  | some minutes => if minutes = 0 then settings.defaultTaskDurationMinutes else minutes

/-- What a duration is worth. -/
def durationAward (duration : Int) : Option Award :=
  if duration ≤ 30 then some ⟨4, "Quick win (≤30min) → +4"⟩
  else if 120 ≤ duration then some ⟨-6, "Long task (≥2h) → -6"⟩
  else none

/-- What a task without a due date and the focus label loses. -/
def undatedAward (settings : Settings) (task : Task) : Option Award :=
  if task.dueDate = none ∧ settings.todoistFocusLabel ∉ task.labels then
    some ⟨-4, "No due date, no @focus → -4"⟩
  else none

/-- `word in text`. -/
def mentions (text word : String) : Bool := decide (word.toList <:+: text.toList)

/-- What the section of a task is worth, by its name in lower case. -/
def sectionAward (sec : String) (priority : Int) : Option Award :=
  if mentions sec "urgent" || mentions sec "today" then some ⟨12, "Section: Urgent/Today → +12"⟩
  else if mentions sec "doing" then some ⟨10, "Section: Doing → +10"⟩
  else if mentions sec "high" then some ⟨6, "Section: High → +6"⟩
  else if mentions sec "blocked" then some ⟨-20, "Section: Blocked → -20"⟩
  else if mentions sec "rejected" then some ⟨-30, "Section: Rejected → -30"⟩
  else if mentions sec "backlog" then
    if 3 ≤ priority then some ⟨5, "Backlog high-pri discovery → +5"⟩
    else some ⟨-2, "Section: Backlog → -2"⟩
  else none

/-- `type(value).__name__`. -/
def typeName : Json → String
  | .null => "NoneType"
  | .bool _ => "bool"
  | .int _ => "int"
  | .float _ => "float"
  | .str _ => "str"
  | .arr _ => "list"
  | .obj _ => "dict"

/-- The exception for a method that a value does not have. -/
def noAttribute (value : Json) (method : String) : PyException :=
  .other "AttributeError" ("'" ++ typeName value ++ "' object has no attribute '" ++ method ++ "'")

section Lower

variable (lower : String → String)

/-- `section_name.lower() if section_name else ""`. -/
def sectionText (sectionName : Json) : Except PyException String :=
  if sectionName.truthy then
    match sectionName with
    | .str name => .ok (lower name)
    | other => .error (noAttribute other "lower")
  else .ok ""

/-- The awards of a task whose section has the given name in lower case. -/
def awards (settings : Settings) (weekendMode : Bool) (today : Date) (task : Task) (sec : String) :
    List Award :=
  [dueAward today task.dueDate,
    priorityAward task.priority,
    labelAward settings.todoistFocusLabel 14 task,
    if weekendMode then labelAward settings.todoistWeekendLabel 10 task else none,
    durationAward (effectiveDuration settings task),
    undatedAward settings task,
    sectionAward sec task.priority].reduceOption

/-- `score_task`. -/
def scoreTask (settings : Settings) (weekendMode : Bool) (today : Date) (task : Task) :
    Except PyException ScoredTask := do
  let sec ← sectionText lower task.sectionName
  let given := awards settings weekendMode today task sec
  pure { task, score := (given.map Award.points).sum, reasons := given.map Award.reason }

/-- The last day of the calendar is valid. -/
theorem valid_max : 1 ≤ 9999 ∧ 9999 ≤ 9999 ∧ 1 ≤ 12 ∧ 12 ≤ 12 ∧ 1 ≤ 31 ∧
    31 ≤ daysInMonth 9999 12 := by decide

/-- `date.max`. -/
def dateMax : Date := ⟨9999, 12, 31, valid_max⟩

/-- The key `rank_tasks` sorts by. -/
def sortKey (scored : ScoredTask) : Int ×ₗ Int ×ₗ Int ×ₗ String :=
  toLex (-scored.score, toLex ((scored.task.dueDate.getD dateMax).ordinal,
    toLex (-scored.task.priority, lower scored.task.content)))

/-- `scored.sort(key=…)`. -/
def sortScored (scored : List ScoredTask) : List ScoredTask :=
  scored.mergeSort fun first second => decide (sortKey lower first ≤ sortKey lower second)

/-- `rank_tasks`. -/
def rankTasks (settings : Settings) (weekendMode : Bool) (today : Date) (tasks : List Task) :
    Except PyException (List ScoredTask) := do
  let scored ← tasks.mapM (scoreTask lower settings weekendMode today)
  pure (sortScored lower scored)

end Lower

end VelaFlow.Planner
