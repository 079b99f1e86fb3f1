import VelaFlow.Foundation.Calendar
import VelaFlow.Planner.Scoring

/-!
# The daily digest of `planner.py`

`build_daily_digest` sorts the ranked tasks into sections, picks the top priorities, and writes
the sections out line by line. The settings enter through the ranking, the focus label and two
limits.
-/
namespace VelaFlow.Planner

/-- `strftime("%A")`. -/
def weekdayName (date : Date) : String :=
  match (date.ordinal + 6) % 7 with
  | 0 => "Monday"
  | 1 => "Tuesday"
  | 2 => "Wednesday"
  | 3 => "Thursday"
  | 4 => "Friday"
  | 5 => "Saturday"
  | _ => "Sunday"

/-- `strftime("%B")`. -/
def monthName (date : Date) : String :=
  match date.month with
  | 1 => "January"
  | 2 => "February"
  | 3 => "March"
  | 4 => "April"
  | 5 => "May"
  | 6 => "June"
  | 7 => "July"
  | 8 => "August"
  | 9 => "September"
  | 10 => "October"
  | 11 => "November"
  | _ => "December"

/-- `name[:3]`, which is `%a` of `%A` and `%b` of `%B`. -/
def shortName (name : String) : String := String.ofList (name.toList.take 3)

/-- A number in two digits. -/
def twoDigits (value : Nat) : String := String.ofList (digits 2 value)

/-- `strftime("%A, %B %d, %Y")`. -/
def longDate (date : Date) : String :=
  weekdayName date ++ ", " ++ monthName date ++ " " ++ twoDigits date.day ++ ", " ++
    String.ofList (digits 4 date.year)

/-- `strftime("%a %b %d")`. -/
def shortDate (date : Date) : String :=
  shortName (weekdayName date) ++ " " ++ shortName (monthName date) ++ " " ++ twoDigits date.day

/-- `strftime("%a %d")`. -/
def shortDay (date : Date) : String := shortName (weekdayName date) ++ " " ++ twoDigits date.day

/-- `_priority_icon`. -/
def priorityIcon (priority : Int) : String :=
  if priority = 4 then "🔴" else if priority = 3 then "🟠" else if priority = 2 then "🟡" else "⚪"

/-- The due date in a task's line. -/
def dueText (today : Date) : Option Date → String
  | none => ""
  | some due =>
    if due.ordinal < today.ordinal then s!" ⚠️ {today.ordinal - due.ordinal}d overdue"
    else if due = today then " 📅 today"
    else " 📅 " ++ shortDay due

/-- The duration in a task's line. -/
def durationText : Option Int → String
  | none => ""
  | some minutes =>
    if minutes = 0 then ""
    else if 60 ≤ minutes then
      let hours := minutes / 60
      let rest := minutes % 60
      if rest = 0 then s!" ⏱️ {hours}h" else s!" ⏱️ {hours}h" ++ twoDigits rest.toNat ++ "m"
    else s!" ⏱️ {minutes}min"

/-- A line of thirty dashes. -/
def rule : String := String.ofList (List.replicate 30 '-')

/-- `items[:limit]`. -/
def upTo {α : Type} (limit : Int) (items : List α) : List α :=
  if limit < 0 then items.take (items.length - limit.natAbs) else items.take limit.toNat

/-- The tasks of the digest by section. -/
structure Sections where
  /-- The number of all tasks. -/
  total : Nat
  /-- `overdue`. -/
  overdue : List ScoredTask
  /-- `due_today`. -/
  dueToday : List ScoredTask
  /-- `focus`. -/
  focus : List ScoredTask
  /-- `upcoming`. -/
  upcoming : List ScoredTask
  /-- `top`. -/
  top : List ScoredTask

/-- Whether a task is due before a day. -/
def isOverdue (today : Date) (scored : ScoredTask) : Bool :=
  scored.task.dueDate.any fun due => decide (due.ordinal < today.ordinal)

/-- Whether a task is due on a day. -/
def isDueToday (today : Date) (scored : ScoredTask) : Bool :=
  scored.task.dueDate.any fun due => decide (due = today)

/-- Whether a task is due after a day. -/
def isUpcoming (today : Date) (scored : ScoredTask) : Bool :=
  scored.task.dueDate.any fun due => decide (today.ordinal < due.ordinal)

/-- Whether a task is in the `focus` of a day. A ranked task is in `overdue` or `due_today` when it
is due then: equal tasks have one due date. -/
def isFocus (settings : Settings) (today : Date) (scored : ScoredTask) : Bool :=
  decide (settings.todoistFocusLabel ∈ scored.task.labels) &&
    !isOverdue today scored && !isDueToday today scored

/-- The loop that fills `top` from the ranked tasks. -/
def fillTop (limit : Int) : List ScoredTask → List String → List ScoredTask → List ScoredTask
  | [], _, top => top
  | scored :: rest, seenIds, top =>
    if scored.task.id ∉ seenIds ∧ (top.length : Int) < limit then
      fillTop limit rest (scored.task.id :: seenIds) (top ++ [scored])
    else fillTop limit rest seenIds top

/-- The sections of the ranked tasks. -/
def sections (settings : Settings) (today : Date) (ranked : List ScoredTask) : Sections where
  total := ranked.length
  overdue := ranked.filter (isOverdue today)
  dueToday := ranked.filter (isDueToday today)
  focus := ranked.filter (isFocus settings today)
  upcoming := (ranked.filter fun scored =>
    isUpcoming today scored && !isFocus settings today scored).take 7
  top := fillTop settings.dailyTopTaskLimit ranked [] []

/-- The lines of one top priority, by its rank. -/
def topLines (scored : ScoredTask) (rank : Nat) : List String :=
  s!"  {rank}. {scored.task.content}" ::
    if scored.reasons = [] then [] else ["     → " ++ ", ".intercalate (scored.reasons.take 3)]

/-- The line of an event. -/
def eventLine (event : CalendarEvent) : String :=
  let time :=
    match event.start with
    | some start =>
      if event.allDay then "All day"
      else start.clockText ++ (event.finish.elim "" fun finish => "-" ++ finish.clockText)
    | none => if event.allDay then "All day" else ""
  "  🕐 " ++ time ++ "  " ++ event.summary

/-- `sender.split("<")[0].strip() if "<" in sender else sender`. -/
def senderShort (sender : String) : String :=
  if '<' ∈ sender.toList then String.ofList (strip (sender.toList.takeWhile (· ≠ '<'))) else sender

/-- The lines under a heading. -/
def headed (heading : String) (lines : List String) : List String := ("\n" ++ heading) :: rule :: lines

/-- A part of the digest that is left out when it has no content. -/
def optional (heading : String) (lines : List String) : List String :=
  if lines = [] then [] else headed heading lines

section Text

variable (lower : String → String) (repr : Json → String)

/-- `_format_task_line`. -/
def formatTaskLine (today : Date) (scored : ScoredTask) : String :=
  let task := scored.task
  let project := if task.projectName.truthy then " [" ++ str repr task.projectName ++ "]" else ""
  let sec := if task.sectionName.truthy then " §" ++ str repr task.sectionName else ""
  "  " ++ priorityIcon task.priority ++ " " ++ task.content ++ project ++ sec ++
    dueText today task.dueDate ++ durationText task.durationMinutes

/-- The lines of the digest after the top priorities. -/
def laterLines (settings : Settings) (today : Date) (parts : Sections)
    (events : List CalendarEvent) (emails : List EmailAlert) : List String :=
  let taskLines := List.map (formatTaskLine repr today)
  (if parts.overdue = [] then []
    else headed s!"⚠️ OVERDUE ({parts.overdue.length} tasks)"
      (taskLines (upTo settings.overdueSectionLimit parts.overdue))) ++
  optional s!"📅 DUE TODAY ({parts.dueToday.length} tasks)" (taskLines parts.dueToday) ++
  optional s!"📆 CALENDAR ({events.length} events)" (events.map eventLine) ++
  optional s!"🎯 LONG-TERM PRIORITIES (@{settings.todoistFocusLabel})"
    (taskLines (parts.focus.take 5)) ++
  optional "📆 COMING UP (next 7 days)" (taskLines parts.upcoming) ++
  optional s!"📧 UNREAD IMPORTANT EMAILS ({emails.length})"
    ((emails.take 10).map fun email => s!"  📩 {senderShort email.sender}: {email.subject}")

/-- The lines of the digest before the top priorities. -/
def openingLines (today : Date) (parts : Sections) : List String :=
  ["📋 Daily Briefing — " ++ longDate today, String.ofList (List.replicate 50 '='),
    s!"\n📊 {parts.total} active tasks | {parts.overdue.length} overdue | " ++
      s!"{parts.dueToday.length} due today"]

/-- The lines of the top priorities. -/
def priorityLines (top : List ScoredTask) : List String :=
  headed s!"🎯 TOP {top.length} PRIORITIES"
    ((top.zipIdx 1).flatMap fun (scored, rank) => topLines scored rank)

/-- The digest that shows the given sections. -/
def renderDaily (settings : Settings) (today : Date) (parts : Sections)
    (events : List CalendarEvent) (emails : List EmailAlert) : DigestResult where
  subject := "🧠 Daily Briefing — " ++ shortDate today ++
    s!" | {parts.overdue.length} overdue, {parts.dueToday.length} today"
  bodyText := "\n".intercalate (openingLines today parts ++ priorityLines parts.top ++
    laterLines repr settings today parts events emails)

/-- `build_daily_digest`. -/
def buildDailyDigest (settings : Settings) (today : Date) (tasks : List Task)
    (events : List CalendarEvent) (emails : List EmailAlert) : Except PyException DigestResult := do
  let ranked ← rankTasks lower settings false today tasks
  pure (renderDaily repr settings today (sections settings today ranked) events emails)

end Text

end VelaFlow.Planner
