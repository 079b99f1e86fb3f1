import VelaFlow.Planner.Digest

/-!
# The weekend digest of `planner.py`

`build_weekend_digest` reserves the time of the events of the coming Saturday and Sunday, and then
places the ranked tasks one after the other on a day that still has room for them, until enough are
placed. A task that fits on neither day overflows. The minutes of an event are divided exactly; the
floats of the source give the same for events of less than a century.
-/
namespace VelaFlow.Planner

/-- `weekday()`, which is zero on Monday. -/
def weekday (date : Date) : Int := (date.ordinal + 6) % 7

/-- `days_to_sat`. -/
def daysToSaturday (today : Date) : Nat :=
  let days := (5 - weekday today) % 7
  if days = 0 ∧ weekday today ≠ 5 then 7 else days.toNat

/-- `date + timedelta(days=count)`. -/
def laterDay (date : Date) (count : Nat) : Except PyException Date :=
  match date.addDays count with
  | some later => .ok later
  | none => .error (.other "OverflowError" "date value out of range")

/-- The two days of a weekend. -/
structure WeekendDays where
  /-- `saturday`. -/
  saturday : Date
  /-- `sunday`. -/
  sunday : Date

/-- The days of the coming weekend. -/
def weekendDays (today : Date) : Except PyException WeekendDays := do
  let saturday ← laterDay today (daysToSaturday today)
  let sunday ← laterDay saturday 1
  pure { saturday, sunday }

/-- `CalendarEvent.duration_minutes`. Times with and without an offset are not subtracted. -/
def durationMinutes (event : CalendarEvent) : Except PyException Int :=
  match event.start, event.finish with
  | some start, some finish =>
    if start.offset.isSome = finish.offset.isSome then
      .ok ((finish.instant - start.instant).tdiv 60000000)
    else .error (.typeError "can't subtract offset-naive and offset-aware datetimes")
  | _, _ => .ok 0

/-- The events that start on a day. -/
def eventsOn (day : Date) (events : List CalendarEvent) : List CalendarEvent :=
  events.filter fun event => event.start.any fun start => decide (start.date = day)

/-- The minutes that are booked by events. -/
def bookedMinutes (events : List CalendarEvent) : Except PyException Int := do
  let minutes ← events.mapM durationMinutes
  pure minutes.sum

/-- The tasks on each day, those on neither, and the minutes the days give to tasks. -/
structure Allocation where
  /-- `sat_tasks`. -/
  saturday : List ScoredTask := []
  /-- `sun_tasks`. -/
  sunday : List ScoredTask := []
  /-- `overflow`. -/
  overflow : List ScoredTask := []
  /-- `sat_used`. -/
  saturdayUsed : Int := 0
  /-- `sun_used`. -/
  sundayUsed : Int := 0

/-- The number of placed tasks. -/
def Allocation.placed (allocation : Allocation) : Int :=
  allocation.saturday.length + allocation.sunday.length

/-- The minutes that events leave free on the two days. -/
structure FreeMinutes where
  /-- `sat_free`. -/
  saturday : Int
  /-- `sun_free`. -/
  sunday : Int

section Allocate

variable (settings : Settings) (free : FreeMinutes)

/-- What the loop does with one task. -/
def place (soFar : Allocation) (scored : ScoredTask) : Allocation :=
  let duration := effectiveDuration settings scored.task
  let onSaturday := { soFar with
    saturday := soFar.saturday ++ [scored], saturdayUsed := soFar.saturdayUsed + duration }
  if settings.todoistFocusLabel ∈ scored.task.labels ∧
      soFar.saturdayUsed + duration ≤ free.saturday then onSaturday
  else if soFar.sundayUsed + duration ≤ free.sunday then
    { soFar with sunday := soFar.sunday ++ [scored], sundayUsed := soFar.sundayUsed + duration }
  else if soFar.saturdayUsed + duration ≤ free.saturday then onSaturday
  else { soFar with overflow := soFar.overflow ++ [scored] }

/-- The loop over the tasks, which ends when enough are placed. -/
def allocate : List ScoredTask → Allocation → Allocation
  | [], soFar => soFar
  | scored :: rest, soFar =>
    let next := place settings free soFar scored
    if settings.weekendTaskLimit ≤ next.placed then next else allocate rest next

end Allocate

/-- What the digest shows of a weekend. -/
structure Weekend where
  /-- Its days. -/
  days : WeekendDays
  /-- `sat_events`. -/
  saturdayEvents : List CalendarEvent
  /-- `sun_events`. -/
  sundayEvents : List CalendarEvent
  /-- The free minutes. -/
  free : FreeMinutes
  /-- The tasks. -/
  tasks : Allocation

/-- The tasks that are looked at, `ranked[: settings.weekend_task_limit * 2]`. -/
def candidates (settings : Settings) (ranked : List ScoredTask) : List ScoredTask :=
  upTo (settings.weekendTaskLimit * 2) ranked

/-- The plan of a weekend for ranked tasks. -/
def planWeekend (settings : Settings) (days : WeekendDays) (ranked : List ScoredTask)
    (events : List CalendarEvent) : Except PyException Weekend := do
  let capacity := settings.weekendCapacityHours * 60
  let saturdayEvents := eventsOn days.saturday events
  let sundayEvents := eventsOn days.sunday events
  let saturdayBooked ← bookedMinutes saturdayEvents
  let sundayBooked ← bookedMinutes sundayEvents
  let free := {
    saturday := max 0 (capacity - saturdayBooked), sunday := max 0 (capacity - sundayBooked) }
  let tasks := allocate settings free (candidates settings ranked) {}
  pure { days, saturdayEvents, sundayEvents, free, tasks }

/-- `strftime("%B %d")`. -/
def monthDay (date : Date) : String := monthName date ++ " " ++ twoDigits date.day

/-- The line of an event in the weekend digest. -/
def weekendEventLine (event : CalendarEvent) : String :=
  let time :=
    match event.start with
    | some start => if event.allDay then "All day" else start.clockText
    | none => "All day"
  "    🕐 " ++ time ++ "  " ++ event.summary

section Text

variable (lower : String → String) (repr : Json → String) (settings : Settings) (today : Date)

/-- The lines of a day. -/
def dayLines (name title : String) (day : Date) (events : List CalendarEvent)
    (tasks : List ScoredTask) : List String :=
  headed ("📅 " ++ name ++ " — " ++ monthDay day)
    ((if events = [] then [] else "  Events:" :: events.map weekendEventLine) ++
      if tasks ≠ [] then "  Tasks:" :: tasks.map (formatTaskLine repr today)
      else if events = [] then ["  No tasks scheduled. Enjoy your " ++ title ++ "!"] else [])

/-- The lines of the tasks that did not fit. -/
def overflowLines (overflow : List ScoredTask) : List String :=
  if overflow = [] then []
  else headed s!"⏳ DEFER OR SPLIT ({overflow.length} tasks didn't fit)"
    ((overflow.take 5).map (formatTaskLine repr today) ++
      ["\n  💡 Consider: splitting long tasks, moving to next week, or delegating."])

/-- The lines about the time of the family. -/
def familyLines : List String :=
  headed "👨‍👩‍👧 FAMILY TIME PROTECTION"
    ["  Remember: Tasks are scheduled around events.",
      "  Demanding tasks → morning (peak energy).",
      "  Keep buffer time between tasks (30 min).",
      "  Family activities always take priority."]

/-- The digest that shows a weekend. -/
def renderWeekend (weekend : Weekend) : DigestResult where
  subject := "🗓️ Weekend Plan — " ++ shortName (monthName weekend.days.saturday) ++ " " ++
    twoDigits weekend.days.saturday.day ++ "-" ++ twoDigits weekend.days.sunday.day ++
    s!" | {weekend.tasks.placed} tasks"
  bodyText := "\n".intercalate (
    ["🗓️ Weekend Planner — " ++ monthDay weekend.days.saturday ++ "-" ++
        twoDigits weekend.days.sunday.day ++ ", " ++
        String.ofList (digits 4 weekend.days.sunday.year),
      String.ofList (List.replicate 50 '='),
      s!"\n⏰ Capacity: {settings.weekendCapacityHours}h/day | " ++
        s!"Sat free: {weekend.free.saturday}min | Sun free: {weekend.free.sunday}min"] ++
    dayLines repr today "SATURDAY" "Saturday" weekend.days.saturday weekend.saturdayEvents
      weekend.tasks.saturday ++
    dayLines repr today "SUNDAY" "Sunday" weekend.days.sunday weekend.sundayEvents
      weekend.tasks.sunday ++
    overflowLines repr today weekend.tasks.overflow ++ familyLines)

/-- `build_weekend_digest`. -/
def buildWeekendDigest (tasks : List Task) (events : List CalendarEvent) :
    Except PyException DigestResult := do
  let days ← weekendDays today
  let ranked ← rankTasks lower settings true today tasks
  let weekend ← planWeekend settings days ranked events
  pure (renderWeekend repr settings today weekend)

end Text

end VelaFlow.Planner
