import VelaFlow.Planner.Urgency
import VelaFlow.Planner.Weekend

/-!
# What a weekend plan keeps to

The loop of the weekend digest sends each task it looks at to one slot. The minutes used on a day
never go down, so a task that did not fit when it was looked at does not fit in the end.
-/
namespace VelaFlow.Planner

/-- Where a task is placed. -/
inductive Slot where
  /-- On Saturday. -/
  | saturday
  /-- On Sunday. -/
  | sunday
  /-- On neither day. -/
  | overflow
  deriving DecidableEq

/-- The tasks that were sent to a slot, in order. -/
def inSlot (slot : Slot) (sent : List (Slot × ScoredTask)) : List ScoredTask :=
  (sent.filter fun one => decide (one.1 = slot)).map Prod.snd

/-- The minutes of the given tasks. -/
def taskMinutes (settings : Settings) (tasks : List ScoredTask) : Int :=
  (tasks.map fun scored => effectiveDuration settings scored.task).sum

/-- A task fits on neither day. -/
def FitsNowhere (settings : Settings) (free : FreeMinutes) (tasks : Allocation)
    (scored : ScoredTask) : Prop :=
  free.saturday < tasks.saturdayUsed + effectiveDuration settings scored.task ∧
    free.sunday < tasks.sundayUsed + effectiveDuration settings scored.task

/-- What the loop keeps to for the tasks it has sent. -/
structure Allocated (settings : Settings) (free : FreeMinutes) (sent : List (Slot × ScoredTask))
    (tasks : Allocation) : Prop where
  /-- Saturday has what was sent there. -/
  saturday : tasks.saturday = inSlot .saturday sent
  /-- So has Sunday. -/
  sunday : tasks.sunday = inSlot .sunday sent
  /-- The rest overflows. -/
  overflow : tasks.overflow = inSlot .overflow sent
  /-- Saturday's minutes are counted. -/
  saturdayUsed : tasks.saturdayUsed = taskMinutes settings tasks.saturday
  /-- So are Sunday's. -/
  sundayUsed : tasks.sundayUsed = taskMinutes settings tasks.sunday
  /-- Saturday's tasks fit. -/
  saturdayFits : tasks.saturdayUsed ≤ free.saturday
  /-- So do Sunday's. -/
  sundayFits : tasks.sundayUsed ≤ free.sunday
  /-- What overflows fits on neither day. -/
  nowhere : ∀ scored ∈ tasks.overflow, FitsNowhere settings free tasks scored

/-- The loop over the candidates went as it should. -/
structure Planned (settings : Settings) (free : FreeMinutes) (ranked : List ScoredTask)
    (tasks : Allocation) : Prop where
  /-- It sent the first candidates, one by one, and stopped early only at the limit. -/
  run : ∃ sent left, candidates settings ranked = sent.map Prod.snd ++ left ∧
    Allocated settings free sent tasks ∧ (left ≠ [] → tasks.placed = settings.weekendTaskLimit)
  /-- It placed as many tasks as allowed at most. -/
  limited : tasks.placed ≤ settings.weekendTaskLimit

/-- The minutes that events leave of a day's capacity. -/
def LeavesFree (settings : Settings) (events : List CalendarEvent) (free : Int) : Prop :=
  ∃ minutes, events.mapM durationMinutes = .ok minutes ∧
    free = max 0 (settings.weekendCapacityHours * 60 - minutes.sum)

/-- The plan of a weekend is as it should be. -/
structure WellPlanned (settings : Settings) (days : WeekendDays) (ranked : List ScoredTask)
    (events : List CalendarEvent) (weekend : Weekend) : Prop where
  /-- It is the plan of these days. -/
  sameDays : weekend.days = days
  /-- Saturday's events are those that start on it. -/
  saturdayEvents : weekend.saturdayEvents = eventsOn days.saturday events
  /-- So are Sunday's. -/
  sundayEvents : weekend.sundayEvents = eventsOn days.sunday events
  /-- They leave Saturday's minutes free. -/
  saturdayFree : LeavesFree settings weekend.saturdayEvents weekend.free.saturday
  /-- They leave Sunday's minutes free. -/
  sundayFree : LeavesFree settings weekend.sundayEvents weekend.free.sunday
  /-- The tasks are planned. -/
  planned : Planned settings weekend.free ranked weekend.tasks

/-- An event does not end before it starts. -/
def Ordered (event : CalendarEvent) : Prop :=
  ∀ start finish, event.start = some start → event.finish = some finish →
    start.offset.isSome = finish.offset.isSome ∧ start.instant ≤ finish.instant

/-- A task does not take less than no time. -/
def HasDuration (task : Task) : Prop := ∀ minutes, task.durationMinutes = some minutes → 0 ≤ minutes

/-- The minutes that are free besides the given minutes of events. -/
def leaves (settings : Settings) (saturday sunday : List Int) : FreeMinutes where
  saturday := max 0 (settings.weekendCapacityHours * 60 - saturday.sum)
  sunday := max 0 (settings.weekendCapacityHours * 60 - sunday.sum)

section Loop

variable {settings : Settings} {free : FreeMinutes}

/-- What is sent last comes last in its slot. -/
theorem inSlot_append (slot target : Slot) (sent : List (Slot × ScoredTask)) (scored : ScoredTask) :
    inSlot slot (sent ++ [(target, scored)]) =
      inSlot slot sent ++ if target = slot then [scored] else [] := by
  unfold inSlot
  rw [List.filter_append, List.map_append]
  by_cases same : target = slot
  · simp [same]
  · simp [same]

/-- The minutes of a task that is added are added. -/
theorem taskMinutes_append (tasks : List ScoredTask) (scored : ScoredTask) :
    taskMinutes settings (tasks ++ [scored]) =
      taskMinutes settings tasks + effectiveDuration settings scored.task := by
  simp [taskMinutes]

/-- A task that fits nowhere does not fit later. -/
theorem FitsNowhere.mono {tasks later : Allocation} {scored : ScoredTask}
    (nowhere : FitsNowhere settings free tasks scored)
    (saturday : tasks.saturdayUsed ≤ later.saturdayUsed)
    (sunday : tasks.sundayUsed ≤ later.sundayUsed) : FitsNowhere settings free later scored := by
  have first := nowhere.1
  have second := nowhere.2
  exact ⟨by omega, by omega⟩

/-- A task takes some time. -/
theorem effectiveDuration_nonneg (positive : 0 < settings.defaultTaskDurationMinutes) {task : Task}
    (timed : HasDuration task) : 0 ≤ effectiveDuration settings task := by
  unfold effectiveDuration
  cases given : task.durationMinutes with
  | none => exact positive.le
  | some minutes =>
    have least := timed minutes given
    dsimp only
    split
    · exact positive.le
    · exact least

/-- What the loop keeps to is kept by one task, which is sent to one slot, and at most one more task
is placed. -/
theorem allocated_place {sent : List (Slot × ScoredTask)} {soFar : Allocation} {scored : ScoredTask}
    (fair : Allocated settings free sent soFar)
    (timed : 0 ≤ effectiveDuration settings scored.task) :
    ∃ slot, Allocated settings free (sent ++ [(slot, scored)]) (place settings free soFar scored) ∧
      (place settings free soFar scored).placed ≤ soFar.placed + 1 := by
  have stays : ∀ later : Allocation, later.overflow = soFar.overflow →
      soFar.saturdayUsed ≤ later.saturdayUsed → soFar.sundayUsed ≤ later.sundayUsed →
      ∀ one ∈ later.overflow, FitsNowhere settings free later one := by
    intro later same saturday sunday one inside
    rw [same] at inside
    exact (fair.nowhere one inside).mono saturday sunday
  have onSaturday
      (room : soFar.saturdayUsed + effectiveDuration settings scored.task ≤ free.saturday) :
      ∃ slot, Allocated settings free (sent ++ [(slot, scored)]) { soFar with
        saturday := soFar.saturday ++ [scored],
        saturdayUsed := soFar.saturdayUsed + effectiveDuration settings scored.task } := by
    refine ⟨.saturday, ?_, ?_, ?_, ?_, fair.sundayUsed, room, fair.sundayFits, ?_⟩
    · rw [inSlot_append, fair.saturday, if_pos rfl]
    · rw [inSlot_append, fair.sunday, if_neg (by decide), List.append_nil]
    · rw [inSlot_append, fair.overflow, if_neg (by decide), List.append_nil]
    · rw [taskMinutes_append, fair.saturdayUsed]
    · exact stays _ rfl (Int.le_add_of_nonneg_right timed) (Int.le_refl _)
  unfold place
  dsimp only
  split
  case isTrue preferred =>
    obtain ⟨slot, fairly⟩ := onSaturday preferred.2
    refine ⟨slot, fairly, ?_⟩
    simp only [Allocation.placed, List.length_append, List.length_singleton]
    omega
  case isFalse =>
    split
    case isTrue room =>
      refine ⟨.sunday, ⟨?_, ?_, ?_, fair.saturdayUsed, ?_, fair.saturdayFits, room, ?_⟩, ?_⟩
      · rw [inSlot_append, fair.saturday, if_neg (by decide), List.append_nil]
      · rw [inSlot_append, fair.sunday, if_pos rfl]
      · rw [inSlot_append, fair.overflow, if_neg (by decide), List.append_nil]
      · rw [taskMinutes_append, fair.sundayUsed]
      · exact stays _ rfl (Int.le_refl _) (Int.le_add_of_nonneg_right timed)
      · simp only [Allocation.placed, List.length_append, List.length_singleton]
        omega
    case isFalse full =>
      split
      case isTrue room =>
        obtain ⟨slot, fairly⟩ := onSaturday room
        refine ⟨slot, fairly, ?_⟩
        simp only [Allocation.placed, List.length_append, List.length_singleton]
        omega
      case isFalse noRoom =>
        refine ⟨.overflow, ⟨?_, ?_, ?_, fair.saturdayUsed, fair.sundayUsed, fair.saturdayFits,
          fair.sundayFits, ?_⟩, ?_⟩
        · rw [inSlot_append, fair.saturday, if_neg (by decide), List.append_nil]
        · rw [inSlot_append, fair.sunday, if_neg (by decide), List.append_nil]
        · rw [inSlot_append, fair.overflow, if_pos rfl]
        · intro one inside
          cases List.mem_append.mp inside with
          | inl before => exact fair.nowhere one before
          | inr last =>
            rw [List.mem_singleton.mp last]
            exact ⟨Int.not_le.mp noRoom, Int.not_le.mp full⟩
        · exact Int.le_add_one (Int.le_refl _)

/-- What the loop keeps to is kept by the whole loop, which stops early only at the limit. -/
theorem allocated_allocate {tasks : List ScoredTask}
    (timed : ∀ scored ∈ tasks, 0 ≤ effectiveDuration settings scored.task)
    {sent : List (Slot × ScoredTask)} {soFar : Allocation}
    (fair : Allocated settings free sent soFar) (below : soFar.placed < settings.weekendTaskLimit) :
    ∃ more left, tasks = more.map Prod.snd ++ left ∧
      Allocated settings free (sent ++ more) (allocate settings free tasks soFar) ∧
      (allocate settings free tasks soFar).placed ≤ settings.weekendTaskLimit ∧
      (left ≠ [] → (allocate settings free tasks soFar).placed = settings.weekendTaskLimit) := by
  induction tasks generalizing sent soFar with
  | nil =>
    refine ⟨[], [], rfl, ?_, below.le, fun some => absurd rfl some⟩
    rw [List.append_nil]
    exact fair
  | cons scored rest ih =>
    obtain ⟨slot, next, one⟩ := allocated_place fair (timed scored List.mem_cons_self)
    unfold allocate
    dsimp only
    split
    case isTrue reached =>
      have atLimit : (place settings free soFar scored).placed = settings.weekendTaskLimit := by
        omega
      exact ⟨[(slot, scored)], rest, rfl, next, atLimit.le, fun _ => atLimit⟩
    case isFalse more' =>
      have later : ∀ other ∈ rest, 0 ≤ effectiveDuration settings other.task := fun other inside =>
        timed other (List.mem_cons_of_mem _ inside)
      obtain ⟨more, left, split, fairly, limited, early⟩ := ih later next (Int.not_le.mp more')
      refine ⟨(slot, scored) :: more, left, ?_, ?_, limited, early⟩
      · rw [split]
        rfl
      · rw [List.append_assoc] at fairly
        exact fairly

/-- Nothing is sent before the loop. -/
theorem allocated_nil (saturday : 0 ≤ free.saturday) (sunday : 0 ≤ free.sunday) :
    Allocated settings free [] {} :=
  ⟨rfl, rfl, rfl, rfl, rfl, saturday, sunday, fun _ nothing => absurd nothing List.not_mem_nil⟩

/-- The loop over the candidates goes as it should. -/
theorem planned_allocate {ranked : List ScoredTask} (limit : 0 ≤ settings.weekendTaskLimit)
    (timed : ∀ scored ∈ ranked, 0 ≤ effectiveDuration settings scored.task)
    (saturday : 0 ≤ free.saturday) (sunday : 0 ≤ free.sunday) :
    Planned settings free ranked (allocate settings free (candidates settings ranked) {}) := by
  have start : Allocated settings free [] {} := allocated_nil saturday sunday
  by_cases none : settings.weekendTaskLimit = 0
  · have empty : candidates settings ranked = [] := by
      unfold candidates upTo
      rw [none]
      exact @List.take_zero _ ranked
    rw [empty]
    have placed : (allocate settings free [] {}).placed = settings.weekendTaskLimit := by
      rw [none]
      rfl
    exact ⟨⟨[], [], empty, start, fun some => absurd rfl some⟩, placed.le⟩
  · have below : (Allocation.mk [] [] [] 0 0).placed < settings.weekendTaskLimit := by
      show (0 : Int) < _
      omega
    have candidateTimed : ∀ scored ∈ candidates settings ranked,
        0 ≤ effectiveDuration settings scored.task := by
      intro scored inside
      unfold candidates upTo at inside
      split at inside
      · exact timed scored (List.mem_of_mem_take inside)
      · exact timed scored (List.mem_of_mem_take inside)
    obtain ⟨more, left, split, fair, limited, early⟩ :=
      allocated_allocate candidateTimed start below
    exact ⟨⟨more, left, split, fair, early⟩, limited⟩

/-- The minutes of events that do not end before they start are known. -/
theorem mapM_durationMinutes {events : List CalendarEvent}
    (ordered : ∀ event ∈ events, Ordered event) :
    ∃ minutes, events.mapM durationMinutes = .ok minutes := by
  refine mapM_ok_exists_iff.mpr fun event inside => ?_
  unfold durationMinutes
  split
  case h_1 start finish starts ends =>
    have same := (ordered event inside start finish starts ends).1
    rw [if_pos same]
    exact ⟨_, rfl⟩
  case h_2 => exact ⟨0, rfl⟩

/-- The plan of a weekend is as it should be. -/
theorem wellPlanned_planWeekend {days : WeekendDays} {ranked : List ScoredTask}
    {events : List CalendarEvent} (limit : 0 ≤ settings.weekendTaskLimit)
    (timed : ∀ scored ∈ ranked, 0 ≤ effectiveDuration settings scored.task)
    (ordered : ∀ event ∈ events, Ordered event) :
    ∃ weekend, planWeekend settings days ranked events = .ok weekend ∧
      WellPlanned settings days ranked events weekend := by
  have onDay : ∀ day, ∃ minutes, (eventsOn day events).mapM durationMinutes = .ok minutes :=
    fun day => mapM_durationMinutes fun event inside => ordered event (List.mem_filter.mp inside).1
  obtain ⟨saturday, saturdayMinutes⟩ := onDay days.saturday
  obtain ⟨sunday, sundayMinutes⟩ := onDay days.sunday
  have planned : planWeekend settings days ranked events = .ok {
      days, saturdayEvents := eventsOn days.saturday events,
      sundayEvents := eventsOn days.sunday events,
      free := leaves settings saturday sunday,
      tasks :=
        allocate settings (leaves settings saturday sunday) (candidates settings ranked) {} } := by
    unfold planWeekend bookedMinutes
    dsimp only
    rw [saturdayMinutes, sundayMinutes]
    rfl
  exact ⟨_, planned, rfl, rfl, rfl, ⟨saturday, saturdayMinutes, rfl⟩,
    ⟨sunday, sundayMinutes, rfl⟩, planned_allocate limit timed (le_max_left 0 _) (le_max_left 0 _)⟩

end Loop

/-- The weekend digest shows a plan that sends each task it looks at to one slot in the order of the
ranking, keeps to the free minutes and to the limit, and leaves out only what fits nowhere. -/
theorem weekend_wellPlanned (lower : String → String) (repr : Json → String) (settings : Settings)
    (today : Date) (tasks : List Task) (events : List CalendarEvent)
    (named : ∀ task ∈ tasks, HasNamedSection task) (timed : ∀ task ∈ tasks, HasDuration task)
    (positive : 0 < settings.defaultTaskDurationMinutes) (limit : 0 ≤ settings.weekendTaskLimit)
    (ordered : ∀ event ∈ events, Ordered event) :
    ∃ ranked, rankTasks lower settings true today tasks = .ok ranked ∧
      ∀ days, ∃ weekend, WellPlanned settings days ranked events weekend ∧
        (weekendDays today = .ok days →
          buildWeekendDigest lower repr settings today tasks events =
            .ok (renderWeekend repr settings today weekend)) := by
  have ranks := @rankTasks_eq lower settings true today tasks named
  have rankTimed : ∀ entry ∈ sortBy (sortKey lower) (tasks.map (scored lower settings true today)),
      0 ≤ effectiveDuration settings entry.task := by
    intro ranked inside
    have among := (stablySorted_sortBy _ _).perm.mem_iff.mp inside
    obtain ⟨task, isTask, rfl⟩ := List.mem_map.mp among
    exact effectiveDuration_nonneg positive (timed task isTask)
  refine ⟨_, ranks, fun days => ?_⟩
  obtain ⟨weekend, planned, well⟩ := wellPlanned_planWeekend limit rankTimed ordered
  refine ⟨weekend, well, fun dated => ?_⟩
  unfold buildWeekendDigest
  rw [dated, ranks]
  show (planWeekend settings days _ events >>= _) = _
  rw [planned]
  rfl

section Sample

/-- The weekend of two tasks without an event. -/
theorem weekend_wellPlanned_samplePair :
    ∃ ranked, rankTasks id {} true firstDay samplePair = .ok ranked ∧
      ∀ days, ∃ weekend, WellPlanned {} days ranked [] weekend ∧
        (weekendDays firstDay = .ok days →
          buildWeekendDigest id (fun _ => "") {} firstDay samplePair [] =
            .ok (renderWeekend (fun _ => "") {} firstDay weekend)) :=
  weekend_wellPlanned id (fun _ => "") {} firstDay samplePair [] hasNamedSection_samplePair
    (fun task inside minutes given => by
      cases List.mem_pair.mp inside with
      | inl is =>
        rw [is] at given
        cases given
      | inr is =>
        rw [is] at given
        cases given)
    (by decide) (by decide) (fun _ nothing => absurd nothing List.not_mem_nil)

end Sample

end VelaFlow.Planner
