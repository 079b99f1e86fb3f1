import Mathlib.Data.List.Nodup
import VelaFlow.Notion.Writes

/-!
# Whether Notion mirrors Todoist

The request that writes a task names a due date, labels, a duration and notes only when the task
has them. So a page goes on showing what an earlier version of the task had and the present one
lacks. The sync mirrors the tasks exactly when no page has anything to forget.
-/
namespace VelaFlow.Notion

open Program (run)

/-- The text that segments show. -/
def plainText (segments : List String) : String := String.join segments

/-- A page shows a task: its name, priority, due date, labels, duration and notes. -/
structure Shows (task : Task) (properties : Properties) : Prop where
  /-- The sanitised name. -/
  name : plainText (properties .name) = sanitizeText task.content 2000
  /-- The priority. -/
  priority : properties .priority = some (priorityName task.priority)
  /-- The due date, or none. -/
  dueDate : properties .dueDate = task.due.map fun start => { start }
  /-- The sanitised labels. -/
  labels : properties .labels = task.labels.map fun label => sanitizeText label 100
  /-- The duration, or none. -/
  duration : properties .duration = task.durationMinutes.map fun minutes => (minutes : Rat)
  /-- The sanitised notes. -/
  notes : plainText (properties .notes) = sanitizeText task.description 2000

/-- A page has nothing to forget of a task: of what the task lacks it shows nothing, and a duration
of zero only when it shows that. -/
structure Forgotten (task : Task) (properties : Properties) : Prop where
  /-- No due date is left when the task has none. -/
  dueDate : task.due = none → properties .dueDate = none
  /-- No labels are left when the task has none. -/
  labels : task.labels = [] → properties .labels = []
  /-- No duration is left when the task has none. -/
  duration : task.durationMinutes = none → properties .duration = none
  /-- The duration is zero when that of the task is. -/
  zeroDuration : task.durationMinutes = some 0 → properties .duration = some 0
  /-- No notes are left when the task has none. -/
  notes : task.description = "" → plainText (properties .notes) = ""

/-- No duration is written of a task that has none. -/
theorem duration_of_none {task : Task} (lacks : task.durationMinutes = none)
    (includeSection : Bool) : taskToProperties task includeSection .duration = none := by
  simp only [taskToProperties, lacks]

/-- The duration of a task is written unless it is zero. -/
theorem duration_of_some {task : Task} {minutes : Int} (has : task.durationMinutes = some minutes)
    (includeSection : Bool) : taskToProperties task includeSection .duration =
      if minutes = 0 then none else some (some (minutes : Rat)) := by
  simp only [taskToProperties, has]

/-- What is written of a task shows it on a page that has nothing to forget, and on no other. -/
theorem shows_apply_iff {task : Task} {includeSection : Bool} {properties : Properties} :
    Shows task ((taskToProperties task includeSection).apply properties) ↔
      Forgotten task properties := by
  have dueDate : (taskToProperties task includeSection).apply properties .dueDate =
      (task.due.map fun start => some { start : DateValue }).getD (properties .dueDate) := rfl
  have labels : (taskToProperties task includeSection).apply properties .labels =
      (if task.labels = [] then none
        else some (task.labels.map fun label => sanitizeText label 100)).getD
          (properties .labels) := rfl
  have notes : (taskToProperties task includeSection).apply properties .notes =
      (if task.description = "" then none
        else some [sanitizeText task.description 2000]).getD (properties .notes) := rfl
  have duration : (taskToProperties task includeSection).apply properties .duration =
      (taskToProperties task includeSection .duration).getD (properties .duration) := rfl
  constructor
  · intro shows
    constructor
    · intro lacks
      have kept := shows.dueDate
      rw [dueDate, lacks] at kept
      exact kept
    · intro lacks
      have kept := shows.labels
      rw [labels, if_pos lacks, lacks] at kept
      exact kept
    · intro lacks
      have kept := shows.duration
      rw [duration, duration_of_none lacks, lacks] at kept
      exact kept
    · intro zero
      have kept := shows.duration
      rw [duration, duration_of_some zero, if_pos rfl, zero] at kept
      exact kept
    · intro lacks
      have kept := shows.notes
      rw [notes, if_pos lacks, lacks] at kept
      exact kept
  · intro forgotten
    refine ⟨?_, rfl, ?_, ?_, ?_, ?_⟩
    · show "" ++ sanitizeText task.content 2000 = _
      exact String.empty_append
    · rw [dueDate]
      cases due : task.due with
      | none => exact forgotten.dueDate due
      | some start => rfl
    · rw [labels]
      by_cases lacks : task.labels = []
      · rw [if_pos lacks, lacks]
        exact forgotten.labels lacks
      · rw [if_neg lacks]
        rfl
    · rw [duration]
      cases minutes : task.durationMinutes with
      | none =>
        rw [duration_of_none minutes]
        exact forgotten.duration minutes
      | some number =>
        rw [duration_of_some minutes]
        by_cases zero : number = 0
        · subst zero
          rw [if_pos rfl]
          exact forgotten.zeroDuration minutes
        · rw [if_neg zero]
          rfl
    · rw [notes]
      by_cases lacks : task.description = ""
      · rw [if_pos lacks, lacks]
        exact forgotten.notes lacks
      · rw [if_neg lacks]
        show "" ++ sanitizeText task.description 2000 = _
        exact String.empty_append

/-- Whether a page shows a task does not depend on its status. -/
theorem Shows.of_status {task : Task} {first second : Properties} (shows : Shows task first)
    (same : ∀ property, property ≠ .status → second property = first property) :
    Shows task second where
  name := same .name nofun ▸ shows.name
  priority := same .priority nofun ▸ shows.priority
  dueDate := same .dueDate nofun ▸ shows.dueDate
  labels := same .labels nofun ▸ shows.labels
  duration := same .duration nofun ▸ shows.duration
  notes := same .notes nofun ▸ shows.notes

namespace Workspace

/-- What a database shows in the place of a task before the sync: the page that its ID leads to, or
nothing. -/
def shownFor (notion : Workspace) (databaseId : String) (task : Task) : Properties :=
  match (existingMap (notion.query databaseId)).lookup task.id with
  | some pageId => ((notion.page? pageId).map Page.properties).getD Properties.blank
  | none => Properties.blank

/-- A page is the page of a task after the sync: the one that its ID led to, or a new one with
its ID. -/
def IsPageOf (before : Workspace) (databaseId : String) (task : Task) (page : Page) : Prop :=
  match (existingMap (before.query databaseId)).lookup task.id with
  | some pageId => page.id = pageId
  | none => before.page? page.id = none ∧ page.todoistId = sanitizeText task.id 100

/-- The sync of a database mirrors a task: its page shows it. -/
def Mirrors (before after : Workspace) (databaseId : String) (task : Task) : Prop :=
  ∃ page ∈ after.query databaseId, IsPageOf before databaseId task page ∧
    Shows task page.properties

variable {notion : Workspace} {databaseId : String} {tasks : List Task}
  {includeSection markStaleDone : Bool}

/-- Marking a page as done leaves its other properties. -/
theorem properties_update_doneProps (page : Page) {property : Property}
    (other : property ≠ .status) :
    (page.update doneProps).properties property = page.properties property := by
  apply Patch.apply_of_none
  cases property with
  | status => exact absurd rfl other
  | _ => rfl

/-- After the tasks are written, the sync touches no property but the status. -/
theorem exists_touch (notion : Workspace) (databaseId : String) (tasks : List Task)
    (includeSection markStaleDone : Bool) :
    ∃ touch : Nat → Page → Page,
      (∀ id, (notion.synced databaseId includeSection tasks markStaleDone).page? id =
        ((notion.writtenAll databaseId includeSection (existingMap (notion.query databaseId))
          tasks).page? id).map (touch id)) ∧
      ∀ id page, (touch id page).id = page.id ∧ (touch id page).databaseId = page.databaseId ∧
        ∀ property, property ≠ .status →
          (touch id page).properties property = page.properties property := by
  refine ⟨_, fun id => page?_synced notion databaseId includeSection tasks markStaleDone id,
    fun id page => ?_⟩
  split
  · exact ⟨rfl, rfl, fun property other => properties_update_doneProps page other⟩
  · exact ⟨rfl, rfl, fun _ _ => rfl⟩

/-- The page that the ID of a task leads to shows what is written of it. -/
theorem page?_synced_of_lookup (distinct : (tasks.map Task.id).Nodup) {task : Task}
    (member : task ∈ tasks) {id : Nat}
    (found : (existingMap (notion.query databaseId)).lookup task.id = some id) :
    ∃ page, (notion.synced databaseId includeSection tasks markStaleDone).page? id = some page ∧
      page.databaseId = databaseId ∧ ∀ property, property ≠ .status →
        page.properties property =
          (taskToProperties task includeSection).apply (notion.shownFor databaseId task)
            property := by
  rcases exists_touch notion databaseId tasks includeSection markStaleDone with
    ⟨touch, synced, keeps⟩
  rcases page?_of_lookup found with ⟨before, held, inside, -, -⟩
  have wrote : (notion.writtenAll databaseId includeSection
      (existingMap (notion.query databaseId)) tasks).page? id = _ :=
    page?_writtenAll_of_lookup distinct (fun _ _ _ one other => lookup_inj one other)
      (leads_existingMap notion databaseId) member found
  rw [held, Option.map_some] at wrote
  have shown : notion.shownFor databaseId task = before.properties := by
    unfold shownFor
    rw [found]
    show ((notion.page? id).map Page.properties).getD _ = _
    rw [held]
    rfl
  refine ⟨touch id (before.update (taskToProperties task includeSection)), ?_, ?_, ?_⟩
  · rw [synced, wrote, Option.map_some]
  · exact (keeps _ _).2.1.trans inside
  · intro property other
    rw [(keeps _ _).2.2 property other, shown]
    rfl

/-- A page is created for a task whose ID leads to none, and shows what is written of it. -/
theorem page?_synced_of_none {task : Task} (member : task ∈ tasks)
    (missing : (existingMap (notion.query databaseId)).lookup task.id = none) :
    ∃ id page, notion.page? id = none ∧
      (notion.synced databaseId includeSection tasks markStaleDone).page? id = some page ∧
      page.databaseId = databaseId ∧ ∀ property, property ≠ .status →
        page.properties property =
          (taskToProperties task includeSection).apply Properties.blank property := by
  rcases exists_touch notion databaseId tasks includeSection markStaleDone with
    ⟨touch, synced, keeps⟩
  rcases @page?_writtenAll_of_none databaseId includeSection _ notion tasks
    (leads_existingMap notion databaseId) task member missing with ⟨id, new, wrote⟩
  refine ⟨id, touch id ⟨id, databaseId,
    (taskToProperties task includeSection).apply Properties.blank⟩,
    List.getElem?_eq_none new, ?_, ?_, ?_⟩
  · rw [synced, wrote, Option.map_some]
  · exact (keeps _ _).2.1
  · exact fun property other => (keeps _ _).2.2 property other

/-- A page that is new shows what is written of a task whose ID leads to none. -/
theorem exists_of_page?_synced {id : Nat} (new : notion.page? id = none) {page : Page}
    (held : (notion.synced databaseId includeSection tasks markStaleDone).page? id = some page) :
    ∃ task ∈ tasks, ∀ property, property ≠ .status →
      page.properties property =
        (taskToProperties task includeSection).apply Properties.blank property := by
  rcases exists_touch notion databaseId tasks includeSection markStaleDone with
    ⟨touch, synced, keeps⟩
  rw [synced, Option.map_eq_some_iff] at held
  rcases held with ⟨before, wrote, rfl⟩
  have beyond : notion.pages.length ≤ id := List.getElem?_eq_none_iff.mp new
  rcases exists_of_page?_writtenAll (leads_existingMap notion databaseId) beyond wrote with
    ⟨task, member, -, made⟩
  refine ⟨task, member, fun property other => ?_⟩
  rw [(keeps _ _).2.2 property other, made]

/-- A page created for a task never shows a duration of zero. -/
theorem duration_created_ne_zero (task : Task) (includeSection : Bool) :
    (taskToProperties task includeSection).apply Properties.blank .duration ≠ some 0 := by
  show (taskToProperties task includeSection .duration).getD none ≠ some 0
  cases has : task.durationMinutes with
  | none =>
    rw [duration_of_none has]
    exact nofun
  | some minutes =>
    rw [duration_of_some has]
    by_cases zero : minutes = 0
    · rw [if_pos zero]
      exact nofun
    · rw [if_neg zero]
      intro same
      exact zero (Int.cast_eq_zero.mp (Option.some.inj same))

/-- The sync of a database mirrors a task exactly when what it showed in its place has nothing to
forget. -/
theorem mirrors_synced_iff (distinct : (tasks.map Task.id).Nodup) {task : Task}
    (member : task ∈ tasks) :
    Mirrors notion (notion.synced databaseId includeSection tasks markStaleDone) databaseId task ↔
      Forgotten task (notion.shownFor databaseId task) := by
  rw [← @shows_apply_iff _ includeSection]
  unfold Mirrors IsPageOf
  cases found : (existingMap (notion.query databaseId)).lookup task.id with
  | some id =>
    rcases @page?_synced_of_lookup _ _ _ includeSection markStaleDone distinct _ member _ found
      with ⟨page, held, inside, same⟩
    constructor
    · rintro ⟨other, listed, is, shows⟩
      have again := (mem_query.mp listed).1
      rw [show other.id = id from is, held] at again
      cases again
      exact shows.of_status fun property apart => (same property apart).symm
    · intro shows
      have number : page.id = id := id_of_page? held
      refine ⟨page, mem_query.mpr ⟨?_, inside⟩, number, shows.of_status same⟩
      rw [number]
      exact held
  | none =>
    have blank : notion.shownFor databaseId task = Properties.blank := by
      unfold shownFor
      rw [found]
    rw [blank]
    constructor
    · rintro ⟨other, listed, ⟨new, -⟩, shows⟩
      rcases exists_of_page?_synced new (mem_query.mp listed).1 with ⟨maker, -, same⟩
      rw [shows_apply_iff]
      refine ⟨fun _ => rfl, fun _ => rfl, fun _ => rfl, fun zero => ?_, fun _ => rfl⟩
      have shown := shows.duration
      rw [same .duration nofun, zero] at shown
      exact absurd shown (duration_created_ne_zero maker includeSection)
    · intro shows
      rcases @page?_synced_of_none _ _ _ includeSection markStaleDone _ member found with
        ⟨id, page, new, held, inside, same⟩
      have number : page.id = id := id_of_page? held
      refine ⟨page, mem_query.mpr ⟨?_, inside⟩, ⟨?_, ?_⟩, shows.of_status same⟩
      · rw [number]
        exact held
      · rw [number]
        exact new
      · unfold Page.todoistId
        rw [same .todoistId nofun]
        rfl

end Workspace

/-- The sync of a database mirrors the tasks, when no call fails, exactly when what Notion showed
in the place of each has nothing to forget. -/
theorem tasks_mirrored_iff (todoist : Todoist) (world : World) (databaseId : String)
    (tasks : List Task) (includeSection markStaleDone : Bool)
    (distinct : (tasks.map Task.id).Nodup) :
    (∀ task ∈ tasks, world.notion.Mirrors
      (run (serve todoist) (syncTasksToDatabase databaseId tasks includeSection markStaleDone)
        world).2.notion databaseId task) ↔
      ∀ task ∈ tasks, Forgotten task (world.notion.shownFor databaseId task) := by
  rw [run_syncTasksToDatabase todoist databaseId tasks includeSection markStaleDone world]
  constructor
  · exact fun mirrored task member =>
      (Workspace.mirrors_synced_iff distinct member).mp (mirrored task member)
  · exact fun forgotten task member =>
      (Workspace.mirrors_synced_iff distinct member).mpr (forgotten task member)

/-- A day is a date. -/
theorem valid_firstOfMarch : 1 ≤ 2026 ∧ 2026 ≤ 9999 ∧ 1 ≤ 3 ∧ 3 ≤ 12 ∧ 1 ≤ 1 ∧
    1 ≤ daysInMonth 2026 3 := by decide

/-- A task without a due date. -/
def rent : Task := { id := "7", content := "Pay rent" }

/-- The task when it is due on a day. -/
def dueRent : Task := { rent with dueDate := some ⟨2026, 3, 1, valid_firstOfMarch⟩ }

/-- What the page of the task with a due date shows. -/
def rentShown : Properties := (taskToProperties dueRent false).apply Properties.blank

/-- The services when the page shows the due date. -/
def rentWorld : World := ⟨Workspace.single "planner" rentShown, [], [], []⟩

/-- The ID of the task leads to its page. -/
theorem shownFor_rent : rentWorld.notion.shownFor "planner" rent = rentShown := by
  have found : (existingMap (rentWorld.notion.query "planner")).lookup rent.id = some 0 := by
    decide
  unfold Workspace.shownFor
  rw [found]
  rfl

/-- A task with a due date is mirrored. -/
theorem dueRent_mirrored : rentWorld.notion.Mirrors
    (run (serve sampleTodoist) (syncTasksToDatabase "planner" [dueRent] false false)
      rentWorld).2.notion "planner" dueRent := by
  refine (tasks_mirrored_iff sampleTodoist rentWorld "planner" [dueRent] false false
    (List.nodup_singleton _)).mpr ?_ dueRent List.mem_cons_self
  intro task member
  cases List.mem_singleton.mp member
  have shown : rentWorld.notion.shownFor "planner" dueRent = rentShown := shownFor_rent
  rw [shown]
  exact ⟨nofun, fun _ => rfl, fun _ => rfl, nofun, fun _ => rfl⟩

/-- A page goes on showing the due date of a task that has none any more. -/
theorem removed_due_date_shown : ¬ ∀ task ∈ [rent], rentWorld.notion.Mirrors
    (run (serve sampleTodoist) (syncTasksToDatabase "planner" [rent] false false)
      rentWorld).2.notion "planner" task := by
  intro mirrored
  have shows := mirrored rent List.mem_cons_self
  rw [run_syncTasksToDatabase sampleTodoist "planner" [rent] false false rentWorld] at shows
  have distinct : ([rent].map Task.id).Nodup := List.nodup_singleton _
  have forgotten := (Workspace.mirrors_synced_iff distinct List.mem_cons_self).mp shows
  have gone := forgotten.dueDate rfl
  rw [shownFor_rent] at gone
  cases gone

end VelaFlow.Notion
