import VelaFlow.Notion.Lookups
import VelaFlow.Notion.Mirror

/-!
# Edits made in Notion

A run of `cmd_notion_sync` writes Todoist's side on the pages first, and reads back only the pages
without a Todoist ID. So an edit of a page that is synced lasts exactly when no task is written on
the page, or the property is not among what is written, or what is written agrees with the edit.
-/
namespace VelaFlow.Notion

open Program (run Keeps Only)

/-- The properties an edit is about. -/
def Editable : Property → Prop
  | .name | .priority | .dueDate | .labels | .notes | .status => True
  | .todoistId | .todoistUrl | .duration | .sectionName => False

/-- Two values of a property read alike: texts by what they show. -/
def Agrees : (property : Property) → property.Value → property.Value → Prop
  | .name, first, second => plainText first = plainText second
  | .notes, first, second => plainText first = plainText second
  | .priority, first, second => first = second
  | .dueDate, first, second => first = second
  | .labels, first, second => first = second
  | .status, first, second => first = second
  | .todoistId, first, second => first = second
  | .todoistUrl, first, second => first = second
  | .duration, first, second => first = second
  | .sectionName, first, second => first = second

/-- A task of Todoist shows the value of a property. A task has no status. -/
def Task.HasValue (task : Task) : (property : Property) → property.Value → Prop
  | .name, value => plainText value = task.content
  | .notes, value => plainText value = task.description
  | .priority, value => value = some (priorityName task.priority)
  | .dueDate, value => value = task.due.map fun start => { start }
  | .labels, value => value = task.labels
  | _, _ => False

namespace Workspace

/-- Edited pages keep their numbers. -/
theorem numbered_edit (notion : Workspace) (patch : Nat → Patch) (place : Nat) (page : Page)
    (found : (notion.pages.map fun page => page.update (patch page.id))[place]? = some page) :
    page.id = place := by
  rw [List.getElem?_map, Option.map_eq_some_iff] at found
  rcases found with ⟨before, held, rfl⟩
  exact notion.numbered place before held

/-- The pages after somebody has edited them in Notion. -/
def edit (notion : Workspace) (patch : Nat → Patch) : Workspace :=
  ⟨notion.pages.map fun page => page.update (patch page.id), notion.numbered_edit patch⟩

/-- An edited page. -/
theorem page?_edit (notion : Workspace) (patch : Nat → Patch) (id : Nat) :
    (notion.edit patch).page? id = (notion.page? id).map fun page => page.update (patch id) := by
  show (notion.pages.map fun page => page.update (patch page.id))[id]? =
    (notion.pages[id]?).map fun page => page.update (patch id)
  rw [List.getElem?_map]
  cases found : notion.pages[id]? with
  | none => rfl
  | some page => rw [Option.map_some, Option.map_some, notion.numbered id page found]

/-- The sync of a database writes a value on a property of a page: for the task that the ID of the
page belongs to, or because that task is gone. -/
inductive Writes (notion : Workspace) (databaseId : String) (tasks : List Task)
    (includeSection markStaleDone : Bool) (id : Nat) (property : Property) :
    property.Value → Prop where
  /-- A task is written on its page. -/
  | task {task : Task} {value : property.Value} (member : task ∈ tasks)
    (leads : (existingMap (notion.query databaseId)).lookup task.id = some id)
    (names : taskToProperties task includeSection property = some value) :
    Writes notion databaseId tasks includeSection markStaleDone id property value
  /-- The page of a task that is gone is marked. -/
  | stale {text : String} {value : property.Value} (marks : markStaleDone = true)
    (leads : (existingMap (notion.query databaseId)).lookup text = some id)
    (gone : text ∉ tasks.map Task.id) (names : doneProps property = some value) :
    Writes notion databaseId tasks includeSection markStaleDone id property value

variable {notion : Workspace} {databaseId : String} {tasks : List Task}
  {includeSection markStaleDone : Bool}

/-- The loop over the tasks leaves a property of a page alone, or one of them is written. -/
theorem page?_writtenAll_cases (distinct : (tasks.map Task.id).Nodup) {id : Nat} {page : Page}
    (found : notion.page? id = some page) (property : Property) :
    ∃ other, (notion.writtenAll databaseId includeSection
        (existingMap (notion.query databaseId)) tasks).page? id = some other ∧
      ((other.properties property = page.properties property ∧ ∀ value, ∀ task ∈ tasks,
          (existingMap (notion.query databaseId)).lookup task.id = some id →
            taskToProperties task includeSection property ≠ some value) ∨
        ∃ task ∈ tasks, (existingMap (notion.query databaseId)).lookup task.id = some id ∧
          taskToProperties task includeSection property = some (other.properties property)) := by
  have inside := lt_length_of_page? found
  have leads := leads_existingMap notion databaseId
  by_cases led : ∃ task ∈ tasks, (existingMap (notion.query databaseId)).lookup task.id = some id
  · rcases led with ⟨task, member, leadsHere⟩
    have wrote := @page?_writtenAll_of_lookup databaseId includeSection _ _ _ distinct
      (fun _ _ _ one other => lookup_inj one other) leads _ member _ leadsHere
    rw [found, Option.map_some] at wrote
    refine ⟨_, wrote, ?_⟩
    cases named : taskToProperties task includeSection property with
    | none =>
      refine Or.inl ⟨Patch.apply_of_none named _, fun value again inAgain leadsAgain is => ?_⟩
      have same := lookup_inj leadsAgain leadsHere
      rw [List.inj_on_of_nodup_map distinct inAgain member same, named] at is
      cases is
    | some value =>
      refine Or.inr ⟨task, member, leadsHere, ?_⟩
      rw [named]
      exact congrArg some (Patch.apply_of_some named page.properties).symm
  · have others : ∀ task ∈ tasks,
        (existingMap (notion.query databaseId)).lookup task.id ≠ some id :=
      fun task member leadsHere => led ⟨task, member, leadsHere⟩
    refine ⟨page, (page?_writtenAll_of_ne inside others).trans found, Or.inl ⟨rfl, ?_⟩⟩
    exact fun value task member leadsHere => absurd leadsHere (others task member)

/-- The sync of a database leaves a property of a page alone, or writes what it is afterwards. -/
theorem page?_synced_cases (distinct : (tasks.map Task.id).Nodup) {id : Nat} {page : Page}
    (found : notion.page? id = some page) (property : Property) :
    ∃ other, (notion.synced databaseId includeSection tasks markStaleDone).page? id =
        some other ∧
      ((other.properties property = page.properties property ∧ ∀ value,
          ¬ notion.Writes databaseId tasks includeSection markStaleDone id property value) ∨
        notion.Writes databaseId tasks includeSection markStaleDone id property
          (other.properties property)) := by
  rcases @page?_writtenAll_cases notion databaseId tasks includeSection distinct id page found
    property with ⟨other, wrote, outcome⟩
  have writes : ∀ value, notion.Writes databaseId tasks includeSection markStaleDone id property
      value → (∃ task ∈ tasks, (existingMap (notion.query databaseId)).lookup task.id = some id ∧
        taskToProperties task includeSection property = some value) ∨
      ((markStaleDone = true ∧ ∃ entry ∈ existingMap (notion.query databaseId),
        entry.2 = id ∧ entry.1 ∉ tasks.map Task.id) ∧ doneProps property = some value) := by
    intro value write
    cases write with
    | task member leads names => exact Or.inl ⟨_, member, leads, names⟩
    | stale marks leads gone names =>
      exact Or.inr ⟨⟨marks, _, mem_of_lookup leads, rfl, gone⟩, names⟩
  by_cases gone : markStaleDone = true ∧ ∃ entry ∈ existingMap (notion.query databaseId),
      entry.2 = id ∧ entry.1 ∉ tasks.map Task.id
  · have after : (notion.synced databaseId includeSection tasks markStaleDone).page? id =
        some (other.update doneProps) := by
      rw [page?_synced, wrote, Option.map_some, if_pos gone]
    refine ⟨_, after, ?_⟩
    cases named : doneProps property with
    | some value =>
      rcases gone with ⟨marks, entry, member, rfl, absent⟩
      have written : (other.update doneProps).properties property = value :=
        Patch.apply_of_some named _
      rw [written]
      exact Or.inr (.stale marks (lookup_of_mem (nodup_existingMap _) member) absent named)
    | none =>
      have kept : (other.update doneProps).properties property = other.properties property :=
        Patch.apply_of_none named _
      rw [kept]
      rcases outcome with ⟨same, unwritten⟩ | ⟨task, member, leads, names⟩
      · refine Or.inl ⟨same, fun value write => ?_⟩
        rcases writes value write with ⟨task, member, leads, names⟩ | ⟨-, names⟩
        · exact unwritten value task member leads names
        · exact absurd (named.symm.trans names) nofun
      · exact Or.inr (.task member leads names)
  · have after : (notion.synced databaseId includeSection tasks markStaleDone).page? id =
        some other := by
      rw [page?_synced, wrote, Option.map_some, if_neg gone]
    refine ⟨other, after, ?_⟩
    rcases outcome with ⟨same, unwritten⟩ | ⟨task, member, leads, names⟩
    · refine Or.inl ⟨same, fun value write => ?_⟩
      rcases writes value write with ⟨task, member, leads, names⟩ | ⟨stale, -⟩
      · exact unwritten value task member leads names
      · exact gone stale
    · exact Or.inr (.task member leads names)

/-- What the sync of a database writes on an old page is said by the start. -/
theorem writes_iff_of_stable {start now : Workspace} (stable : Stable start now) {id : Nat}
    (before : id < start.pages.length) {property : Property} {value : property.Value} :
    now.Writes databaseId tasks includeSection markStaleDone id property value ↔
      start.Writes databaseId tasks includeSection markStaleDone id property value := by
  constructor
  · intro writes
    cases writes with
    | task member leads names =>
      exact .task member ((stable.lookup _ _ _ before).mp leads) names
    | stale marks leads gone names =>
      exact .stale marks ((stable.lookup _ _ _ before).mp leads) gone names
  · intro writes
    cases writes with
    | task member leads names =>
      exact .task member ((stable.lookup _ _ _ before).mpr leads) names
    | stale marks leads gone names =>
      exact .stale marks ((stable.lookup _ _ _ before).mpr leads) gone names

end Workspace

/-- The tasks of Todoist have different identifiers, which survive sanitising. -/
structure Identified (tasks : List Task) : Prop where
  /-- No two tasks have one identifier. -/
  distinct : (tasks.map Task.id).Nodup
  /-- Every identifier survives. -/
  clean : ∀ task ∈ tasks, sanitizeText task.id 100 = task.id

/-- The tasks of a section are identified. -/
theorem Identified.filter {tasks : List Task} (identified : Identified tasks)
    (chosen : Task → Bool) : Identified (tasks.filter chosen) where
  distinct := identified.distinct.sublist (List.filter_sublist.map Task.id)
  clean task member := identified.clean task (List.mem_filter.mp member).1

/-- How far a run has come with a property of a page: it is as it was and nothing has been written
on it, or it is what has been written. -/
structure Progress (start now : Workspace) (id : Nat) (property : Property)
    (original : property.Value) (written : property.Value → Prop) : Prop where
  /-- The IDs lead to the old pages as before. -/
  stable : Stable start now
  /-- What has become of the property. -/
  outcome : ∃ page, now.page? id = some page ∧
    ((page.properties property = original ∧ ∀ value, ¬ written value) ∨
      written (page.properties property))

/-- What has been written may be said in other words. -/
theorem Progress.of_iff {start now : Workspace} {id : Nat} {property : Property}
    {original : property.Value} {written other : property.Value → Prop}
    (progress : Progress start now id property original written)
    (same : ∀ value, written value ↔ other value) :
    Progress start now id property original other := by
  have is : written = other := funext fun value => propext (same value)
  exact is ▸ progress

/-- The sync of a database takes a run further. -/
theorem Progress.synced {start now : Workspace} {id : Nat} {property : Property}
    {original : property.Value} {written : property.Value → Prop}
    (progress : Progress start now id property original written)
    (before : id < start.pages.length) (databaseId : String) {tasks : List Task}
    (identified : Identified tasks) (includeSection markStaleDone : Bool) :
    Progress start (now.synced databaseId includeSection tasks markStaleDone) id property original
      fun value => written value ∨
        start.Writes databaseId tasks includeSection markStaleDone id property value := by
  refine ⟨progress.stable.trans (Stable.synced now databaseId includeSection markStaleDone
    identified.clean), ?_⟩
  rcases progress.outcome with ⟨page, found, earlier⟩
  rcases @Workspace.page?_synced_cases now databaseId tasks includeSection markStaleDone
    identified.distinct id page found property with ⟨other, held, now⟩
  refine ⟨other, held, ?_⟩
  rcases now with ⟨same, unwritten⟩ | writes
  · rw [same]
    rcases earlier with ⟨kept, never⟩ | wrote
    · refine Or.inl ⟨kept, fun value wrote => ?_⟩
      rcases wrote with before | writes
      · exact never value before
      · exact unwritten value ((Workspace.writes_iff_of_stable progress.stable before).mpr writes)
    · exact Or.inr (Or.inl wrote)
  · exact Or.inr (Or.inr ((Workspace.writes_iff_of_stable progress.stable before).mp writes))

/-- A run writes a value on a property of a page. -/
inductive Overwrites (settings : Settings) (full : Bool) (world : World) (id : Nat)
    (property : Property) : property.Value → Prop where
  /-- The sync of a planner writes it. -/
  | planner {planner : String × String} {value : property.Value}
    (member : planner ∈ settings.plannerMap) (configured : ¬ (planner.1 = "" ∨ planner.2 = ""))
    (writes : world.notion.Writes planner.2
      (world.tasks.filter fun task => task.isIn settings.todoistKanbanProjectId planner.1)
      false false id property value) :
    Overwrites settings full world id property value
  /-- The sync of the board writes it. -/
  | board {value : property.Value}
    (asked : settings.asksForBoard full = true)
    (writes : world.notion.Writes settings.notionBoardDbId
      (world.tasks.filter fun task => task.isIn settings.todoistKanbanProjectId "")
      true true id property value) :
    Overwrites settings full world id property value

section Run

variable (todoist : Todoist) (settings : Settings)

/-- The sync of a planner, when every call succeeds. -/
theorem run_syncPlanner (totals : Totals) (planner : String × String) (world : World) :
    ∃ after, run (serve todoist) (syncPlanner settings totals planner) world =
      (.ok after, { world with
        notion := if planner.1 = "" ∨ planner.2 = "" then world.notion
          else world.notion.synced planner.2 false
            (world.tasks.filter fun task =>
              task.isIn settings.todoistKanbanProjectId planner.1) false }) := by
  unfold syncPlanner
  by_cases unset : planner.1 = "" ∨ planner.2 = ""
  · rw [if_pos unset, if_pos unset]
    exact ⟨totals, rfl⟩
  · rw [if_neg unset, if_neg unset]
    have ran := run_syncTasksToDatabase todoist planner.2 (world.tasks.filter fun task =>
      task.isIn settings.todoistKanbanProjectId planner.1) false false world
    generalize List.foldl _ _ _ = counts at ran
    have got : run (serve todoist) (getTasks settings.todoistKanbanProjectId planner.1) world =
        (.ok (world.tasks.filter fun task =>
          task.isIn settings.todoistKanbanProjectId planner.1), world) := rfl
    refine ⟨totals.synced counts, ?_⟩
    rw [Program.run_tryCatch, Program.run_bind, got]
    dsimp only
    rw [Program.run_bind, ran]
    rfl

/-- The sync of the planners takes a run further. -/
theorem run_syncPlanners {world : World} (identified : Identified world.tasks) {start : Workspace}
    {id : Nat} (before : id < start.pages.length) {property : Property}
    {original : property.Value} (planners : List (String × String)) (totals : Totals)
    {now : Workspace} {written : property.Value → Prop}
    (progress : Progress start now id property original written) :
    ∃ after next, run (serve todoist) (planners.foldlM (syncPlanner settings) totals)
        { world with notion := now } = (.ok after, { world with notion := next }) ∧
      Progress start next id property original fun value => written value ∨
        ∃ planner ∈ planners, ¬ (planner.1 = "" ∨ planner.2 = "") ∧
          start.Writes planner.2 (world.tasks.filter fun task =>
            task.isIn settings.todoistKanbanProjectId planner.1) false false id property value := by
  induction planners generalizing totals now written with
  | nil =>
    exact ⟨totals, now, rfl, progress.of_iff fun value => by simp⟩
  | cons planner rest ih =>
    rcases run_syncPlanner todoist settings totals planner { world with notion := now } with
      ⟨counted, first⟩
    rw [List.foldlM_cons]
    by_cases unset : planner.1 = "" ∨ planner.2 = ""
    · rw [if_pos unset] at first
      rcases ih counted progress with ⟨after, next, ran, further⟩
      refine ⟨after, next, ?_, further.of_iff fun value => ?_⟩
      · rw [Program.run_bind, first]
        exact ran
      · simp only [List.exists_mem_cons_iff, unset, not_true, false_and, false_or]
    · rw [if_neg unset] at first
      have reached := progress.synced before planner.2
        (identified.filter fun task => task.isIn settings.todoistKanbanProjectId planner.1)
        false false
      rcases ih counted reached with ⟨after, next, ran, further⟩
      refine ⟨after, next, ?_, further.of_iff fun value => ?_⟩
      · rw [Program.run_bind, first]
        exact ran
      · simp only [List.exists_mem_cons_iff, unset, not_false_iff, true_and, or_assoc]

/-- The sync of the board takes a run further. -/
theorem run_syncBoard {world : World} (identified : Identified world.tasks) {start : Workspace}
    {id : Nat} (before : id < start.pages.length) {property : Property}
    {original : property.Value} (full : Bool) (totals : Totals) {now : Workspace}
    {written : property.Value → Prop}
    (progress : Progress start now id property original written) :
    ∃ after next, run (serve todoist) (syncBoard settings full totals)
        { world with notion := now } = (.ok after, { world with notion := next }) ∧
      Progress start next id property original fun value => written value ∨
        (settings.asksForBoard full = true ∧
          start.Writes settings.notionBoardDbId (world.tasks.filter fun task =>
            task.isIn settings.todoistKanbanProjectId "") true true id property value) := by
  unfold syncBoard
  by_cases asked : settings.asksForBoard full = true
  · rw [if_pos asked]
    have ran := run_syncTasksToDatabase todoist settings.notionBoardDbId
      (world.tasks.filter fun task => task.isIn settings.todoistKanbanProjectId "") true true
      { world with notion := now }
    generalize List.foldl _ _ _ = counts at ran
    have got : run (serve todoist) (getTasks settings.todoistKanbanProjectId "")
        { world with notion := now } = (.ok (world.tasks.filter fun task =>
          task.isIn settings.todoistKanbanProjectId ""), { world with notion := now }) := rfl
    have mapped : run (serve todoist) (getSectionMap settings.todoistKanbanProjectId)
        { world with notion := now } = (.ok world.sectionMap, { world with notion := now }) := rfl
    have options : run (serve todoist) (onFailure (setSectionOptions settings.notionBoardDbId
        (sectionOptions world.sectionMap)) ()) { world with notion := now } =
          (.ok (), { world with notion := now }) := rfl
    have reached := progress.synced before settings.notionBoardDbId
      (identified.filter fun task => task.isIn settings.todoistKanbanProjectId "") true true
    refine ⟨totals.synced counts, _, ?_, reached.of_iff fun value => ?_⟩
    · rw [Program.run_tryCatch, Program.run_bind, got]
      dsimp only
      rw [Program.run_bind, mapped]
      dsimp only
      unfold syncBoardToDatabase
      rw [Program.run_bind, Program.run_bind, options]
      dsimp only
      rw [ran]
      rfl
    · simp only [asked, true_and]
  · rw [if_neg asked]
    refine ⟨totals, now, rfl, progress.of_iff fun value => ?_⟩
    constructor
    · exact Or.inl
    · rintro (wrote | ⟨is, -⟩)
      · exact wrote
      · exact absurd is asked

/-- A call neither updates a page nor takes a task away. -/
def Leaves (id : Nat) : Call → Prop
  | .updatePage other _ => other ≠ id
  | _ => True

/-- A page is as it was, and the tasks are still there. -/
def Settled (id : Nat) (page : Page) (tasks : List Task) (world : World) : Prop :=
  world.notion.page? id = some page ∧ ∀ task ∈ tasks, task ∈ world.tasks

variable {todoist settings}

/-- A call that leaves a page leaves it as it was. -/
theorem Settled.after_call {id : Nat} {page : Page} {tasks : List Task} {world : World}
    (settled : Settled id page tasks world) {call : Call} (leaves : Leaves id call) :
    Settled id page tasks (serve todoist call world).2 := by
  rcases settled with ⟨found, there⟩
  cases call with
  | createPage databaseId properties =>
    exact ⟨(Workspace.page?_create_of_lt (Workspace.lt_length_of_page? found)).trans found, there⟩
  | updatePage other patch =>
    unfold serve
    dsimp only
    cases world.notion.page? other with
    | some _ => exact ⟨by rw [Workspace.page?_update, if_neg leaves, found], there⟩
    | none => exact ⟨found, there⟩
  | createTask item body =>
    exact ⟨found, fun task member => List.mem_append_left _ (there task member)⟩
  | _ => exact ⟨found, there⟩

/-- A program that leaves a page leaves it as it was. -/
theorem Settled.of_only {α : Type} {program : Sync α} {id : Nat} {page : Page}
    {tasks : List Task} (leaves : Only (Leaves id) program) :
    Keeps (serve todoist) (Settled id page tasks) program := by
  intro world settled
  apply Only.run (Settled id page tasks) _ leaves settled
  intro call reached still allowed
  exact still.after_call allowed

/-- Pushing an item leaves every other page. -/
theorem only_leaves_pushItem (sectionId : String) (totals : Totals) {id : Nat} {item : Page}
    (other : item.id ≠ id) : Only (Leaves id) (pushItem settings sectionId totals item) := by
  unfold pushItem
  dsimp only
  split
  · exact Only.pure totals
  · refine Only.tryCatch (Only.bind (Only.act trivial) fun created => ?_) fun _ => Only.pure _
    split
    · exact Only.pure _
    · exact Only.bind (Only.act other) fun _ => Only.pure _

/-- Pushing a planner leaves every page with an ID. -/
theorem Settled.pushPlanner {id : Nat} {page : Page} (named : page.todoistId ≠ "")
    {tasks : List Task} (totals : Totals) (planner : String × String) :
    Keeps (serve todoist) (Settled id page tasks)
      (pushPlanner settings totals planner) := by
  unfold Notion.pushPlanner
  split
  · exact Keeps.pure totals
  · refine Keeps.tryCatch ?_ fun _ => Keeps.pure _
    intro world settled
    have asked : run (serve todoist) (getNotionOnlyTasks planner.2) world =
        (.ok (notionOnly (world.notion.query planner.2)), world) := rfl
    rw [Program.run_bind, asked]
    apply Settled.of_only _ world settled
    apply Only.foldlM
    intro item member reached
    apply only_leaves_pushItem
    rintro rfl
    rcases List.mem_filter.mp member with ⟨inside, unnamed⟩
    have same := (Workspace.mem_query.mp inside).1
    rw [settled.1] at same
    cases same
    exact named (decide_eq_true_eq.mp unnamed)

/-- What follows the sync to Notion leaves every page with an ID. -/
theorem Settled.rest {id : Nat} {page : Page} (named : page.todoistId ≠ "")
    {tasks : List Task} (totals : Totals) :
    Keeps (serve todoist) (Settled id page tasks)
      (do
        let pushed ← pushPlanners settings totals
        touchCommandCenter settings
        pure (if pushed.errors = 0 then (0 : Int) else 1) : Sync Int) := by
  refine Keeps.bind ?_ fun pushed => Keeps.bind ?_ fun _ => Keeps.pure _
  · unfold pushPlanners
    split
    · exact Keeps.pure totals
    · exact Keeps.foldlM _ (fun reached planner => Settled.pushPlanner named reached planner) _
  · unfold touchCommandCenter
    split
    · exact Keeps.pure ()
    · have touches : Only (Leaves id) (updateSyncStatus settings.notionCommandCenterId) :=
        Only.act trivial
      refine Settled.of_only (Only.tryCatch touches fun exception => ?_)
      split
      · exact Only.pure ()
      · exact Only.raise _

/-- A run leaves a property of a synced page as it was, or as something it writes, and every task
where it was. -/
theorem run_cmdNotionSync (todoist : Todoist) {settings : Settings} (full : Bool) {world : World}
    (identified : Identified world.tasks) (configured : settings.notionApiToken ≠ "") {id : Nat}
    {page : Page} (found : world.notion.page? id = some page) (named : page.todoistId ≠ "")
    (property : Property) :
    ∃ other, (run (serve todoist) (cmdNotionSync settings full) world).2.notion.page? id =
        some other ∧
      ((other.properties property = page.properties property ∧
          ∀ value, ¬ Overwrites settings full world id property value) ∨
        Overwrites settings full world id property (other.properties property)) ∧
      ∀ task ∈ world.tasks,
        task ∈ (run (serve todoist) (cmdNotionSync settings full) world).2.tasks := by
  have before := Workspace.lt_length_of_page? found
  have begun : Progress world.notion world.notion id property (page.properties property)
      fun _ => False := ⟨Stable.refl _, page, found, Or.inl ⟨rfl, fun _ => not_false⟩⟩
  rcases run_syncPlanners todoist settings identified before settings.plannerMap {} begun with
    ⟨synced, middle, ranPlanners, onward⟩
  rcases run_syncBoard todoist settings identified before full synced onward with
    ⟨boarded, last, ranBoard, progress⟩
  rcases progress.outcome with ⟨other, held, outcome⟩
  have shows : other.todoistId = page.todoistId := by
    rcases progress.stable.named id page found with ⟨again, heldAgain, same⟩
    rw [held] at heldAgain
    cases heldAgain
    exact same
  have settled : Settled id other world.tasks { world with notion := last } :=
    ⟨held, fun _ member => member⟩
  have kept := @Settled.rest todoist settings _ _
    (shows ▸ named) _ boarded { world with notion := last } settled
  have ran : (run (serve todoist) (cmdNotionSync settings full) world).2 =
      (run (serve todoist) (do
        let pushed ← pushPlanners settings boarded
        touchCommandCenter settings
        pure (if pushed.errors = 0 then (0 : Int) else 1) : Sync Int)
          { world with notion := last }).2 := by
    unfold cmdNotionSync
    rw [if_neg configured, Program.run_bind, ranPlanners]
    dsimp only
    rw [Program.run_bind, ranBoard]
  rw [ran]
  refine ⟨other, kept.1, ?_, kept.2⟩
  have writes : ∀ value, ((False ∨ ∃ planner ∈ settings.plannerMap,
      ¬ (planner.1 = "" ∨ planner.2 = "") ∧ world.notion.Writes planner.2
        (world.tasks.filter fun task => task.isIn settings.todoistKanbanProjectId planner.1)
        false false id property value) ∨
      (settings.asksForBoard full = true ∧
        world.notion.Writes settings.notionBoardDbId (world.tasks.filter fun task =>
          task.isIn settings.todoistKanbanProjectId "") true true id property value)) ↔
      Overwrites settings full world id property value := by
    intro value
    constructor
    · rintro ((never | ⟨planner, member, set, writes⟩) | ⟨asked, writes⟩)
      · exact never.elim
      · exact .planner member set writes
      · exact .board asked writes
    · intro overwrites
      cases overwrites with
      | planner member set writes => exact Or.inl (Or.inr ⟨_, member, set, writes⟩)
      | board asked writes => exact Or.inr ⟨asked, writes⟩
  simp only [writes] at outcome
  exact outcome

end Run

/-- The edits somebody makes of the pages that are synced. -/
structure Edits (notion : Workspace) where
  /-- The properties edited of each page, with their new values. -/
  patch : Nat → Patch
  /-- Only what a task has is edited. -/
  editable : ∀ id property value, patch id property = some value → Editable property
  /-- Only pages with a Todoist ID are edited. -/
  synced : ∀ id property value, patch id property = some value →
    ∃ page, notion.page? id = some page ∧ page.todoistId ≠ ""

/-- The services after the edits. -/
def World.edited (world : World) (edits : Edits world.notion) : World :=
  { world with notion := world.notion.edit edits.patch }

/-- The task of a page shows a value of a property. -/
def World.TaskHas (world : World) (id : Nat) (property : Property) (value : property.Value) :
    Prop :=
  ∃ page, world.notion.page? id = some page ∧
    ∃ task ∈ world.tasks, task.id = page.todoistId ∧ task.HasValue property value

/-- An edit is visible: the page still reads so, or the task of the page shows it and is still
there. -/
def EditVisible (before after : World) (id : Nat) (property : Property)
    (value : property.Value) : Prop :=
  (∃ page, after.notion.page? id = some page ∧ Agrees property (page.properties property) value) ∨
    ((∀ task ∈ before.tasks, task ∈ after.tasks) ∧ before.TaskHas id property value)

/-- Every value reads like itself. -/
theorem agrees_refl (property : Property) (value : property.Value) :
    Agrees property value value := by
  cases property <;> rfl

/-- What is written of a task does not depend on whether its section is, but for the section. -/
theorem taskToProperties_editable {property : Property} (editable : Editable property)
    (task : Task) (includeSection : Bool) :
    taskToProperties task includeSection property = taskToProperties task false property := by
  cases property with
  | sectionName => exact editable.elim
  | _ => rfl

/-- Where a written value comes from: the task with the ID of the page, or that there is none. -/
theorem Overwrites.source {settings : Settings} {full : Bool} {world : World} {id : Nat}
    {page : Page} (found : world.notion.page? id = some page) {property : Property}
    (editable : Editable property) {value : property.Value}
    (overwrites : Overwrites settings full world id property value) :
    (∃ task ∈ world.tasks.filter fun task => task.isIn settings.todoistKanbanProjectId "",
      task.id = page.todoistId ∧ taskToProperties task false property = some value) ∨
    (page.todoistId ∉ (world.tasks.filter fun task =>
      task.isIn settings.todoistKanbanProjectId "").map Task.id ∧
        doneProps property = some value) := by
  have shown : ∀ {databaseId text : String},
      (existingMap (world.notion.query databaseId)).lookup text = some id →
        text = page.todoistId := by
    intro databaseId text leads
    rcases Workspace.page?_of_lookup leads with ⟨again, held, -, shows, -⟩
    rw [found] at held
    cases held
    exact shows.symm
  cases overwrites with
  | planner member set writes =>
    cases writes with
    | @task task _ inside leads names =>
      rcases List.mem_filter.mp inside with ⟨there, chosen⟩
      unfold Task.isIn at chosen
      rw [Bool.and_eq_true] at chosen
      refine Or.inl ⟨task, List.mem_filter.mpr ⟨there, ?_⟩, shown leads, names⟩
      unfold Task.isIn
      rw [Bool.and_eq_true]
      exact ⟨chosen.1, rfl⟩
    | stale marks => cases marks
  | board asked writes =>
    cases writes with
    | task inside leads names =>
      exact Or.inl ⟨_, inside, shown leads,
        (taskToProperties_editable editable _ true).symm.trans names⟩
    | stale marks leads gone names => exact Or.inr ⟨shown leads ▸ gone, names⟩

/-- A run writes one value at most on a property of a page. -/
theorem Overwrites.unique {settings : Settings} {full : Bool} {world : World}
    (identified : Identified world.tasks) {id : Nat} {page : Page}
    (found : world.notion.page? id = some page) {property : Property}
    (editable : Editable property) {first second : property.Value}
    (one : Overwrites settings full world id property first)
    (other : Overwrites settings full world id property second) : first = second := by
  rcases one.source found editable with ⟨task, member, shows, names⟩ | ⟨gone, names⟩
  · rcases other.source found editable with ⟨again, inside, alike, writes⟩ | ⟨gone, -⟩
    · have same := List.inj_on_of_nodup_map identified.distinct (List.mem_filter.mp member).1
        (List.mem_filter.mp inside).1 (shows.trans alike.symm)
      rw [← same, names] at writes
      exact Option.some.inj writes
    · exact absurd (shows ▸ List.mem_map_of_mem member) gone
  · rcases other.source found editable with ⟨again, inside, alike, -⟩ | ⟨-, writes⟩
    · exact absurd (alike ▸ List.mem_map_of_mem inside) gone
    · rw [names] at writes
      exact Option.some.inj writes

/-- The edits of the synced pages are all visible after a run whose calls succeed exactly when each
of them agrees with what the run writes on its page, or its task shows it anyway. -/
theorem edits_visible_iff (todoist : Todoist) (settings : Settings) (full : Bool) (world : World)
    (edits : Edits world.notion) (identified : Identified world.tasks)
    (successful : (run (serve todoist) (cmdNotionSync settings full) (world.edited edits)).1 =
      .ok 0) :
    (∀ id property value, edits.patch id property = some value →
      EditVisible world (run (serve todoist) (cmdNotionSync settings full)
        (world.edited edits)).2 id property value) ↔
    ∀ id property value, edits.patch id property = some value →
      (∀ written, Overwrites settings full (world.edited edits) id property written →
        Agrees property written value) ∨ world.TaskHas id property value := by
  have configured : settings.notionApiToken ≠ "" := by
    intro unset
    unfold cmdNotionSync at successful
    rw [if_pos unset] at successful
    cases successful
  apply forall_congr' fun id => forall_congr' fun property => forall_congr' fun value => ?_
  apply imp_congr_right
  intro edit
  rcases edits.synced id property value edit with ⟨page, found, named⟩
  have editable := edits.editable id property value edit
  have foundEdited : (world.edited edits).notion.page? id =
      some (page.update (edits.patch id)) := by
    show (world.notion.edit edits.patch).page? id = _
    rw [Workspace.page?_edit, found, Option.map_some]
  have unnamed : edits.patch id .todoistId = none := by
    cases edited : edits.patch id .todoistId with
    | none => rfl
    | some segments => exact (edits.editable id .todoistId segments edited).elim
  have namedEdited : (page.update (edits.patch id)).todoistId ≠ "" := by
    rw [Page.todoistId_update_of_none unnamed]
    exact named
  have shown : (page.update (edits.patch id)).properties property = value :=
    Patch.apply_of_some edit page.properties
  rcases @run_cmdNotionSync todoist settings full (world.edited edits) identified configured id _
    foundEdited namedEdited property with ⟨other, held, outcome, there⟩
  rw [shown] at outcome
  constructor
  · rintro (⟨after, heldAfter, agrees⟩ | ⟨-, has⟩)
    · rw [held] at heldAfter
      cases heldAfter
      refine Or.inl fun written overwrites => ?_
      rcases outcome with ⟨-, never⟩ | wrote
      · exact absurd overwrites (never written)
      · have same := @Overwrites.unique settings full (world.edited edits) identified id _
          foundEdited property editable _ _ overwrites wrote
        rw [same]
        exact agrees
    · exact Or.inr has
  · rintro (agrees | has)
    · refine Or.inl ⟨other, held, ?_⟩
      rcases outcome with ⟨same, -⟩ | wrote
      · rw [same]
        exact agrees_refl property value
      · exact agrees _ wrote
    · exact Or.inr ⟨there, has⟩

/-- A task of a planner section. -/
def bills : Task := { id := "7", content := "Pay bills", sectionId := "section" }

/-- The services before the first run. -/
def billsWorld : World := ⟨Workspace.single "elsewhere" Properties.blank, [bills], [], []⟩

/-- The services after a completed run: the task has a page. -/
def syncedWorld : World := (run (serve sampleTodoist) (cmdNotionSync sampleSettings false) billsWorld).2

/-- The page of the task is the second one. -/
theorem page?_syncedWorld : syncedWorld.notion.page? 1 =
    some ⟨1, "planner", (taskToProperties bills false).apply Properties.blank⟩ := rfl

/-- The tasks are those before the run. -/
theorem identified_syncedWorld : Identified syncedWorld.tasks where
  distinct := List.nodup_singleton _
  clean task member := by
    cases List.mem_singleton.mp member
    decide

/-- An edit of one property of the page of the task. -/
def billsPatch (property : Property) (value : property.Value) (id : Nat) : Patch := fun other =>
  if same : other = property then if id = 1 then some (same ▸ value) else none else none

/-- Only that property of that page is edited. -/
theorem of_billsPatch {property other : Property} {value : property.Value}
    {read : other.Value} {id : Nat} (edit : billsPatch property value id other = some read) :
    other = property ∧ id = 1 := by
  unfold billsPatch at edit
  by_cases same : other = property
  · rw [dif_pos same] at edit
    by_cases first : id = 1
    · exact ⟨same, first⟩
    · rw [if_neg first] at edit
      cases edit
  · rw [dif_neg same] at edit
    cases edit

/-- The edit is of the page that is synced. -/
theorem synced_billsPatch {property : Property} {value : property.Value} (id : Nat)
    (other : Property) (read : other.Value)
    (edit : billsPatch property value id other = some read) :
    ∃ page, syncedWorld.notion.page? id = some page ∧ page.todoistId ≠ "" := by
  rcases of_billsPatch edit with ⟨-, rfl⟩
  exact ⟨_, page?_syncedWorld, by decide⟩

/-- Somebody edits one property of the page. -/
def billsEdits (property : Property) (value : property.Value) (editable : Editable property) :
    Edits syncedWorld.notion where
  patch := billsPatch property value
  editable _ _ _ edit := (of_billsPatch edit).1 ▸ editable
  synced := synced_billsPatch

/-- Labels that somebody adds to the page of a task without labels are visible. -/
theorem added_labels_visible :
    EditVisible syncedWorld (run (serve sampleTodoist) (cmdNotionSync sampleSettings false)
      (syncedWorld.edited (billsEdits .labels ["home"] trivial))).2 1 .labels ["home"] := by
  refine (edits_visible_iff sampleTodoist sampleSettings false syncedWorld
    (billsEdits .labels ["home"] trivial) identified_syncedWorld rfl).mpr ?_ 1 .labels _ rfl
  intro id property value edit
  rcases of_billsPatch edit with ⟨rfl, rfl⟩
  refine Or.inl fun written overwrites => ?_
  have edited : (syncedWorld.edited (billsEdits .labels ["home"] trivial)).notion.page? 1 =
      some _ := rfl
  have labels : Editable .labels := trivial
  rcases overwrites.source edited labels with ⟨task, member, -, names⟩ | ⟨-, names⟩
  · cases List.mem_singleton.mp (List.mem_filter.mp member).1
    cases names
  · cases names

/-- A priority that somebody sets on the page of a task is visible nowhere after the next run. -/
theorem set_priority_lost : ¬ ∀ id property value,
    (billsEdits .priority (some "🔴 P1 Urgent") trivial).patch id property = some value →
      EditVisible syncedWorld (run (serve sampleTodoist) (cmdNotionSync sampleSettings false)
        (syncedWorld.edited (billsEdits .priority (some "🔴 P1 Urgent") trivial))).2
          id property value := by
  intro visible
  rcases visible 1 .priority (some "🔴 P1 Urgent") rfl with ⟨page, found, agrees⟩ | ⟨-, has⟩
  · have now : (run (serve sampleTodoist) (cmdNotionSync sampleSettings false)
        (syncedWorld.edited (billsEdits .priority (some "🔴 P1 Urgent") trivial))).2.notion.page? 1 =
          some page := found
    have reads := congrArg (Option.map fun page => page.properties .priority) now
    have is : some "⚪ P4 Low" = page.properties .priority := Option.some.inj reads
    have wrong : some "⚪ P4 Low" = some "🔴 P1 Urgent" := is.trans agrees
    revert wrong
    decide
  · rcases has with ⟨page, -, task, member, -, shows⟩
    cases List.mem_singleton.mp member
    revert shows
    show ¬ some "🔴 P1 Urgent" = some "⚪ P4 Low"
    decide

end VelaFlow.Notion
