import VelaFlow.Foundation.Program
import VelaFlow.Notion.Pages

/-!
# The sync between Notion and Todoist

`sync_tasks_to_database` and its callers of `notion.py`, and `cmd_notion_sync` of `cli.py`, as
programs over the calls they make. A call that reads in several requests and either returns all
of it or raises is one call. A call to create a task names the item it is made for, which Todoist
is not told.
-/
namespace VelaFlow.Notion

/-- The body of the request that creates a task: its fields without the empty ones. -/
structure TaskBody where
  /-- `"content"`. -/
  content : String
  /-- `"project_id"`. -/
  projectId : String
  /-- `"section_id"`. -/
  sectionId : String
  /-- `"priority"`. -/
  priority : Int
  /-- `"labels"`. -/
  labels : Option (List String)
  /-- `"due_string"`. -/
  dueString : Option String
  /-- `"description"`. -/
  description : Option String

/-- What Todoist answers when it has created a task. -/
structure CreatedTask where
  /-- `"id"`. -/
  id : String
  /-- `"url"`. -/
  url : Option String

/-- A call to one of the two services. -/
inductive Call where
  /-- `TodoistClient.get_tasks`. -/
  | getTasks (projectId sectionId : String)
  /-- `TodoistClient.get_section_map`. -/
  | getSectionMap (projectId : String)
  /-- `NotionClient._query_database`. -/
  | queryDatabase (databaseId : String)
  /-- The request that sets the options of `"Section"`, by their names. -/
  | setSectionOptions (databaseId : String) (names : List String)
  /-- The request that creates a page. -/
  | createPage (databaseId : String) (properties : Patch)
  /-- `NotionClient.update_page`. -/
  | updatePage (pageId : Nat) (properties : Patch)
  /-- The request that creates a task, for an item. -/
  | createTask (item : Nat) (body : TaskBody)
  /-- The requests of `NotionClient.update_sync_status`. -/
  | updateSyncStatus (commandCenterId : String)

/-- What a call returns. -/
abbrev Call.Answer : Call → Type
  | .getTasks _ _ => List Task
  | .getSectionMap _ => List (String × String)
  | .queryDatabase _ => List Page
  | .createTask _ _ => CreatedTask
  | .setSectionOptions _ _ | .createPage _ _ | .updatePage _ _ | .updateSyncStatus _ => Unit

/-- A program over the calls. -/
abbrev Sync := Program Call Call.Answer PyException

/-- `TodoistClient.get_tasks`. -/
def getTasks (projectId sectionId : String) : Sync (List Task) :=
  Program.act (Call.getTasks projectId sectionId)

/-- `TodoistClient.get_section_map`. -/
def getSectionMap (projectId : String) : Sync (List (String × String)) :=
  Program.act (Call.getSectionMap projectId)

/-- `NotionClient._query_database`. -/
def queryDatabase (databaseId : String) : Sync (List Page) :=
  Program.act (Call.queryDatabase databaseId)

/-- The `PATCH` of a database that sets the options of `"Section"`. -/
def setSectionOptions (databaseId : String) (names : List String) : Sync Unit :=
  Program.act (Call.setSectionOptions databaseId names)

/-- The `POST` of a page. -/
def createPage (databaseId : String) (properties : Patch) : Sync Unit :=
  Program.act (Call.createPage databaseId properties)

/-- `NotionClient.update_page`. -/
def updatePage (pageId : Nat) (properties : Patch) : Sync Unit :=
  Program.act (Call.updatePage pageId properties)

/-- The `POST` of a task. -/
def createTask (item : Nat) (body : TaskBody) : Sync CreatedTask :=
  Program.act (Call.createTask item body)

/-- `NotionClient.update_sync_status`, before what it catches. -/
def updateSyncStatus (commandCenterId : String) : Sync Unit :=
  Program.act (Call.updateSyncStatus commandCenterId)

/-- `except requests.RequestException`: goes on with a value when a request fails. -/
def onFailure {α : Type} (program : Sync α) (otherwise : α) : Sync α :=
  program.tryCatch fun exception =>
    match exception with
    | .other "RequestException" _ => pure otherwise
    | _ => .raise exception

/-- One pass of the loop over the tasks, with the numbers of created and updated pages. -/
def syncTask (databaseId : String) (includeSection : Bool) (existing : List (String × Nat))
    (counts : Nat × Nat) (task : Task) : Sync (Nat × Nat) :=
  let props := taskToProperties task includeSection
  match existing.lookup task.id with
  | some pageId =>
    onFailure (updatePage pageId props >>= fun _ => pure (counts.1, counts.2 + 1)) counts
  | none =>
    onFailure (createPage databaseId props >>= fun _ => pure (counts.1 + 1, counts.2)) counts

/-- The request that marks a page as done. -/
def doneProps : Patch
  | .status => some (some "✅ Done")
  | _ => none

/-- One pass of the loop over the existing items that marks the stale ones. -/
def markStale (activeIds : List String) (entry : String × Nat) : Sync Unit :=
  if activeIds.contains entry.1 then pure ()
  else onFailure (updatePage entry.2 doneProps) ()

/-- `NotionClient.sync_tasks_to_database`. -/
def syncTasksToDatabase (databaseId : String) (tasks : List Task) (includeSection : Bool)
    (markStaleDone : Bool) : Sync (Nat × Nat) :=
  if tasks.isEmpty && !markStaleDone then pure (0, 0)
  else do
    let existing ← queryDatabase databaseId
    let counts ← tasks.foldlM (syncTask databaseId includeSection (existingMap existing)) (0, 0)
    let _ ← if markStaleDone then (existingMap existing).forM (markStale (tasks.map Task.id))
      else pure ()
    pure counts

/-- The options for `"Section"`: each name once. -/
def sectionOptions (sectionMap : List (String × String)) : List String :=
  let names := (sectionMap.map fun entry => sanitizeText entry.2 100).filter fun name =>
    decide (name ≠ "")
  if names.isEmpty then ["No Section"] else names.reverse.dedup.reverse

/-- `NotionClient.sync_board_to_database`. -/
def syncBoardToDatabase (databaseId : String) (tasks : List Task)
    (sectionMap : List (String × String)) : Sync (Nat × Nat) := do
  let _ ← onFailure (setSectionOptions databaseId (sectionOptions sectionMap)) ()
  syncTasksToDatabase databaseId tasks true true

/-- `NotionClient.get_notion_only_tasks`. -/
def getNotionOnlyTasks (databaseId : String) : Sync (List Page) := do
  let items ← queryDatabase databaseId
  pure (notionOnly items)

/-- `Settings`, the fields `cmd_notion_sync` reads. -/
structure Settings where
  /-- `notion_api_token`. -/
  notionApiToken : String
  /-- `todoist_kanban_project_id`. -/
  todoistKanbanProjectId : String
  /-- `todoist_daily_planner_section_id`. -/
  todoistDailyPlannerSectionId : String
  /-- `todoist_weekly_planner_section_id`. -/
  todoistWeeklyPlannerSectionId : String
  /-- `todoist_weekend_planner_section_id`. -/
  todoistWeekendPlannerSectionId : String
  /-- `notion_daily_planner_db_id`. -/
  notionDailyPlannerDbId : String
  /-- `notion_weekly_planner_db_id`. -/
  notionWeeklyPlannerDbId : String
  /-- `notion_weekend_planner_db_id`. -/
  notionWeekendPlannerDbId : String
  /-- `notion_board_db_id`. -/
  notionBoardDbId : String
  /-- `notion_command_center_id`. -/
  notionCommandCenterId : String
  /-- `brain_read_only`. -/
  brainReadOnly : Bool

/-- `planner_map`: each section of Todoist with its database of Notion. -/
def Settings.plannerMap (settings : Settings) : List (String × String) :=
  [(settings.todoistDailyPlannerSectionId, settings.notionDailyPlannerDbId),
    (settings.todoistWeeklyPlannerSectionId, settings.notionWeeklyPlannerDbId),
    (settings.todoistWeekendPlannerSectionId, settings.notionWeekendPlannerDbId)]

/-- The counters of a run. -/
structure Totals where
  /-- `total_created`. -/
  created : Nat := 0
  /-- `total_updated`. -/
  updated : Nat := 0
  /-- `errors`. -/
  errors : Nat := 0

/-- One more error. -/
def Totals.failed (totals : Totals) : Totals := { totals with errors := totals.errors + 1 }

/-- The counters after a database is synced. -/
def Totals.synced (totals : Totals) (counts : Nat × Nat) : Totals :=
  { totals with created := totals.created + counts.1, updated := totals.updated + counts.2 }

/-- One pass of the loop that syncs the planners to Notion. -/
def syncPlanner (settings : Settings) (totals : Totals) (planner : String × String) :
    Sync Totals :=
  if planner.1 = "" ∨ planner.2 = "" then pure totals
  else
    (do
      let tasks ← getTasks settings.todoistKanbanProjectId planner.1
      let counts ← syncTasksToDatabase planner.2 tasks false false
      pure (totals.synced counts) : Sync Totals).tryCatch fun _ => pure totals.failed

/-- Whether the sync of the full board is asked for and configured. -/
def Settings.asksForBoard (settings : Settings) (full : Bool) : Bool :=
  full && settings.notionBoardDbId ≠ "" && settings.todoistKanbanProjectId ≠ ""

/-- The sync of the full board, when it is asked for. -/
def syncBoard (settings : Settings) (full : Bool) (totals : Totals) : Sync Totals :=
  if settings.asksForBoard full then
    (do
      let allTasks ← getTasks settings.todoistKanbanProjectId ""
      let sectionMap ← getSectionMap settings.todoistKanbanProjectId
      let counts ← syncBoardToDatabase settings.notionBoardDbId allTasks sectionMap
      pure (totals.synced counts) : Sync Totals).tryCatch fun _ => pure totals.failed
  else pure totals

/-- The request for the task of an item, in a section. -/
def taskBody (settings : Settings) (sectionId : String) (fields : TaskFields) : TaskBody where
  content := fields.content
  projectId := settings.todoistKanbanProjectId
  sectionId := sectionId
  priority := fields.priority
  labels := if fields.labels = [] then none else some fields.labels
  dueString := fields.dueString
  description := fields.description

/-- The request that writes the ID of a new task back to its item. -/
def writeBack (created : CreatedTask) : Patch
  | .todoistId => some [created.id]
  | .todoistUrl => some created.url
  | _ => none

/-- One pass of the loop that pushes the items of a planner to Todoist. -/
def pushItem (settings : Settings) (sectionId : String) (totals : Totals) (item : Page) :
    Sync Totals :=
  let fields := notionItemToTaskFields item
  if fields.content = "" then pure totals
  else
    (do
      let created ← createTask item.id (taskBody settings sectionId fields)
      let _ ← if created.id = "" then pure () else updatePage item.id (writeBack created)
      pure { totals with created := totals.created + 1 } : Sync Totals).tryCatch
        fun _ => pure totals.failed

/-- One pass of the loop that pushes the planners to Todoist. -/
def pushPlanner (settings : Settings) (totals : Totals) (planner : String × String) :
    Sync Totals :=
  if planner.1 = "" ∨ planner.2 = "" then pure totals
  else
    (do
      let items ← getNotionOnlyTasks planner.2
      items.foldlM (pushItem settings planner.1) totals : Sync Totals).tryCatch
        fun _ => pure totals.failed

/-- The direction from Notion to Todoist, unless it is turned off. -/
def pushPlanners (settings : Settings) (totals : Totals) : Sync Totals :=
  if settings.brainReadOnly then pure totals
  else settings.plannerMap.foldlM (pushPlanner settings) totals

/-- The update of the command center, when there is one. -/
def touchCommandCenter (settings : Settings) : Sync Unit :=
  if settings.notionCommandCenterId = "" then pure ()
  else onFailure (updateSyncStatus settings.notionCommandCenterId) ()

/-- `cmd_notion_sync`: its exit code. `full` is `--full`. -/
def cmdNotionSync (settings : Settings) (full : Bool) : Sync Int :=
  if settings.notionApiToken = "" then pure 1
  else do
    let synced ← settings.plannerMap.foldlM (syncPlanner settings) {}
    let boarded ← syncBoard settings full synced
    let pushed ← pushPlanners settings boarded
    touchCommandCenter settings
    pure (if pushed.errors = 0 then 0 else 1)

end VelaFlow.Notion
