import VelaFlow.Notion.Sync

/-!
# The two services

What Notion and Todoist hold, and what each call of the sync does when it succeeds. Notion keeps
the properties that a request does not name and never drops a page. What task Todoist makes of a
request is Todoist's; its identifiers are texts that survive sanitising.
-/
namespace VelaFlow.Notion

/-- The pages Notion holds, numbered in the order they were created. -/
structure Workspace where
  /-- The pages. -/
  pages : List Page
  /-- The number of a page is its place. -/
  numbered : ∀ (place : Nat) (page : Page), pages[place]? = some page → page.id = place

namespace Workspace

variable (notion : Workspace) (databaseId : String) (patch : Patch)

/-- The page with an identifier. -/
def page? (id : Nat) : Option Page := notion.pages[id]?

/-- The pages of a database. -/
def query : List Page := notion.pages.filter fun page => decide (page.databaseId = databaseId)

/-- A request about a page leaves the numbers. -/
theorem numbered_modify (id place : Nat) (page : Page)
    (found : (notion.pages.modify id fun page => page.update patch)[place]? = some page) :
    page.id = place := by
  rw [List.getElem?_modify, Option.map_eq_map, Option.map_eq_some_iff] at found
  rcases found with ⟨before, held, rfl⟩
  have number := notion.numbered place before held
  by_cases same : id = place
  · rw [if_pos same]
    exact number
  · rw [if_neg same]
    exact number

/-- A new page takes the next number. -/
theorem numbered_append (place : Nat) (page : Page)
    (found : (notion.pages ++ [⟨notion.pages.length, databaseId,
      patch.apply Properties.blank⟩])[place]? = some page) : page.id = place := by
  by_cases before : place < notion.pages.length
  · rw [List.getElem?_append_left before] at found
    exact notion.numbered place page found
  · rw [List.getElem?_append_right (by omega), List.getElem?_singleton] at found
    have next : place = notion.pages.length := by
      by_contra apart
      rw [if_neg (by omega)] at found
      cases found
    subst next
    rw [if_pos (Nat.sub_self _)] at found
    cases found
    rfl

/-- The pages after a request about one. -/
def update (id : Nat) : Workspace :=
  ⟨notion.pages.modify id fun page => page.update patch, notion.numbered_modify patch id⟩

/-- The pages after one is created. -/
def create : Workspace :=
  ⟨notion.pages ++ [⟨notion.pages.length, databaseId, patch.apply Properties.blank⟩],
    notion.numbered_append databaseId patch⟩

end Workspace

/-- The only page of a workspace is the first. -/
theorem Workspace.numbered_single (databaseId : String) (properties : Properties) (place : Nat)
    (page : Page) (found : [(⟨0, databaseId, properties⟩ : Page)][place]? = some page) :
    page.id = place := by
  rcases List.getElem?_eq_some_iff.mp found with ⟨inside, rfl⟩
  have first : place = 0 := Nat.lt_one_iff.mp inside
  subst first
  rfl

/-- A workspace of one page. -/
def Workspace.single (databaseId : String) (properties : Properties) : Workspace :=
  ⟨[⟨0, databaseId, properties⟩], numbered_single databaseId properties⟩

/-- What Todoist makes of a request for a task. -/
structure Todoist where
  /-- The new task, as the code reads it, by the tasks there are and the request. -/
  newTask : List Task → TaskBody → Task
  /-- Its identifier survives sanitising. -/
  named : ∀ tasks body, sanitizeText (newTask tasks body).id 100 ≠ ""

/-- An identifier of one character survives. -/
theorem named_nine (_ : List Task) (_ : TaskBody) : sanitizeText "9" 100 ≠ "" := by decide

/-- A Todoist that names every task alike. -/
def sampleTodoist : Todoist :=
  ⟨fun _ body => { id := "9", content := body.content, sectionId := body.sectionId }, named_nine⟩

/-- One planner is configured. -/
def sampleSettings : Settings where
  notionApiToken := "secret"
  todoistKanbanProjectId := ""
  todoistDailyPlannerSectionId := "section"
  todoistWeeklyPlannerSectionId := ""
  todoistWeekendPlannerSectionId := ""
  notionDailyPlannerDbId := "planner"
  notionWeeklyPlannerDbId := ""
  notionWeekendPlannerDbId := ""
  notionBoardDbId := ""
  notionCommandCenterId := ""
  brainReadOnly := false

/-- What the two services hold. -/
structure World where
  /-- The pages of Notion. -/
  notion : Workspace
  /-- The active tasks of Todoist, as the code reads them. -/
  tasks : List Task
  /-- The sections of Todoist, each with its name. -/
  sectionMap : List (String × String)
  /-- The items for which Todoist has created a task, one entry for each task. -/
  pushed : List Nat

/-- The exception of a request that fails. -/
def requestException : PyException := .other "RequestException" ""

/-- What `get_tasks` selects: a filter that is empty is not sent. -/
def Task.isIn (task : Task) (projectId sectionId : String) : Bool :=
  (projectId = "" || task.projectId = projectId) && (sectionId = "" || task.sectionId = sectionId)

/-- What a call returns and does when the services answer it. A request about a page that does
not exist fails. -/
def serve (todoist : Todoist) :
    (call : Call) → World → Except PyException call.Answer × World
  | .getTasks projectId sectionId, world =>
    (.ok (world.tasks.filter fun task => task.isIn projectId sectionId), world)
  | .getSectionMap _, world => (.ok world.sectionMap, world)
  | .queryDatabase databaseId, world => (.ok (world.notion.query databaseId), world)
  | .setSectionOptions _ _, world => (.ok (), world)
  | .createPage databaseId properties, world =>
    (.ok (), { world with notion := world.notion.create databaseId properties })
  | .updatePage pageId properties, world =>
    match world.notion.page? pageId with
    | some _ => (.ok (), { world with notion := world.notion.update properties pageId })
    | none => (.error requestException, world)
  | .createTask item body, world =>
    let task := todoist.newTask world.tasks body
    (.ok { id := task.id, url := nonEmpty task.url },
      { world with tasks := world.tasks ++ [task], pushed := item :: world.pushed })
  | .updateSyncStatus _, world => (.ok (), world)

namespace Workspace

variable {notion : Workspace} {databaseId : String} {patch : Patch}

/-- A page after a request about one. -/
theorem page?_update (id other : Nat) :
    (notion.update patch id).page? other =
      if id = other then (notion.page? other).map fun page => page.update patch
      else notion.page? other := by
  show (notion.pages.modify id fun page => page.update patch)[other]? = _
  rw [List.getElem?_modify]
  by_cases same : id = other
  · simp only [same, if_true]
    rfl
  · simp only [same, if_false]
    exact Option.map_id'

/-- A page keeps its number. -/
theorem id_of_page? {id : Nat} {page : Page} (found : notion.page? id = some page) :
    page.id = id := notion.numbered id page found

/-- The pages of a database are the pages there are that belong to it. -/
theorem mem_query {page : Page} :
    page ∈ notion.query databaseId ↔
      notion.page? page.id = some page ∧ page.databaseId = databaseId := by
  unfold query
  rw [List.mem_filter, decide_eq_true_eq]
  apply and_congr_left'
  constructor
  · intro member
    rcases List.mem_iff_getElem?.mp member with ⟨place, held⟩
    rw [notion.numbered place page held]
    exact held
  · exact fun held => List.mem_of_getElem? held

/-- A page that there is has a number below the next one. -/
theorem lt_length_of_page? {id : Nat} {page : Page} (found : notion.page? id = some page) :
    id < notion.pages.length := (List.getElem?_eq_some_iff.mp found).1

/-- Creating a page leaves the others. -/
theorem page?_create_of_lt {id : Nat} (before : id < notion.pages.length) :
    (notion.create databaseId patch).page? id = notion.page? id :=
  List.getElem?_append_left before

/-- A page that is created is the next one. -/
theorem page?_create_self :
    (notion.create databaseId patch).page? notion.pages.length =
      some ⟨notion.pages.length, databaseId, patch.apply Properties.blank⟩ :=
  List.getElem?_concat_length

/-- A request about a page creates none. -/
theorem length_update (id : Nat) :
    (notion.update patch id).pages.length = notion.pages.length := List.length_modify ..

/-- A page is created. -/
theorem length_create :
    (notion.create databaseId patch).pages.length = notion.pages.length + 1 := by
  show (notion.pages ++ [_]).length = _
  simp

/-- The page that an ID leads to is a page of the database that shows it. -/
theorem page?_of_lookup {id : String} {pageId : Nat}
    (found : (existingMap (notion.query databaseId)).lookup id = some pageId) :
    ∃ page, notion.page? pageId = some page ∧ page.databaseId = databaseId ∧
      page.todoistId = id ∧ id ≠ "" := by
  have shown : id ≠ "" := by
    rintro rfl
    rw [lookup_existingMap_empty] at found
    cases found
  rcases exists_of_lookup_existingMap shown found with ⟨page, member, rfl, shows⟩
  rcases mem_query.mp member with ⟨held, inside⟩
  exact ⟨page, held, inside, shows, shown⟩

/-- Two IDs do not lead to one page. -/
theorem lookup_inj {first second : String} {pageId : Nat}
    (one : (existingMap (notion.query databaseId)).lookup first = some pageId)
    (other : (existingMap (notion.query databaseId)).lookup second = some pageId) :
    first = second := by
  rcases page?_of_lookup one with ⟨page, held, -, shows, -⟩
  rcases page?_of_lookup other with ⟨again, heldAgain, -, showsAgain, -⟩
  rw [held] at heldAgain
  cases heldAgain
  exact shows.symm.trans showsAgain

end Workspace

end VelaFlow.Notion
