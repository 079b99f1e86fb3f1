import Mathlib.Data.List.Perm.Basic
import VelaFlow.Foundation.KeyValue
import VelaFlow.Todoist.Agreement
import VelaFlow.Todoist.Fetching

/-!
# A filtered fetch against a full one

A filtered fetch reads the first page of its endpoint and gives the parser no sections. So it
agrees with the full fetch exactly when no matching task is behind the first page and none is in a
section that has a name.
-/
namespace VelaFlow.Todoist

open Planner Pipeline

/-- The state of the server. -/
structure Account where
  /-- The active tasks. -/
  tasks : List RawTask
  /-- Each task has an id of its own. -/
  distinct : (tasks.map RawTask.id).Nodup
  /-- The projects. -/
  projects : List RawName
  /-- The sections. -/
  sections : List RawName
  /-- Whether a task matches a query of the filter syntax. -/
  matching : String → RawTask → Bool

/-- The tasks that match a query. -/
def Account.found (account : Account) (query : String) : List RawTask :=
  account.tasks.filter (account.matching query)

/-- The endpoints serve the state page by page, each matching task once, in any order. -/
structure Presents (server : Server) (account : Account) : Prop where
  /-- `/tasks`. -/
  tasks : ∃ served, Serves (pages (server.tasks pageLimit)) none served ∧
    served.Perm account.tasks
  /-- `/tasks/filter`. -/
  filter : ∀ query, ∃ served, Serves (pages (server.filter query pageLimit)) none served ∧
    served.Perm (account.found query)
  /-- `/projects`. -/
  projects : Serves (pages (server.projects pageLimit)) none account.projects
  /-- `/sections`. -/
  sections : Serves (pages (server.sections pageLimit)) none account.sections

/-- A filtered fetch agrees with a full one: each matching task is returned once, and each returned
task is the one that the full fetch yields for its id. -/
structure AgreesWith (found : List RawTask) (filtered all : List Task) : Prop where
  /-- Each matching task is returned once. -/
  once : (filtered.map Task.id).Perm (found.map RawTask.id)
  /-- A returned task is that of the full fetch. -/
  same : ∀ task ∈ filtered, (all.find? fun other => decide (other.id = task.id)) = some task

section Agreement

variable {library : ClientLibrary}

/-- A task is in no section, or its section has no name. -/
def Unsectioned (library : ClientLibrary) (sections : List RawName) (raw : RawTask) : Prop :=
  (optionalText raw.sectionId).truthy = true →
    nameOf sections (library.idText raw.sectionId) = ""

/-- Only the name of its section depends on the sections. -/
theorem parseTask_eq_of_sectionName {raw : RawTask} {projects first second : List RawName}
    (same : (library.parseTask raw projects first).sectionName =
      (library.parseTask raw projects second).sectionName) :
    library.parseTask raw projects first = library.parseTask raw projects second := by
  have named (sections : List RawName) : library.parseTask raw projects sections =
      { library.parseTask raw projects [] with
        sectionName := (library.parseTask raw projects sections).sectionName } := rfl
  calc
    library.parseTask raw projects first = { library.parseTask raw projects [] with
        sectionName := (library.parseTask raw projects first).sectionName } := named first
    _ = { library.parseTask raw projects [] with
        sectionName := (library.parseTask raw projects second).sectionName } := by rw [same]
    _ = library.parseTask raw projects second := (named second).symm

/-- Without the sections a task is parsed alike exactly when no section gives it a name. -/
theorem parseTask_eq_iff (raw : RawTask) (projects sections : List RawName) :
    library.parseTask raw projects [] = library.parseTask raw projects sections ↔
      Unsectioned library sections raw := by
  have nameless : nameOf [] (library.idText raw.sectionId) = "" := rfl
  constructor
  · intro same sectioned
    have names := congrArg Task.sectionName same
    rw [client_sectionName, client_sectionName, if_pos sectioned, if_pos sectioned, nameless]
      at names
    exact (Json.str.inj names).symm
  · intro unsectioned
    apply parseTask_eq_of_sectionName
    rw [client_sectionName, client_sectionName, nameless]
    by_cases sectioned : (optionalText raw.sectionId).truthy = true
    · rw [if_pos sectioned, if_pos sectioned, unsectioned sectioned]
    · rw [if_neg sectioned, if_neg sectioned]

/-- The full fetch yields each task for its id. -/
theorem find_parsed_iff {account : Account} {served : List RawTask}
    (perm : served.Perm account.tasks) {raw : RawTask} (listed : raw ∈ account.tasks)
    (projects sections : List RawName) (task : Task) (named : task.id = raw.id) :
    ((served.map fun raw => library.parseTask raw projects sections).find?
      fun other => decide (other.id = task.id)) = some task ↔
      task = library.parseTask raw projects sections := by
  have distinct : (served.map RawTask.id).Nodup := (perm.map RawTask.id).nodup_iff.mpr account.distinct
  have ids : ((served.map fun raw => library.parseTask raw projects sections).map Task.id).Nodup := by
    rw [List.map_map]
    exact distinct
  rw [find?_key_iff ids]
  constructor
  · rintro ⟨inside, -⟩
    obtain ⟨other, member, rfl⟩ := List.mem_map.mp inside
    have is : other = raw := List.inj_on_of_nodup_map distinct member (perm.mem_iff.mpr listed) named
    rw [is]
  · rintro rfl
    exact ⟨List.mem_map_of_mem (perm.mem_iff.mpr listed), rfl⟩

/-- A page of the matching tasks agrees with all tasks exactly when it holds them all and none has
a name from its section. -/
theorem agreesWith_iff {account : Account} {query : String} {served found page : List RawTask}
    (perm : served.Perm account.tasks) (foundPerm : found.Perm (account.found query))
    (begins : page <+: found) :
    AgreesWith (account.found query)
      (page.map fun raw => library.parseTask raw account.projects [])
      (served.map fun raw => library.parseTask raw account.projects account.sections) ↔
      (account.found query).length ≤ page.length ∧
        ∀ raw ∈ account.found query, Unsectioned library account.sections raw := by
  have stored {raw : RawTask} (inside : raw ∈ account.found query) : raw ∈ account.tasks :=
    (List.mem_filter.mp inside).1
  have each (raw : RawTask) (inside : raw ∈ account.found query) :
      ((served.map fun raw => library.parseTask raw account.projects account.sections).find?
        fun other => decide (other.id = (library.parseTask raw account.projects []).id)) =
          some (library.parseTask raw account.projects []) ↔
        Unsectioned library account.sections raw :=
    (find_parsed_iff perm (stored inside) _ _ _ rfl).trans (parseTask_eq_iff raw _ _)
  constructor
  · intro agrees
    have many : (account.found query).length ≤ page.length := by
      have counts := agrees.once.length_eq
      rw [List.length_map, List.length_map, List.length_map] at counts
      exact counts.ge
    have whole : page = found := begins.eq_of_length_le (foundPerm.length_eq.trans_le many)
    refine ⟨many, fun raw inside => (each raw inside).mp ?_⟩
    refine agrees.same _ (List.mem_map_of_mem ?_)
    rw [whole]
    exact foundPerm.mem_iff.mpr inside
  · rintro ⟨many, unsectioned⟩
    have whole : page = found := begins.eq_of_length_le (foundPerm.length_eq.trans_le many)
    subst whole
    constructor
    · rw [List.map_map]
      exact foundPerm.map RawTask.id
    · refine List.forall_mem_map.mpr fun raw inside => ?_
      have isFound := foundPerm.mem_iff.mp inside
      exact (each raw isFound).mpr (unsectioned raw isFound)

/-- Both fetches return, and the filtered one agrees with the full one exactly when the first page
holds every matching task and none of them is in a section with a name. -/
theorem filtered_agrees_iff {server : Server} {account : Account}
    (presents : Presents server account) (query : String) :
    ∃ least, ∀ fuel, least ≤ fuel → ∃ all filtered,
      library.getTasks fuel server = some all ∧
      library.getFilteredTasks fuel server query = some filtered ∧
      (AgreesWith (account.found query) filtered all ↔
        (account.found query).length ≤ (server.filter query pageLimit none).results.length ∧
          ∀ raw ∈ account.found query, Unsectioned library account.sections raw) := by
  obtain ⟨served, servesTasks, perm⟩ := presents.tasks
  obtain ⟨found, servesFound, foundPerm⟩ := presents.filter query
  obtain ⟨tasksFuel, tasksReturn⟩ := paginate_of_serves servesTasks
  obtain ⟨projectsFuel, projectsReturn⟩ := paginate_of_serves presents.projects
  obtain ⟨sectionsFuel, sectionsReturn⟩ := paginate_of_serves presents.sections
  refine ⟨tasksFuel + projectsFuel + sectionsFuel, fun fuel enough => ?_⟩
  have tasks := tasksReturn fuel (by omega)
  have projects := projectsReturn fuel (by omega)
  have sections := sectionsReturn fuel (by omega)
  refine ⟨_, _, ?_, ?_, agreesWith_iff perm foundPerm servesFound.page_prefix⟩
  · unfold ClientLibrary.getTasks
    rw [tasks, projects, sections]
    rfl
  · unfold ClientLibrary.getFilteredTasks
    rw [projects]
    rfl

end Agreement

section Sample

/-- A task in a section and one in none, both of which match every query. -/
def account : Account where
  tasks := [taskOf .minute, { taskOf .minute with id := "2", sectionId := none }]
  distinct := by decide
  projects := [("p", "Home")]
  sections := [("s", "Urgent")]
  matching := fun _ _ => true

/-- A server that answers with one item a page. -/
def onePerPage {α : Type} (items : List α) (cursor : Option String) : Answer α :=
  match cursor, items with
  | none, first :: _ :: _ => ⟨[first], some "next"⟩
  | none, items => ⟨items, none⟩
  | some _, items => ⟨items.tail, none⟩

/-- The server of the sample account. -/
def server : Server where
  tasks _ cursor := onePerPage account.tasks cursor
  filter _ _ cursor := onePerPage account.tasks cursor
  projects _ cursor := onePerPage account.projects cursor
  sections _ cursor := onePerPage account.sections cursor

/-- The sample server presents the sample account. -/
theorem presents_account : Presents server account := by
  have two : Serves (pages (onePerPage account.tasks)) none account.tasks :=
    Serves.more rfl (Serves.last rfl)
  refine ⟨⟨_, two, List.Perm.refl _⟩, fun query => ⟨_, two, List.Perm.refl _⟩, ?_, ?_⟩
  · exact Serves.last rfl
  · exact Serves.last rfl

/-- Both fetches of the sample account return. -/
theorem filtered_agrees_account : ∃ least, ∀ fuel, least ≤ fuel → ∃ all filtered,
    sampleClient.getTasks fuel server = some all ∧
    sampleClient.getFilteredTasks fuel server "overdue" = some filtered ∧
    (AgreesWith (account.found "overdue") filtered all ↔
      (account.found "overdue").length ≤ (server.filter "overdue" pageLimit none).results.length ∧
        ∀ raw ∈ account.found "overdue", Unsectioned sampleClient account.sections raw) :=
  filtered_agrees_iff presents_account "overdue"

/-- The filtered fetch misses the task of the second page, and the section of the first. -/
theorem filtered_fetch_misses : ∃ all filtered, sampleClient.getTasks 2 server = some all ∧
    sampleClient.getFilteredTasks 2 server "overdue" = some filtered ∧
    all.map Task.id = ["1", "2"] ∧ filtered.map Task.id = ["1"] ∧
    all.map Task.sectionName = [.str "Urgent", .str ""] ∧
    filtered.map Task.sectionName = [.str ""] ∧
    ¬ AgreesWith (account.found "overdue") filtered all := by
  refine ⟨_, _, rfl, rfl, rfl, rfl, rfl, rfl, fun agrees => ?_⟩
  have counts := agrees.once.length_eq
  exact absurd counts (by decide)

end Sample

end VelaFlow.Todoist
