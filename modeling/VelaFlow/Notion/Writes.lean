import VelaFlow.Foundation.KeyValue
import VelaFlow.Notion.Services

/-!
# What the sync of a database writes

When every call succeeds, `sync_tasks_to_database` changes Notion alone: the page that the ID of a
task leads to takes what is written of the task, a page is created for every other task, and the
pages of the tasks that are gone are marked.
-/
namespace VelaFlow.Notion

open Program (run)

namespace Workspace

variable (databaseId : String) (includeSection : Bool) (known : List (String × Nat))
  (activeIds : List String)

/-- The pages after one task is written. -/
def written (notion : Workspace) (task : Task) : Workspace :=
  match known.lookup task.id with
  | some pageId => notion.update (taskToProperties task includeSection) pageId
  | none => notion.create databaseId (taskToProperties task includeSection)

/-- The numbers of created and updated pages after one task is written. -/
def counted (counts : Nat × Nat) (task : Task) : Nat × Nat :=
  if (known.lookup task.id).isSome then (counts.1, counts.2 + 1) else (counts.1 + 1, counts.2)

/-- The pages after the tasks are written, in order. -/
def writtenAll (notion : Workspace) (tasks : List Task) : Workspace :=
  tasks.foldl (written databaseId includeSection known) notion

/-- The pages after one entry is looked at for a task that is gone. -/
def marked (notion : Workspace) (entry : String × Nat) : Workspace :=
  if activeIds.contains entry.1 then notion else notion.update doneProps entry.2

/-- The pages after the sync of a database. -/
def synced (notion : Workspace) (tasks : List Task) (markStaleDone : Bool) : Workspace :=
  if tasks.isEmpty && !markStaleDone then notion
  else
    let known := existingMap (notion.query databaseId)
    let left := notion.writtenAll databaseId includeSection known tasks
    if markStaleDone then known.foldl (marked (tasks.map Task.id)) left else left

/-- Every entry of a map leads to a page. -/
def Leads (notion : Workspace) : Prop := ∀ entry ∈ known, entry.2 < notion.pages.length

variable {databaseId includeSection known activeIds}

/-- An entry after one is set is it or an earlier one. -/
theorem mem_setEntry {key : String} {value : Nat} {entry : String × Nat}
    (member : entry ∈ setEntry known key value) : entry = (key, value) ∨ entry ∈ known := by
  induction known with
  | nil => exact Or.inl (List.mem_singleton.mp member)
  | cons first rest ih =>
    unfold setEntry at member
    by_cases same : first.1 = key
    · rw [if_pos same, List.mem_cons] at member
      exact member.imp_right (List.mem_cons_of_mem _)
    · rw [if_neg same, List.mem_cons] at member
      rcases member with is | later
      · exact Or.inr (is ▸ List.mem_cons_self)
      · exact (ih later).imp_right (List.mem_cons_of_mem _)

/-- Every entry of the map of existing items is an item with its ID. -/
theorem mem_existingMap {items : List Page} {entry : String × Nat}
    (member : entry ∈ existingMap items) :
    ∃ page ∈ items, page.id = entry.2 ∧ page.todoistId = entry.1 := by
  unfold existingMap at member
  induction items using List.reverseRecOn with
  | nil => cases member
  | append_singleton front item ih =>
    rw [List.foldl_append, List.foldl_cons, List.foldl_nil] at member
    have earlier : entry ∈ (front.foldl (fun known item =>
        if item.todoistId = "" then known else setEntry known item.todoistId item.id) []) →
        ∃ page ∈ front ++ [item], page.id = entry.2 ∧ page.todoistId = entry.1 := by
      intro inside
      rcases ih inside with ⟨page, held, is⟩
      exact ⟨page, List.mem_append_left _ held, is⟩
    by_cases unnamed : item.todoistId = ""
    · rw [if_pos unnamed] at member
      exact earlier member
    · rw [if_neg unnamed] at member
      rcases mem_setEntry member with rfl | inside
      · exact ⟨item, List.mem_append_right _ (List.mem_singleton.mpr rfl), rfl, rfl⟩
      · exact earlier inside

/-- The map of the items of a database leads to pages. -/
theorem leads_existingMap (notion : Workspace) (databaseId : String) :
    Leads (existingMap (notion.query databaseId)) notion := by
  intro entry member
  rcases mem_existingMap member with ⟨page, inside, is, -⟩
  rw [← is]
  exact lt_length_of_page? (mem_query.mp inside).1

/-- A task that leads to a page is written on it. -/
theorem written_of_lookup {task : Task} {id : Nat} (found : known.lookup task.id = some id)
    (notion : Workspace) :
    notion.written databaseId includeSection known task =
      notion.update (taskToProperties task includeSection) id := by
  unfold written
  rw [found]

/-- A page is created for a task that leads to none. -/
theorem written_of_none {task : Task} (missing : known.lookup task.id = none)
    (notion : Workspace) :
    notion.written databaseId includeSection known task =
      notion.create databaseId (taskToProperties task includeSection) := by
  unfold written
  rw [missing]

/-- Writing a task removes no page. -/
theorem length_le_written (notion : Workspace) (task : Task) :
    notion.pages.length ≤
      (notion.written databaseId includeSection known task).pages.length := by
  cases found : known.lookup task.id with
  | some pageId => rw [written_of_lookup found, length_update]
  | none =>
    rw [written_of_none found, length_create]
    exact Nat.le_succ _

/-- Writing tasks removes no page. -/
theorem length_le_writtenAll (notion : Workspace) (tasks : List Task) :
    notion.pages.length ≤
      (notion.writtenAll databaseId includeSection known tasks).pages.length := by
  unfold writtenAll
  induction tasks generalizing notion with
  | nil => exact le_refl _
  | cons task rest ih => exact (length_le_written notion task).trans (ih _)

/-- A map leads on to pages after a task is written. -/
theorem Leads.written {notion : Workspace} (leads : Leads known notion) (task : Task) :
    Leads known (notion.written databaseId includeSection known task) :=
  fun entry member => (leads entry member).trans_le (length_le_written notion task)

/-- A map leads on to pages after the tasks are written. -/
theorem Leads.writtenAll {notion : Workspace} (leads : Leads known notion) (tasks : List Task) :
    Leads known (notion.writtenAll databaseId includeSection known tasks) :=
  fun entry member => (leads entry member).trans_le (length_le_writtenAll notion tasks)

/-- A map leads on to pages after one is marked. -/
theorem Leads.marked {notion : Workspace} (leads : Leads known notion) (entry : String × Nat) :
    Leads known (notion.marked activeIds entry) := by
  intro other member
  unfold Workspace.marked
  by_cases active : activeIds.contains entry.1 = true
  · rw [if_pos active]
    exact leads other member
  · rw [if_neg active, length_update]
    exact leads other member

/-- A page that no task leads to stays when a task is written. -/
theorem page?_written_of_ne {notion : Workspace} {task : Task} {id : Nat}
    (before : id < notion.pages.length) (other : known.lookup task.id ≠ some id) :
    (notion.written databaseId includeSection known task).page? id = notion.page? id := by
  cases found : known.lookup task.id with
  | some pageId =>
    have apart : pageId ≠ id := fun same => other (found.trans (congrArg some same))
    rw [written_of_lookup found, page?_update, if_neg apart]
  | none => rw [written_of_none found, page?_create_of_lt before]

/-- A page that none of the tasks leads to stays when they are written. -/
theorem page?_writtenAll_of_ne {notion : Workspace} {tasks : List Task} {id : Nat}
    (before : id < notion.pages.length)
    (others : ∀ task ∈ tasks, known.lookup task.id ≠ some id) :
    (notion.writtenAll databaseId includeSection known tasks).page? id = notion.page? id := by
  unfold writtenAll
  induction tasks generalizing notion with
  | nil => rfl
  | cons task rest ih =>
    have grown : notion.pages.length ≤
        (notion.written databaseId includeSection known task).pages.length :=
      length_le_written notion task
    have later := ih (before.trans_le grown)
      fun next member => others next (List.mem_cons_of_mem _ member)
    exact later.trans (page?_written_of_ne before (others task List.mem_cons_self))

/-- The page that a task leads to takes what is written of it. -/
theorem page?_writtenAll_of_lookup {notion : Workspace} {tasks : List Task}
    (distinct : (tasks.map Task.id).Nodup)
    (injective : ∀ first second id, known.lookup first = some id → known.lookup second = some id →
      first = second)
    (leads : Leads known notion) {task : Task} (member : task ∈ tasks) {id : Nat}
    (found : known.lookup task.id = some id) :
    (notion.writtenAll databaseId includeSection known tasks).page? id =
      (notion.page? id).map fun page => page.update (taskToProperties task includeSection) := by
  unfold writtenAll
  induction tasks generalizing notion with
  | nil => cases member
  | cons first rest ih =>
    rw [List.map_cons, List.nodup_cons] at distinct
    have before : id < notion.pages.length := leads _ (mem_of_lookup found)
    by_cases same : task = first
    · subst same
      have others : ∀ next ∈ rest, known.lookup next.id ≠ some id := by
        intro next later leadsToo
        have equal := injective _ _ _ leadsToo found
        exact distinct.1 (equal ▸ List.mem_map_of_mem later)
      have grown : notion.pages.length ≤
          (notion.written databaseId includeSection known task).pages.length :=
        length_le_written notion task
      refine (page?_writtenAll_of_ne (before.trans_le grown) others).trans ?_
      rw [written_of_lookup found, page?_update, if_pos rfl]
    · have later := (List.mem_cons.mp member).resolve_left same
      have apart : known.lookup first.id ≠ some id := by
        intro leadsToo
        have equal := injective _ _ _ leadsToo found
        exact distinct.1 (equal ▸ List.mem_map_of_mem later)
      refine (ih distinct.2 (leads.written first) later).trans ?_
      rw [page?_written_of_ne before apart]

/-- A page is created for a task that leads to none. -/
theorem page?_writtenAll_of_none {notion : Workspace} {tasks : List Task}
    (leads : Leads known notion) {task : Task} (member : task ∈ tasks)
    (missing : known.lookup task.id = none) :
    ∃ id, notion.pages.length ≤ id ∧
      (notion.writtenAll databaseId includeSection known tasks).page? id =
        some ⟨id, databaseId,
          (taskToProperties task includeSection).apply Properties.blank⟩ := by
  unfold writtenAll
  induction tasks generalizing notion with
  | nil => cases member
  | cons first rest ih =>
    by_cases same : task = first
    · subst same
      refine ⟨notion.pages.length, le_refl _, ?_⟩
      have others : ∀ next ∈ rest, known.lookup next.id ≠ some notion.pages.length :=
        fun next _ found => absurd (leads _ (mem_of_lookup found)) (lt_irrefl _)
      show ((notion.written databaseId includeSection known task).writtenAll databaseId
        includeSection known rest).page? notion.pages.length = _
      have made : notion.written databaseId includeSection known task =
          notion.create databaseId (taskToProperties task includeSection) :=
        written_of_none missing notion
      have inside : notion.pages.length <
          (notion.written databaseId includeSection known task).pages.length := by
        rw [made, length_create]
        exact Nat.lt_succ_self _
      rw [page?_writtenAll_of_ne inside others, made, page?_create_self]
    · have later := (List.mem_cons.mp member).resolve_left same
      rcases ih (leads.written first) later with ⟨id, new, held⟩
      exact ⟨id, (length_le_written notion first).trans new, held⟩

/-- A page that was not there is created for a task that leads to none. -/
theorem exists_of_page?_writtenAll {notion : Workspace} {tasks : List Task}
    (leads : Leads known notion) {id : Nat} (new : notion.pages.length ≤ id) {page : Page}
    (held : (notion.writtenAll databaseId includeSection known tasks).page? id = some page) :
    ∃ task ∈ tasks, known.lookup task.id = none ∧
      page = ⟨id, databaseId,
        (taskToProperties task includeSection).apply Properties.blank⟩ := by
  unfold writtenAll at held
  induction tasks generalizing notion with
  | nil => exact absurd (lt_length_of_page? held) (not_lt.mpr new)
  | cons first rest ih =>
    by_cases reached : (notion.written databaseId includeSection known first).pages.length ≤ id
    · rcases ih (leads.written first) reached held with ⟨task, member, missing, shows⟩
      exact ⟨task, List.mem_cons_of_mem _ member, missing, shows⟩
    · have small := not_le.mp reached
      cases found : known.lookup first.id with
      | some pageId =>
        rw [written_of_lookup found, length_update] at small
        exact absurd small (not_lt.mpr new)
      | none =>
        have grown := small
        rw [written_of_none found, length_create] at grown
        have next : id = notion.pages.length := by omega
        subst next
        have others : ∀ later ∈ rest, known.lookup later.id ≠ some notion.pages.length :=
          fun later _ leadsToo => absurd (leads _ (mem_of_lookup leadsToo)) (lt_irrefl _)
        have stays := (page?_writtenAll_of_ne small others).symm.trans held
        rw [written_of_none found, page?_create_self, Option.some.injEq] at stays
        exact ⟨first, List.mem_cons_self, found, stays.symm⟩

/-- The pages that entries for tasks that are gone lead to are marked, and no other. -/
theorem page?_markedAll (notion : Workspace) (entries : List (String × Nat)) (id : Nat) :
    (entries.foldl (marked activeIds) notion).page? id =
      (notion.page? id).map fun page =>
        if ∃ entry ∈ entries, entry.2 = id ∧ entry.1 ∉ activeIds then page.update doneProps
        else page := by
  induction entries generalizing notion with
  | nil => simp
  | cons entry rest ih =>
    rw [List.foldl_cons, ih]
    have split : (∃ other ∈ entry :: rest, other.2 = id ∧ other.1 ∉ activeIds) ↔
        (entry.2 = id ∧ entry.1 ∉ activeIds) ∨
          ∃ other ∈ rest, other.2 = id ∧ other.1 ∉ activeIds := by
      simp only [List.mem_cons, exists_eq_or_imp]
    simp only [split]
    unfold marked
    by_cases active : entry.1 ∈ activeIds
    · rw [if_pos (List.contains_iff_mem.mpr active)]
      simp only [active, not_true_eq_false, and_false, false_or]
    · rw [if_neg (mt List.contains_iff_mem.mp active), page?_update]
      by_cases same : entry.2 = id
      · rw [if_pos same, Option.map_map]
        congr 1
        funext page
        rw [if_pos (Or.inl ⟨same, active⟩), Function.comp_apply]
        by_cases later : ∃ other ∈ rest, other.2 = id ∧ other.1 ∉ activeIds
        · rw [if_pos later]
          exact page.update_update doneProps
        · rw [if_neg later]
      · rw [if_neg same]
        simp only [same, false_and, false_or]

/-- The pages after the sync of a database: the tasks are written, and then the pages of the tasks
that are gone are marked. -/
theorem page?_synced (notion : Workspace) (databaseId : String) (includeSection : Bool)
    (tasks : List Task) (markStaleDone : Bool) (id : Nat) :
    (notion.synced databaseId includeSection tasks markStaleDone).page? id =
      ((notion.writtenAll databaseId includeSection (existingMap (notion.query databaseId))
        tasks).page? id).map fun page =>
          if markStaleDone = true ∧ ∃ entry ∈ existingMap (notion.query databaseId),
            entry.2 = id ∧ entry.1 ∉ tasks.map Task.id then page.update doneProps
          else page := by
  unfold synced
  by_cases marks : markStaleDone = true
  · rw [if_neg (by simp [marks])]
    dsimp only
    rw [if_pos marks, page?_markedAll]
    simp only [marks, true_and]
  · have plain : ∀ left : Workspace, left.page? id = (left.page? id).map fun page =>
        if markStaleDone = true ∧ ∃ entry ∈ existingMap (notion.query databaseId),
          entry.2 = id ∧ entry.1 ∉ tasks.map Task.id then page.update doneProps
        else page := by
      intro left
      simp [marks]
    by_cases idle : (tasks.isEmpty && !markStaleDone) = true
    · rw [if_pos idle]
      rw [Bool.and_eq_true, List.isEmpty_iff] at idle
      have nothing : notion.writtenAll databaseId includeSection
          (existingMap (notion.query databaseId)) tasks = notion := by
        rw [idle.1]
        rfl
      rw [nothing]
      exact plain notion
    · rw [if_neg idle]
      dsimp only
      rw [if_neg marks]
      exact plain _

end Workspace

variable (todoist : Todoist)

/-- A call that succeeds needs no handler. -/
theorem run_onFailure {α : Type} {program : Sync α} {otherwise value : α} {world left : World}
    (returns : run (serve todoist) program world = (.ok value, left)) :
    run (serve todoist) (onFailure program otherwise) world = (.ok value, left) := by
  unfold onFailure
  rw [Program.run_tryCatch, returns]

/-- A request about a page that there is updates it. -/
theorem run_updatePage {world : World} {id : Nat} (inside : id < world.notion.pages.length)
    (patch : Patch) :
    run (serve todoist) (updatePage id patch) world =
      (.ok (), { world with notion := world.notion.update patch id }) := by
  have held : world.notion.page? id = some world.notion.pages[id] :=
    List.getElem?_eq_getElem inside
  have served : serve todoist (.updatePage id patch) world =
      (.ok (), { world with notion := world.notion.update patch id }) := by
    simp only [serve, held]
  unfold updatePage
  rw [Program.run_act]
  exact served

/-- One pass of the loop over the tasks writes the task. -/
theorem run_syncTask (databaseId : String) (includeSection : Bool)
    {known : List (String × Nat)} {world : World} (leads : Workspace.Leads known world.notion)
    (counts : Nat × Nat) (task : Task) :
    run (serve todoist) (syncTask databaseId includeSection known counts task) world =
      (.ok (Workspace.counted known counts task),
        { world with notion := world.notion.written databaseId includeSection known task }) := by
  unfold syncTask Workspace.counted
  dsimp only
  cases found : known.lookup task.id with
  | some pageId =>
    apply run_onFailure todoist
    rw [Program.run_bind, run_updatePage todoist (leads _ (mem_of_lookup found)),
      Workspace.written_of_lookup found]
    rfl
  | none =>
    apply run_onFailure todoist
    rw [Workspace.written_of_none found]
    rfl

/-- The loop over the tasks writes them. -/
theorem run_syncTasks (databaseId : String) (includeSection : Bool)
    {known : List (String × Nat)} {world : World} (leads : Workspace.Leads known world.notion)
    (counts : Nat × Nat) (tasks : List Task) :
    run (serve todoist) (tasks.foldlM (syncTask databaseId includeSection known) counts) world =
      (.ok (tasks.foldl (Workspace.counted known) counts),
        { world with notion := world.notion.writtenAll databaseId includeSection known tasks }) := by
  induction tasks generalizing world counts with
  | nil => rfl
  | cons task rest ih =>
    rw [List.foldlM_cons, Program.run_bind,
      run_syncTask todoist databaseId includeSection leads counts task]
    exact @ih { world with
        notion := world.notion.written databaseId includeSection known task }
      (leads.written task) (Workspace.counted known counts task)

/-- The loop over the existing items marks the stale ones. -/
theorem run_markStale (activeIds : List String) {entries : List (String × Nat)} {world : World}
    (leads : Workspace.Leads entries world.notion) :
    run (serve todoist) (entries.forM (markStale activeIds)) world =
      (.ok (),
        { world with notion := entries.foldl (Workspace.marked activeIds) world.notion }) := by
  induction entries generalizing world with
  | nil => rfl
  | cons entry rest ih =>
    have first : run (serve todoist) (markStale activeIds entry) world =
        (.ok (), { world with notion := world.notion.marked activeIds entry }) := by
      unfold markStale Workspace.marked
      by_cases active : activeIds.contains entry.1 = true
      · rw [if_pos active, if_pos active]
        rfl
      · rw [if_neg active, if_neg active]
        exact run_onFailure todoist (run_updatePage todoist (leads entry List.mem_cons_self) _)
    have others : Workspace.Leads rest (world.notion.marked activeIds entry) :=
      Workspace.Leads.marked (fun other member => leads other (List.mem_cons_of_mem _ member)) entry
    show run (serve todoist)
      (markStale activeIds entry >>= fun _ => rest.forM (markStale activeIds)) world = _
    rw [Program.run_bind, first]
    exact @ih { world with notion := world.notion.marked activeIds entry } others

/-- The sync of a database, when every call succeeds. -/
theorem run_syncTasksToDatabase (databaseId : String) (tasks : List Task)
    (includeSection markStaleDone : Bool) (world : World) :
    run (serve todoist)
        (syncTasksToDatabase databaseId tasks includeSection markStaleDone) world =
      (.ok (tasks.foldl
          (Workspace.counted (existingMap (world.notion.query databaseId))) (0, 0)),
        { world with
          notion := world.notion.synced databaseId includeSection tasks markStaleDone }) := by
  unfold syncTasksToDatabase Workspace.synced
  by_cases idle : (tasks.isEmpty && !markStaleDone) = true
  · rw [if_pos idle, if_pos idle]
    rw [Bool.and_eq_true, List.isEmpty_iff] at idle
    rw [idle.1]
    rfl
  · rw [if_neg idle, if_neg idle]
    have leads := Workspace.leads_existingMap world.notion databaseId
    have queried : run (serve todoist) (queryDatabase databaseId) world =
        (.ok (world.notion.query databaseId), world) := rfl
    rw [Program.run_bind, queried]
    dsimp only
    rw [Program.run_bind, run_syncTasks todoist databaseId includeSection leads (0, 0) tasks]
    dsimp only
    by_cases marks : markStaleDone = true
    · rw [if_pos marks, if_pos marks, Program.run_bind,
        run_markStale todoist (tasks.map Task.id) (leads.writtenAll tasks)]
      rfl
    · rw [if_neg marks, if_neg marks]
      rfl

end VelaFlow.Notion
