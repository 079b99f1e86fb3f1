import Mathlib.Data.List.Nodup
import VelaFlow.Notion.Writes

/-!
# Where IDs lead during a sync

A sync reads every database again, after it has written to others. Where the identifiers of
Todoist survive sanitising, what it has written does not change where the ID of a page that was
there before leads to. So what a whole sync writes on such a page is said by the pages and tasks
at its start.
-/
namespace VelaFlow.Notion

open Program (run)

/-- Every page stays, with its ID, and every ID goes on leading to the old page it led to. -/
structure Stable (start now : Workspace) : Prop where
  /-- No page is gone. -/
  length : start.pages.length ≤ now.pages.length
  /-- The old pages are led to as before. -/
  lookup : ∀ databaseId text id, id < start.pages.length →
    ((existingMap (now.query databaseId)).lookup text = some id ↔
      (existingMap (start.query databaseId)).lookup text = some id)
  /-- The old pages have their IDs. -/
  named : ∀ id page, start.page? id = some page →
    ∃ other, now.page? id = some other ∧ other.todoistId = page.todoistId

/-- Nothing has changed. -/
theorem Stable.refl (notion : Workspace) : Stable notion notion :=
  ⟨le_refl _, fun _ _ _ _ => Iff.rfl, fun _ page found => ⟨page, found, rfl⟩⟩

/-- What is stable twice in a row is stable. -/
theorem Stable.trans {start middle now : Workspace} (first : Stable start middle)
    (later : Stable middle now) : Stable start now where
  length := first.length.trans later.length
  lookup databaseId text id before :=
    (later.lookup databaseId text id (before.trans_le first.length)).trans
      (first.lookup databaseId text id before)
  named id page found := by
    rcases first.named id page found with ⟨middlePage, inMiddle, same⟩
    rcases later.named id middlePage inMiddle with ⟨other, held, again⟩
    exact ⟨other, held, again.trans same⟩

/-- The map of items depends on their numbers and IDs alone. -/
theorem existingMap_map {items : List Page} {change : Page → Page}
    (same : ∀ page ∈ items, (change page).id = page.id ∧
      (change page).todoistId = page.todoistId) :
    existingMap (items.map change) = existingMap items := by
  unfold existingMap
  rw [List.foldl_map]
  apply List.foldl_ext
  intro known page member
  rw [(same page member).1, (same page member).2]

namespace Workspace

variable {notion : Workspace}

/-- A request about a page changes the page with its number. -/
theorem pages_update (patch : Patch) (id : Nat) :
    (notion.update patch id).pages =
      notion.pages.map fun page => if page.id = id then page.update patch else page := by
  apply List.ext_getElem?
  intro place
  show (notion.pages.modify id fun page => page.update patch)[place]? = _
  rw [List.getElem?_modify, List.getElem?_map]
  cases found : notion.pages[place]? with
  | none => rfl
  | some page =>
    have number := notion.numbered place page found
    by_cases same : id = place
    · simp only [same, number, if_true, Option.map_eq_map, Option.map_some]
    · have apart : page.id ≠ id := fun is => same (is.symm.trans number)
      simp only [same, apart, if_false, Option.map_eq_map, Option.map_some]

/-- A request that leaves the ID of its page leaves where every ID leads to. -/
theorem existingMap_update {patch : Patch} {id : Nat}
    (same : ∀ page, notion.page? id = some page →
      (page.update patch).todoistId = page.todoistId) (databaseId : String) :
    existingMap ((notion.update patch id).query databaseId) =
      existingMap (notion.query databaseId) := by
  have query : (notion.update patch id).query databaseId = (notion.query databaseId).map
      fun page => if page.id = id then page.update patch else page := by
    unfold Workspace.query
    rw [pages_update, List.filter_map]
    congr 1
    apply List.filter_congr
    intro page _
    by_cases is : page.id = id
    · simp only [Function.comp_apply, is, if_true]
      rfl
    · simp only [Function.comp_apply, is, if_false]
  rw [query]
  apply existingMap_map
  intro page member
  by_cases is : page.id = id
  · rw [if_pos is]
    exact ⟨rfl, same page (is ▸ (mem_query.mp member).1)⟩
  · rw [if_neg is]
    exact ⟨rfl, rfl⟩

/-- Where IDs lead to after a page is created. -/
theorem lookup_create (databaseId other : String) (patch : Patch) (text : String) :
    (existingMap ((notion.create databaseId patch).query other)).lookup text =
      if databaseId = other ∧ text ≠ "" ∧
          text = (⟨notion.pages.length, databaseId,
            patch.apply Properties.blank⟩ : Page).todoistId then
        some notion.pages.length
      else (existingMap (notion.query other)).lookup text := by
  have query : (notion.create databaseId patch).query other = notion.query other ++
      if databaseId = other then [⟨notion.pages.length, databaseId,
        patch.apply Properties.blank⟩] else [] := by
    unfold Workspace.query create
    rw [List.filter_append]
    congr 1
    by_cases same : databaseId = other
    · simp [same]
    · simp [same]
  rw [query]
  by_cases same : databaseId = other
  · rw [if_pos same]
    unfold existingMap
    rw [List.foldl_append, List.foldl_cons, List.foldl_nil]
    by_cases unnamed : (⟨notion.pages.length, databaseId,
        patch.apply Properties.blank⟩ : Page).todoistId = ""
    · rw [if_pos unnamed, unnamed, if_neg (fun both => both.2.1 both.2.2)]
    · rw [if_neg unnamed, lookup_setEntry]
      by_cases is : text = (⟨notion.pages.length, databaseId,
          patch.apply Properties.blank⟩ : Page).todoistId
      · rw [if_pos is, if_pos ⟨same, is ▸ unnamed, is⟩]
      · rw [if_neg is, if_neg (fun both => is both.2.2)]
  · rw [if_neg same, List.append_nil, if_neg (fun both => same both.1)]

end Workspace

/-- A request that leaves the ID of its page is stable. -/
theorem Stable.update {start now : Workspace} (stable : Stable start now) {patch : Patch}
    {id : Nat}
    (same : ∀ page, now.page? id = some page → (page.update patch).todoistId = page.todoistId) :
    Stable start (now.update patch id) := by
  apply stable.trans
  refine ⟨le_of_eq (Workspace.length_update id).symm, ?_, ?_⟩
  · intro databaseId text other _
    rw [Workspace.existingMap_update same]
  · intro other page found
    rw [Workspace.page?_update, found]
    by_cases is : id = other
    · rw [if_pos is]
      exact ⟨_, rfl, same page (is ▸ found)⟩
    · rw [if_neg is]
      exact ⟨page, rfl, rfl⟩

/-- Creating a page whose ID led to no old page is stable. -/
theorem Stable.create {start now : Workspace} (stable : Stable start now) {databaseId : String}
    {patch : Patch} {text : String}
    (shows : ∀ number, (⟨number, databaseId, patch.apply Properties.blank⟩ : Page).todoistId = text)
    (missing : (existingMap (start.query databaseId)).lookup text = none) :
    Stable start (now.create databaseId patch) := by
  have grown : now.pages.length ≤ (now.create databaseId patch).pages.length := by
    rw [Workspace.length_create]
    exact Nat.le_succ _
  refine ⟨stable.length.trans grown, ?_, ?_⟩
  · intro other key id before
    rw [Workspace.lookup_create, shows]
    by_cases new : databaseId = other ∧ key ≠ "" ∧ key = text
    · rw [if_pos new]
      rcases new with ⟨rfl, -, rfl⟩
      constructor
      · intro is
        have next := Option.some.inj is
        exact absurd (next ▸ before) (not_lt.mpr stable.length)
      · intro found
        rw [missing] at found
        cases found
    · rw [if_neg new]
      exact stable.lookup other key id before
  · intro id page found
    rcases stable.named id page found with ⟨other, held, same⟩
    exact ⟨other, (Workspace.page?_create_of_lt (Workspace.lt_length_of_page? held)).trans held,
      same⟩

/-- Writing a task is stable, where its ID survives sanitising and leads where it did at the
start. -/
theorem Stable.written {start now : Workspace} (stable : Stable start now) {databaseId : String}
    (includeSection : Bool) {task : Task} (clean : sanitizeText task.id 100 = task.id) :
    Stable start (now.written databaseId includeSection
      (existingMap (start.query databaseId)) task) := by
  cases found : (existingMap (start.query databaseId)).lookup task.id with
  | none =>
    rw [Workspace.written_of_none found]
    exact stable.create (fun _ => clean) found
  | some id =>
    rw [Workspace.written_of_lookup found]
    apply stable.update
    intro page held
    rcases Workspace.page?_of_lookup found with ⟨old, oldHeld, -, shows, -⟩
    rcases stable.named id old oldHeld with ⟨other, again, same⟩
    rw [held] at again
    cases again
    rw [same, shows]
    exact clean

/-- Writing tasks is stable, where their IDs survive sanitising. -/
theorem Stable.writtenAll {start now : Workspace} (stable : Stable start now)
    {databaseId : String} (includeSection : Bool) {tasks : List Task}
    (clean : ∀ task ∈ tasks, sanitizeText task.id 100 = task.id) :
    Stable start (now.writtenAll databaseId includeSection
      (existingMap (start.query databaseId)) tasks) := by
  unfold Workspace.writtenAll
  induction tasks generalizing now with
  | nil => exact stable
  | cons task rest ih =>
    exact ih (stable.written includeSection (clean task List.mem_cons_self))
      fun next member => clean next (List.mem_cons_of_mem _ member)

/-- Marking pages is stable. -/
theorem Stable.markedAll {start now : Workspace} (stable : Stable start now)
    (activeIds : List String) (entries : List (String × Nat)) :
    Stable start (entries.foldl (Workspace.marked activeIds) now) := by
  induction entries generalizing now with
  | nil => exact stable
  | cons entry rest ih =>
    apply ih
    unfold Workspace.marked
    split
    · exact stable
    · exact stable.update fun page _ => Page.todoistId_update_of_none rfl page

/-- The sync of a database is stable, where the IDs of the tasks survive sanitising. -/
theorem Stable.synced (notion : Workspace) (databaseId : String) (includeSection : Bool)
    {tasks : List Task} (markStaleDone : Bool)
    (clean : ∀ task ∈ tasks, sanitizeText task.id 100 = task.id) :
    Stable notion (notion.synced databaseId includeSection tasks markStaleDone) := by
  have wrote : Stable notion (notion.writtenAll databaseId includeSection
      (existingMap (notion.query databaseId)) tasks) :=
    (Stable.refl notion).writtenAll includeSection clean
  unfold Workspace.synced
  split
  · exact Stable.refl notion
  · dsimp only
    split
    · exact wrote.markedAll _ _
    · exact wrote

/-- Setting an entry keeps the keys different. -/
theorem nodup_setEntry {known : List (String × Nat)} (distinct : (known.map Prod.fst).Nodup)
    (key : String) (value : Nat) : ((setEntry known key value).map Prod.fst).Nodup := by
  induction known with
  | nil => exact List.nodup_singleton key
  | cons entry rest ih =>
    rw [List.map_cons, List.nodup_cons] at distinct
    unfold setEntry
    by_cases same : entry.1 = key
    · rw [if_pos same, List.map_cons, List.nodup_cons]
      exact ⟨same ▸ distinct.1, distinct.2⟩
    · rw [if_neg same, List.map_cons, List.nodup_cons]
      refine ⟨fun inside => ?_, ih distinct.2⟩
      rcases List.mem_map.mp inside with ⟨other, member, is⟩
      rcases Workspace.mem_setEntry member with rfl | earlier
      · exact same is.symm
      · exact distinct.1 (is ▸ List.mem_map_of_mem earlier)

/-- The map of items has each key once. -/
theorem nodup_existingMap (items : List Page) : ((existingMap items).map Prod.fst).Nodup := by
  unfold existingMap
  induction items using List.reverseRecOn with
  | nil => exact List.nodup_nil
  | append_singleton front item ih =>
    rw [List.foldl_append, List.foldl_cons, List.foldl_nil]
    split
    · exact ih
    · exact nodup_setEntry ih _ _

end VelaFlow.Notion
