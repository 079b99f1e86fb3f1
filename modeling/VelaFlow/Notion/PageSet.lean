import VelaFlow.Notion.Lookups
import VelaFlow.Notion.Mirror

/-!
# The pages after a sync

Where no two pages of a database carry one ID, the sync leaves one page for each task: the page
that carried its ID, or a new one. The pages of other IDs are marked as done and the pages without
an ID stay. A second sync finds every page as it would write it.
-/
namespace VelaFlow.Notion

open Program (run)

/-- The identifiers of tasks are different, not empty, of at most 100 characters and without
control characters. -/
structure PlainIds (tasks : List Task) : Prop where
  /-- No two tasks have one identifier. -/
  distinct : (tasks.map Task.id).Nodup
  /-- No identifier is empty. -/
  nonempty : ∀ task ∈ tasks, task.id ≠ ""
  /-- Every identifier fits. -/
  short : ∀ task ∈ tasks, task.id.length ≤ 100
  /-- No identifier has a control character. -/
  printable : ∀ task ∈ tasks, ∀ character ∈ task.id.toList, Security.isControl character = false

/-- A plain identifier is written as it is. -/
theorem PlainIds.clean {tasks : List Task} (plain : PlainIds tasks) {task : Task}
    (member : task ∈ tasks) : sanitizeText task.id 100 = task.id := by
  have printable : (task.id.toList.filter fun character => !Security.isControl character) =
      task.id.toList := by
    rw [List.filter_eq_self]
    intro character inside
    rw [plain.printable task member character inside]
    rfl
  unfold sanitizeText Security.stripControl
  rw [printable, String.ofList_toList, List.take_of_length_le (plain.short task member),
    String.ofList_toList]

/-- Tasks with one identifier are one task. -/
theorem PlainIds.eq_of_id {tasks : List Task} (plain : PlainIds tasks) {first second : Task}
    (one : first ∈ tasks) (other : second ∈ tasks) (same : first.id = second.id) :
    first = second := List.inj_on_of_nodup_map plain.distinct one other same

/-- Identifiers stay plain without the first task. -/
theorem PlainIds.tail {task : Task} {rest : List Task} (plain : PlainIds (task :: rest)) :
    PlainIds rest where
  distinct := (List.nodup_cons.mp plain.distinct).2
  nonempty next member := plain.nonempty next (List.mem_cons_of_mem _ member)
  short next member := plain.short next (List.mem_cons_of_mem _ member)
  printable next member := plain.printable next (List.mem_cons_of_mem _ member)

namespace Workspace

/-- No two pages of a database carry one ID. -/
def Keyed (notion : Workspace) (databaseId : String) : Prop :=
  ∀ first ∈ notion.query databaseId, ∀ second ∈ notion.query databaseId,
    first.todoistId ≠ "" → first.todoistId = second.todoistId → first = second

/-- The pages of a database after the sync of tasks. -/
structure PageSet (before after : Workspace) (databaseId : String) (tasks : List Task) :
    Prop where
  /-- Every task has one page. -/
  one : ∀ task ∈ tasks, ∃! page, page ∈ after.query databaseId ∧ page.todoistId = task.id
  /-- The pages of other IDs are marked as done. -/
  done : ∀ page ∈ before.query databaseId, page.todoistId ≠ "" →
    page.todoistId ∉ tasks.map Task.id → page.update doneProps ∈ after.query databaseId
  /-- The pages without an ID stay. -/
  untouched : ∀ page ∈ before.query databaseId, page.todoistId = "" →
    page ∈ after.query databaseId
  /-- There are no other pages. -/
  only : ∀ page ∈ after.query databaseId, page.todoistId ∈ tasks.map Task.id ∨
    (page ∈ before.query databaseId ∧ page.todoistId = "") ∨
    ∃ old ∈ before.query databaseId, old.todoistId ≠ "" ∧ old.todoistId ∉ tasks.map Task.id ∧
      page = old.update doneProps
  /-- The pages of other databases stay. -/
  elsewhere : ∀ page, page.databaseId ≠ databaseId →
    (after.page? page.id = some page ↔ before.page? page.id = some page)

/-- Where a page comes from that there is after the sync. -/
inductive Origin (notion : Workspace) (databaseId : String) (includeSection : Bool)
    (tasks : List Task) (id : Nat) : Page → Prop where
  /-- It carried the ID of a task, which was written on it. -/
  | updated (task : Task) (old : Page) (member : task ∈ tasks)
      (held : notion.page? id = some old) (inside : old.databaseId = databaseId)
      (carried : old.todoistId = task.id) :
      Origin notion databaseId includeSection tasks id
        (old.update (taskToProperties task includeSection))
  /-- It was created for a task whose ID no page carried. -/
  | created (task : Task) (member : task ∈ tasks) (new : notion.page? id = none)
      (missing : (existingMap (notion.query databaseId)).lookup task.id = none) :
      Origin notion databaseId includeSection tasks id
        ⟨id, databaseId, (taskToProperties task includeSection).apply Properties.blank⟩
  /-- It carried another ID and was marked. -/
  | finished (old : Page) (held : notion.page? id = some old)
      (inside : old.databaseId = databaseId) (named : old.todoistId ≠ "")
      (gone : old.todoistId ∉ tasks.map Task.id) :
      Origin notion databaseId includeSection tasks id (old.update doneProps)
  /-- It carried no ID or belongs to another database. -/
  | kept (page : Page) (held : notion.page? id = some page)
      (apart : page.databaseId = databaseId → page.todoistId = "") :
      Origin notion databaseId includeSection tasks id page

variable {notion : Workspace} {databaseId : String} {tasks : List Task} {includeSection : Bool}

/-- An entry of the map is the page it leads to. -/
theorem page_of_entry {entry : String × Nat} (member : entry ∈ existingMap (notion.query databaseId))
    {page : Page} (held : notion.page? entry.2 = some page) :
    page.databaseId = databaseId ∧ page.todoistId = entry.1 ∧ page.todoistId ≠ "" := by
  have found := lookup_of_mem (nodup_existingMap _) member
  obtain ⟨other, again, inside, carried, named⟩ := page?_of_lookup found
  rw [held] at again
  cases again
  exact ⟨inside, carried, carried ▸ named⟩

/-- An ID that an item carries leads somewhere. -/
theorem isSome_lookup {items : List Page} {page : Page} (member : page ∈ items)
    (named : page.todoistId ≠ "") :
    ((existingMap items).lookup page.todoistId).isSome = true := by
  rw [lookup_existingMap _ named, Option.isSome_map, List.getLast?_isSome]
  exact List.ne_nil_of_mem (List.mem_filter.mpr ⟨member, decide_eq_true rfl⟩)

/-- Where no two pages carry one ID, an ID leads to the page that carries it. -/
theorem Keyed.lookup (keyed : notion.Keyed databaseId) {page : Page}
    (member : page ∈ notion.query databaseId) (named : page.todoistId ≠ "") :
    (existingMap (notion.query databaseId)).lookup page.todoistId = some page.id := by
  obtain ⟨id, found⟩ := Option.isSome_iff_exists.mp (isSome_lookup member named)
  obtain ⟨other, listed, rfl, carried⟩ := exists_of_lookup_existingMap named found
  rw [found, keyed page member other listed named carried.symm]

/-- The page of a task is the one that carries its ID. -/
theorem Keyed.lookup_task (keyed : notion.Keyed databaseId) {id : Nat} {page : Page}
    (held : notion.page? id = some page) (inside : page.databaseId = databaseId)
    (named : page.todoistId ≠ "") :
    (existingMap (notion.query databaseId)).lookup page.todoistId = some id := by
  have number : page.id = id := id_of_page? held
  have member : page ∈ notion.query databaseId := by
    rw [mem_query, number]
    exact ⟨held, inside⟩
  rw [keyed.lookup member named, number]

/-- The page of a task is not marked: it is marked only when its ID is that of no task. -/
theorem Keyed.marked_iff (keyed : notion.Keyed databaseId) {id : Nat} {page : Page}
    (held : notion.page? id = some page) :
    (∃ entry ∈ existingMap (notion.query databaseId),
      entry.2 = id ∧ entry.1 ∉ tasks.map Task.id) ↔
      page.databaseId = databaseId ∧ page.todoistId ≠ "" ∧
        page.todoistId ∉ tasks.map Task.id := by
  constructor
  · rintro ⟨entry, member, rfl, gone⟩
    obtain ⟨inside, carried, named⟩ := page_of_entry member held
    exact ⟨inside, named, carried ▸ gone⟩
  · rintro ⟨inside, named, gone⟩
    exact ⟨(page.todoistId, id), mem_of_lookup (keyed.lookup_task held inside named), rfl, gone⟩

/-- A page that is new is not marked. -/
theorem page?_synced_of_new {id : Nat} (new : notion.page? id = none) :
    (notion.synced databaseId includeSection tasks true).page? id =
      (notion.writtenAll databaseId includeSection (existingMap (notion.query databaseId))
        tasks).page? id := by
  rw [page?_synced]
  have unmarked : ¬ ∃ entry ∈ existingMap (notion.query databaseId),
      entry.2 = id ∧ entry.1 ∉ tasks.map Task.id := by
    rintro ⟨entry, member, rfl, -⟩
    have leads := leads_existingMap notion databaseId entry member
    exact absurd (List.getElem?_eq_none_iff.mp new) (not_le.mpr leads)
  simp only [unmarked, and_false, if_false, Option.map_id']

/-- A page that carries the ID of a task is written. -/
theorem page?_synced_of_task (plain : PlainIds tasks) (keyed : notion.Keyed databaseId) {id : Nat}
    {old : Page} (held : notion.page? id = some old) (inside : old.databaseId = databaseId)
    {task : Task} (member : task ∈ tasks) (carried : old.todoistId = task.id) :
    (notion.synced databaseId includeSection tasks true).page? id =
      some (old.update (taskToProperties task includeSection)) := by
  have named : old.todoistId ≠ "" := carried ▸ plain.nonempty task member
  have found := keyed.lookup_task held inside named
  rw [carried] at found
  have wrote := @page?_writtenAll_of_lookup databaseId includeSection _ notion tasks
    plain.distinct (fun _ _ _ one other => lookup_inj one other)
    (leads_existingMap notion databaseId) task member id found
  have active : old.todoistId ∈ tasks.map Task.id := carried ▸ List.mem_map_of_mem member
  rw [page?_synced, wrote, held]
  simp only [keyed.marked_iff held, active, not_true_eq_false, and_false, if_false,
    Option.map_some]

/-- A page is not written when it is not that of a task. -/
theorem page?_synced_of_apart (keyed : notion.Keyed databaseId) {id : Nat} {old : Page}
    (held : notion.page? id = some old)
    (apart : old.databaseId = databaseId → old.todoistId ∉ tasks.map Task.id) :
    (notion.synced databaseId includeSection tasks true).page? id =
      some (if old.databaseId = databaseId ∧ old.todoistId ≠ "" then old.update doneProps
        else old) := by
  have others : ∀ task ∈ tasks,
      (existingMap (notion.query databaseId)).lookup task.id ≠ some id := by
    intro task member found
    obtain ⟨page, again, inside, carried, -⟩ := page?_of_lookup found
    rw [held] at again
    cases again
    exact apart inside (carried ▸ List.mem_map_of_mem member)
  have same : (old.databaseId = databaseId ∧ old.todoistId ≠ "" ∧
      old.todoistId ∉ tasks.map Task.id) ↔ old.databaseId = databaseId ∧ old.todoistId ≠ "" :=
    ⟨fun stale => ⟨stale.1, stale.2.1⟩, fun named => ⟨named.1, named.2, apart named.1⟩⟩
  rw [page?_synced, page?_writtenAll_of_ne (lt_length_of_page? held) others, held]
  simp only [keyed.marked_iff held, true_and, same, Option.map_some]

/-- A page that carries another ID is marked. -/
theorem page?_synced_of_stale (keyed : notion.Keyed databaseId) {id : Nat} {old : Page}
    (held : notion.page? id = some old) (inside : old.databaseId = databaseId)
    (named : old.todoistId ≠ "") (gone : old.todoistId ∉ tasks.map Task.id) :
    (notion.synced databaseId includeSection tasks true).page? id =
      some (old.update doneProps) := by
  rw [page?_synced_of_apart keyed held fun _ => gone, if_pos ⟨inside, named⟩]

/-- A page without an ID, and a page of another database, stays. -/
theorem page?_synced_of_other (plain : PlainIds tasks) (keyed : notion.Keyed databaseId) {id : Nat}
    {old : Page} (held : notion.page? id = some old)
    (apart : old.databaseId = databaseId → old.todoistId = "") :
    (notion.synced databaseId includeSection tasks true).page? id = some old := by
  have gone : old.databaseId = databaseId → old.todoistId ∉ tasks.map Task.id := by
    intro inside active
    obtain ⟨task, member, carried⟩ := List.mem_map.mp active
    exact plain.nonempty task member (carried.trans (apart inside))
  rw [page?_synced_of_apart keyed held gone, if_neg fun named => named.2 (apart named.1)]

/-- Every page there is after the sync comes from somewhere. -/
theorem Keyed.origin (keyed : notion.Keyed databaseId) (plain : PlainIds tasks) {id : Nat}
    {page : Page}
    (held : (notion.synced databaseId includeSection tasks true).page? id = some page) :
    Origin notion databaseId includeSection tasks id page := by
  cases was : notion.page? id with
  | some old =>
    by_cases named : old.databaseId = databaseId ∧ old.todoistId ≠ ""
    · by_cases active : old.todoistId ∈ tasks.map Task.id
      · obtain ⟨task, member, carried⟩ := List.mem_map.mp active
        rw [page?_synced_of_task plain keyed was named.1 member carried.symm] at held
        cases held
        exact Origin.updated task old member was named.1 carried.symm
      · rw [page?_synced_of_stale keyed was named.1 named.2 active] at held
        cases held
        exact Origin.finished old was named.1 named.2 active
    · have apart : old.databaseId = databaseId → old.todoistId = "" :=
        fun inside => not_not.mp fun some => named ⟨inside, some⟩
      rw [page?_synced_of_other plain keyed was apart] at held
      cases held
      exact Origin.kept _ was apart
  | none =>
    rw [page?_synced_of_new was] at held
    obtain ⟨task, member, missing, rfl⟩ := exists_of_page?_writtenAll
      (leads_existingMap notion databaseId) (List.getElem?_eq_none_iff.mp was) held
    exact Origin.created task member was missing

/-- A page that was updated carries the ID of its task. -/
theorem todoistId_update (plain : PlainIds tasks) {task : Task} (member : task ∈ tasks)
    (includeSection : Bool) (page : Page) :
    (page.update (taskToProperties task includeSection)).todoistId = task.id :=
  plain.clean member

/-- A page that was created carries the ID of its task. -/
theorem todoistId_created (plain : PlainIds tasks) {task : Task} (member : task ∈ tasks)
    (includeSection : Bool) (id : Nat) (databaseId : String) :
    (⟨id, databaseId, (taskToProperties task includeSection).apply Properties.blank⟩ :
      Page).todoistId = task.id :=
  plain.clean member

/-- Marking a page leaves its ID. -/
theorem todoistId_done (page : Page) : (page.update doneProps).todoistId = page.todoistId :=
  Page.todoistId_update_of_none rfl page

/-- Writing a task creates at most one page. -/
theorem length_written_le (databaseId : String) (includeSection : Bool)
    (known : List (String × Nat)) (notion : Workspace) (task : Task) :
    (notion.written databaseId includeSection known task).pages.length ≤
      notion.pages.length + 1 := by
  cases found : known.lookup task.id with
  | some pageId =>
    rw [written_of_lookup found, length_update]
    exact Nat.le_succ _
  | none => rw [written_of_none found, length_create]

/-- A page created for the tasks carries the ID of one of them. -/
theorem carried_of_created (plain : PlainIds tasks) {known : List (String × Nat)}
    (leads : Leads known notion) {id : Nat} (new : notion.pages.length ≤ id) {page : Page}
    (held : (notion.writtenAll databaseId includeSection known tasks).page? id = some page) :
    ∃ task ∈ tasks, page.todoistId = task.id := by
  obtain ⟨task, member, -, rfl⟩ := exists_of_page?_writtenAll leads new held
  exact ⟨task, member, todoistId_created plain member includeSection id databaseId⟩

/-- The page created for the first task carries its ID. -/
theorem carried_of_first {task : Task} {rest : List Task} (plain : PlainIds (task :: rest))
    {known : List (String × Nat)} (leads : Leads known notion) {id : Nat}
    (new : notion.pages.length ≤ id)
    (early : id < (notion.written databaseId includeSection known task).pages.length) {page : Page}
    (held : (notion.writtenAll databaseId includeSection known (task :: rest)).page? id =
      some page) : page.todoistId = task.id := by
  have others : ∀ next ∈ rest, known.lookup next.id ≠ some id :=
    fun next _ found => absurd (leads _ (mem_of_lookup found)) (not_lt.mpr new)
  have stays : (notion.writtenAll databaseId includeSection known (task :: rest)).page? id =
      (notion.writtenAll databaseId includeSection known [task]).page? id :=
    page?_writtenAll_of_ne early others
  rw [stays] at held
  obtain ⟨maker, member, -, rfl⟩ := exists_of_page?_writtenAll leads new held
  cases List.mem_singleton.mp member
  exact todoistId_created plain List.mem_cons_self includeSection id databaseId

/-- Two pages created for the tasks do not carry one ID. -/
theorem created_inj (plain : PlainIds tasks) {known : List (String × Nat)}
    (leads : Leads known notion) {first second : Nat} {one other : Page}
    (newFirst : notion.pages.length ≤ first) (newSecond : notion.pages.length ≤ second)
    (heldFirst : (notion.writtenAll databaseId includeSection known tasks).page? first = some one)
    (heldSecond :
      (notion.writtenAll databaseId includeSection known tasks).page? second = some other)
    (same : one.todoistId = other.todoistId) : first = second := by
  induction tasks generalizing notion with
  | nil => exact absurd (lt_length_of_page? heldFirst) (not_lt.mpr newFirst)
  | cons task rest ih =>
    have fresh := (List.nodup_cons.mp plain.distinct).1
    have onward : Leads known (notion.written databaseId includeSection known task) :=
      leads.written task
    have grown := length_written_le databaseId includeSection known notion task
    by_cases early : first < (notion.written databaseId includeSection known task).pages.length
    · have carried := carried_of_first plain leads newFirst early heldFirst
      by_cases also : second < (notion.written databaseId includeSection known task).pages.length
      · omega
      · obtain ⟨maker, member, is⟩ :=
          carried_of_created plain.tail onward (not_lt.mp also) heldSecond
        have equal : task.id = maker.id := carried.symm.trans (same.trans is)
        exact absurd (equal ▸ List.mem_map_of_mem member) fresh
    · by_cases also : second < (notion.written databaseId includeSection known task).pages.length
      · have carried := carried_of_first plain leads newSecond also heldSecond
        obtain ⟨maker, member, is⟩ :=
          carried_of_created plain.tail onward (not_lt.mp early) heldFirst
        have equal : task.id = maker.id := carried.symm.trans (same.symm.trans is)
        exact absurd (equal ▸ List.mem_map_of_mem member) fresh
      · exact ih plain.tail onward (not_lt.mp early) (not_lt.mp also) heldFirst heldSecond

/-- A page with the ID of a task is the one that carried it or was created for it. -/
theorem Origin.of_task (plain : PlainIds tasks) {task : Task} (member : task ∈ tasks) {id : Nat}
    {page : Page} (origin : Origin notion databaseId includeSection tasks id page)
    (inside : page.databaseId = databaseId) (carried : page.todoistId = task.id) :
    (∃ old, notion.page? id = some old ∧ old.databaseId = databaseId ∧ old.todoistId = task.id ∧
      page = old.update (taskToProperties task includeSection)) ∨
    (notion.page? id = none ∧ (existingMap (notion.query databaseId)).lookup task.id = none ∧
      page = ⟨id, databaseId, (taskToProperties task includeSection).apply Properties.blank⟩) := by
  cases origin with
  | updated maker old listed held within shown =>
    rw [todoistId_update plain listed] at carried
    cases plain.eq_of_id listed member carried
    exact Or.inl ⟨old, held, within, shown, rfl⟩
  | created maker listed new missing =>
    rw [todoistId_created plain listed] at carried
    cases plain.eq_of_id listed member carried
    exact Or.inr ⟨new, missing, rfl⟩
  | finished old held within named gone =>
    rw [todoistId_done] at carried
    exact absurd (carried ▸ List.mem_map_of_mem member) gone
  | kept _ held apart => exact absurd (carried.symm.trans (apart inside)) (plain.nonempty task member)

/-- No two pages carry the ID of one task after the sync. -/
theorem Keyed.unique (keyed : notion.Keyed databaseId) (plain : PlainIds tasks) {task : Task}
    (member : task ∈ tasks) {first second : Page}
    (one : first ∈ (notion.synced databaseId includeSection tasks true).query databaseId)
    (other : second ∈ (notion.synced databaseId includeSection tasks true).query databaseId)
    (carried : first.todoistId = task.id) (also : second.todoistId = task.id) :
    first = second := by
  obtain ⟨heldFirst, insideFirst⟩ := mem_query.mp one
  obtain ⟨heldSecond, insideSecond⟩ := mem_query.mp other
  have same : first.id = second.id := by
    have named := plain.nonempty task member
    cases (keyed.origin plain heldFirst).of_task plain member insideFirst carried with
    | inl was =>
      obtain ⟨old, held, inside, shown, -⟩ := was
      have found := keyed.lookup_task held inside (shown ▸ named)
      cases (keyed.origin plain heldSecond).of_task plain member insideSecond also with
      | inl was =>
        obtain ⟨again, heldAgain, within, shows, -⟩ := was
        have foundAgain := keyed.lookup_task heldAgain within (shows ▸ named)
        rw [shown, ← shows, foundAgain] at found
        exact (Option.some.inj found).symm
      | inr made =>
        rw [shown, made.2.1] at found
        cases found
    | inr made =>
      cases (keyed.origin plain heldSecond).of_task plain member insideSecond also with
      | inl was =>
        obtain ⟨old, held, inside, shown, -⟩ := was
        have found := keyed.lookup_task held inside (shown ▸ named)
        rw [shown, made.2.1] at found
        cases found
      | inr makes =>
        rw [page?_synced_of_new made.1] at heldFirst
        rw [page?_synced_of_new makes.1] at heldSecond
        exact created_inj plain (leads_existingMap notion databaseId)
          (List.getElem?_eq_none_iff.mp made.1) (List.getElem?_eq_none_iff.mp makes.1)
          heldFirst heldSecond (carried.trans also.symm)
  rw [same, heldSecond] at heldFirst
  exact (Option.some.inj heldFirst).symm

/-- A page that the sync leaves under a number of the database is a page of the database. -/
theorem mem_query_of_page? {id : Nat} {page : Page} (held : notion.page? id = some page)
    (inside : page.databaseId = databaseId) : page ∈ notion.query databaseId := by
  have number : page.id = id := id_of_page? held
  rw [mem_query, number]
  exact ⟨held, inside⟩

/-- Every task has a page after the sync. -/
theorem Keyed.exists_page (keyed : notion.Keyed databaseId) (plain : PlainIds tasks)
    (includeSection : Bool) {task : Task} (member : task ∈ tasks) :
    ∃ page ∈ (notion.synced databaseId includeSection tasks true).query databaseId,
      page.todoistId = task.id := by
  cases found : (existingMap (notion.query databaseId)).lookup task.id with
  | some id =>
    obtain ⟨old, held, inside, shown, -⟩ := page?_of_lookup found
    have wrote := @page?_synced_of_task notion databaseId tasks includeSection plain keyed id old
      held inside task member shown
    exact ⟨_, mem_query_of_page? wrote inside, todoistId_update plain member includeSection old⟩
  | none =>
    obtain ⟨id, new, wrote⟩ := @page?_writtenAll_of_none databaseId includeSection _ notion tasks
      (leads_existingMap notion databaseId) task member found
    have created := (@page?_synced_of_new notion databaseId tasks includeSection id
      (List.getElem?_eq_none_iff.mpr new)).trans wrote
    exact ⟨_, mem_query_of_page? created rfl,
      todoistId_created plain member includeSection id databaseId⟩

/-- The pages after the sync are those of the tasks and the old ones of other IDs. -/
theorem Keyed.pageSet (keyed : notion.Keyed databaseId) (plain : PlainIds tasks)
    (includeSection : Bool) :
    PageSet notion (notion.synced databaseId includeSection tasks true) databaseId tasks where
  one task member := by
    obtain ⟨page, inside, carried⟩ := keyed.exists_page plain includeSection member
    exact ⟨page, ⟨inside, carried⟩,
      fun other also => keyed.unique plain member also.1 inside also.2 carried⟩
  done page member named gone := by
    obtain ⟨held, inside⟩ := mem_query.mp member
    exact mem_query_of_page? (page?_synced_of_stale keyed held inside named gone) inside
  untouched page member unnamed := by
    obtain ⟨held, inside⟩ := mem_query.mp member
    exact mem_query_of_page? (page?_synced_of_other plain keyed held fun _ => unnamed) inside
  only page member := by
    obtain ⟨held, inside⟩ := mem_query.mp member
    have origin := keyed.origin plain held
    generalize page.id = id at origin
    cases origin with
    | updated maker old listed was within carried =>
      rw [todoistId_update plain listed]
      exact Or.inl (List.mem_map_of_mem listed)
    | created maker listed new missing =>
      rw [todoistId_created plain listed]
      exact Or.inl (List.mem_map_of_mem listed)
    | finished old was within named gone =>
      exact Or.inr (Or.inr ⟨old, mem_query_of_page? was within, named, gone, rfl⟩)
    | kept _ was apart =>
      exact Or.inr (Or.inl ⟨mem_query_of_page? was inside, apart inside⟩)
  elsewhere page other := by
    constructor
    · intro held
      have origin := keyed.origin plain held
      generalize page.id = id at origin ⊢
      cases origin with
      | updated maker old listed was within carried => exact absurd within other
      | created maker listed new missing => exact absurd rfl other
      | finished old was within named gone => exact absurd within other
      | kept _ was apart => exact was
    · exact fun held => page?_synced_of_other plain keyed held fun inside => absurd inside other

/-- A database is settled for tasks: each has a page, and every page is as it would be written. -/
structure Settled (notion : Workspace) (databaseId : String) (includeSection : Bool)
    (tasks : List Task) : Prop where
  /-- The ID of every task leads to a page. -/
  found : ∀ task ∈ tasks,
    ((existingMap (notion.query databaseId)).lookup task.id).isSome = true
  /-- The page of a task is as it would be written. -/
  written : ∀ task ∈ tasks, ∀ page ∈ notion.query databaseId, page.todoistId = task.id →
    page.update (taskToProperties task includeSection) = page
  /-- A page of another ID is marked. -/
  marked : ∀ page ∈ notion.query databaseId, page.todoistId ≠ "" →
    page.todoistId ∉ tasks.map Task.id → page.update doneProps = page

/-- A request that leaves a page as it is leaves the workspace. -/
theorem update_of_same {id : Nat} {patch : Patch}
    (same : ∀ page, notion.page? id = some page → page.update patch = page) :
    notion.update patch id = notion := by
  have pages : (notion.update patch id).pages = notion.pages := by
    apply List.ext_getElem?
    intro other
    have after := @page?_update notion patch id other
    by_cases is : id = other
    · subst is
      rw [if_pos rfl] at after
      cases held : notion.page? id with
      | none =>
        rw [held] at after
        exact after.trans held.symm
      | some page =>
        rw [held, Option.map_some, same page held] at after
        exact after.trans held.symm
    · rw [if_neg is] at after
      exact after
  cases left : notion.update patch id with
  | mk after numbered =>
    rw [left] at pages
    cases notion
    cases pages
    rfl

/-- Steps that each leave a state leave it together. -/
theorem foldl_of_fixed {α β : Type} {step : α → β → α} {state : α} {items : List β}
    (each : ∀ item ∈ items, step state item = state) : items.foldl step state = state := by
  induction items with
  | nil => rfl
  | cons item rest ih =>
    rw [List.foldl_cons, each item List.mem_cons_self]
    exact ih fun next member => each next (List.mem_cons_of_mem _ member)

/-- Writing the tasks of a settled database leaves the workspace. -/
theorem Settled.writtenAll (settled : Settled notion databaseId includeSection tasks) :
    notion.writtenAll databaseId includeSection (existingMap (notion.query databaseId)) tasks =
      notion := by
  apply foldl_of_fixed
  intro task member
  obtain ⟨id, found⟩ := Option.isSome_iff_exists.mp (settled.found task member)
  rw [written_of_lookup found]
  apply update_of_same
  intro page held
  obtain ⟨old, again, inside, carried, -⟩ := page?_of_lookup found
  rw [held] at again
  cases again
  exact settled.written task member page (mem_query_of_page? held inside) carried

/-- The sync of a settled database leaves the workspace. -/
theorem Settled.synced (settled : Settled notion databaseId includeSection tasks) :
    notion.synced databaseId includeSection tasks true = notion := by
  have marks : (existingMap (notion.query databaseId)).foldl (Workspace.marked (tasks.map Task.id))
      notion = notion := by
    apply foldl_of_fixed
    intro entry member
    unfold Workspace.marked
    by_cases active : entry.1 ∈ tasks.map Task.id
    · rw [if_pos (List.contains_iff_mem.mpr active)]
    · rw [if_neg (mt List.contains_iff_mem.mp active)]
      apply update_of_same
      intro page held
      obtain ⟨inside, carried, named⟩ := page_of_entry member held
      exact settled.marked page (mem_query_of_page? held inside) named (carried ▸ active)
  unfold Workspace.synced
  rw [if_neg (by simp)]
  dsimp only
  rw [if_pos rfl, settled.writtenAll, marks]

/-- The sync leaves a settled database. -/
theorem Keyed.settled (keyed : notion.Keyed databaseId) (plain : PlainIds tasks)
    (includeSection : Bool) :
    Settled (notion.synced databaseId includeSection tasks true) databaseId includeSection
      tasks where
  found task member := by
    obtain ⟨page, inside, carried⟩ := keyed.exists_page plain includeSection member
    rw [← carried]
    exact isSome_lookup inside (carried ▸ plain.nonempty task member)
  written task member page inside carried := by
    obtain ⟨held, within⟩ := mem_query.mp inside
    cases (keyed.origin plain held).of_task plain member within carried with
    | inl was =>
      obtain ⟨old, -, -, -, rfl⟩ := was
      exact old.update_update _
    | inr made =>
      rw [made.2.2]
      exact Page.update_update ⟨page.id, databaseId, Properties.blank⟩ _
  marked page inside named gone := by
    obtain ⟨held, within⟩ := mem_query.mp inside
    have origin := keyed.origin plain held
    generalize page.id = id at origin
    cases origin with
    | updated maker old listed was within carried =>
      rw [todoistId_update plain listed] at gone
      exact absurd (List.mem_map_of_mem listed) gone
    | created maker listed new missing =>
      rw [todoistId_created plain listed] at gone
      exact absurd (List.mem_map_of_mem listed) gone
    | finished old was within named gone => exact old.update_update _
    | kept _ was apart => exact absurd (apart within) named

/-- Every task is counted. -/
theorem counted_add (known : List (String × Nat)) (counts : Nat × Nat) (tasks : List Task) :
    (tasks.foldl (counted known) counts).1 + (tasks.foldl (counted known) counts).2 =
      counts.1 + counts.2 + tasks.length := by
  induction tasks generalizing counts with
  | nil => rfl
  | cons task rest ih =>
    rw [List.foldl_cons, ih, List.length_cons]
    unfold counted
    split
    · show counts.1 + (counts.2 + 1) + rest.length = _
      omega
    · show counts.1 + 1 + counts.2 + rest.length = _
      omega

/-- Where every task has a page, all of them are counted as updated. -/
theorem counted_updated {known : List (String × Nat)} {tasks : List Task}
    (found : ∀ task ∈ tasks, (known.lookup task.id).isSome = true) (counts : Nat × Nat) :
    tasks.foldl (counted known) counts = (counts.1, counts.2 + tasks.length) := by
  induction tasks generalizing counts with
  | nil => rfl
  | cons task rest ih =>
    have first : counted known counts task = (counts.1, counts.2 + 1) := by
      unfold counted
      rw [if_pos (found task List.mem_cons_self)]
    rw [List.foldl_cons, first, ih fun next member => found next (List.mem_cons_of_mem _ member),
      List.length_cons]
    show (counts.1, counts.2 + 1 + rest.length) = _
    rw [Nat.add_right_comm, Nat.add_assoc]

end Workspace

/-- The sync of a database in which no two pages carry one ID, when no call fails: it leaves one
page for each task and the old pages of other IDs, marked; it counts every task; and it changes
nothing when it is run again. -/
theorem page_set (todoist : Todoist) (world : World) (databaseId : String) {tasks : List Task}
    (plain : PlainIds tasks) (keyed : world.notion.Keyed databaseId) (includeSection : Bool) :
    ∃ created updated left,
      run (serve todoist) (syncTasksToDatabase databaseId tasks includeSection true) world =
        (.ok (created, updated), left) ∧
      created + updated = tasks.length ∧
      Workspace.PageSet world.notion left.notion databaseId tasks ∧
      run (serve todoist) (syncTasksToDatabase databaseId tasks includeSection true) left =
        (.ok (0, tasks.length), left) := by
  have settled := keyed.settled plain includeSection
  refine ⟨_, _, _, run_syncTasksToDatabase todoist databaseId tasks includeSection true world,
    ?_, keyed.pageSet plain includeSection, ?_⟩
  · rw [Workspace.counted_add]
    exact Nat.zero_add _
  · rw [run_syncTasksToDatabase, settled.synced, Workspace.counted_updated settled.found,
      Nat.zero_add]

/-- A task that no page carries the ID of. -/
def milk : Task := { id := "8", content := "Buy milk" }

/-- The sample identifiers are plain. -/
theorem plain_sample : PlainIds [rent, milk] where
  distinct := by decide
  nonempty := by decide
  short := by decide
  printable task member character inside := by
    rw [List.mem_pair] at member
    cases member with
    | inl is =>
      subst is
      cases List.mem_singleton.mp (show character ∈ ['7'] from inside)
      rfl
    | inr is =>
      subst is
      cases List.mem_singleton.mp (show character ∈ ['8'] from inside)
      rfl

/-- A database of one page carries each ID once. -/
theorem keyed_rentWorld : rentWorld.notion.Keyed "planner" := by
  intro first one second other _ _
  exact (List.mem_singleton.mp one).trans (List.mem_singleton.mp other).symm

/-- One task has its page and one has none yet. -/
theorem page_set_sample : ∃ created updated left,
    run (serve sampleTodoist) (syncTasksToDatabase "planner" [rent, milk] false true) rentWorld =
      (.ok (created, updated), left) ∧
    created + updated = 2 ∧
    Workspace.PageSet rentWorld.notion left.notion "planner" [rent, milk] ∧
    run (serve sampleTodoist) (syncTasksToDatabase "planner" [rent, milk] false true) left =
      (.ok (0, 2), left) :=
  page_set sampleTodoist rentWorld "planner" plain_sample keyed_rentWorld false

end VelaFlow.Notion
