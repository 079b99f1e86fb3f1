import Mathlib.Data.List.Nodup
import VelaFlow.Foundation.Faults
import VelaFlow.Notion.Services

/-!
# How often an item is pushed

Pushing an item creates a task in Todoist and then writes the ID of the task back to Notion. The
next run pushes every item without an ID again. An item is pushed at most once as long as every
write-back reaches Notion and no request that creates a task fails after Todoist has created it.
-/
namespace VelaFlow.Notion

open Program (run faulty Keeps Only)

/-- One run of `cmd_notion_sync`: its settings, and what becomes of its calls. -/
structure Invocation where
  /-- The settings. -/
  settings : Settings
  /-- `--full`. -/
  full : Bool
  /-- What becomes of a call, by its number and the call. -/
  fates : Nat → Call → Fate

/-- The services as a run finds them: each call may fail. -/
def respond (todoist : Todoist) (fates : Nat → Call → Fate) :
    (call : Call) → World × Nat → Except PyException call.Answer × (World × Nat) :=
  faulty (serve todoist) requestException fates

/-- What a run leaves. -/
def syncRun (todoist : Todoist) (world : World) (invocation : Invocation) : World :=
  (run (respond todoist invocation.fates)
    (cmdNotionSync invocation.settings invocation.full) (world, 0)).2.1

/-- What a sequence of runs leaves. -/
def syncRuns (todoist : Todoist) (world : World) (invocations : List Invocation) : World :=
  invocations.foldl (syncRun todoist) world

/-- Every item without a Todoist ID is pushed at most once on the way from one state to another. -/
def PushesOnce (before after : World) : Prop :=
  ∀ item page, before.notion.page? item = some page → page.todoistId = "" →
    after.pushed.count item ≤ before.pushed.count item + 1

/-- The calls of a run that have to reach the service do. -/
structure Careful (fates : Nat → Call → Fate) : Prop where
  /-- The write-back of an ID reaches Notion. -/
  writesBack : ∀ number item created,
    fates number (.updatePage item (writeBack created)) ≠ .refused
  /-- No request to create a task fails after the task is created. -/
  creates : ∀ number item body, fates number (.createTask item body) ≠ .lost

/-- Nothing is left of the empty text. -/
theorem sanitizeText_empty (maxLen : Nat) : sanitizeText "" maxLen = "" := by
  unfold sanitizeText Security.stripControl
  simp

/-- Sanitising a text twice is sanitising it once. -/
theorem sanitizeText_twice (text : String) (maxLen : Nat) :
    sanitizeText (sanitizeText text maxLen) maxLen = sanitizeText text maxLen := by
  unfold sanitizeText Security.stripControl
  simp only [String.toList_ofList]
  have clean : ((text.toList.filter fun character => !Security.isControl character).take
      maxLen).filter (fun character => !Security.isControl character) =
      (text.toList.filter fun character => !Security.isControl character).take maxLen := by
    apply List.filter_eq_self.mpr
    intro character member
    exact (List.mem_filter.mp (List.mem_of_mem_take member)).2
  rw [clean, List.take_take, min_self]

/-- A page has a Todoist ID that survives sanitising. -/
def Page.Named (page : Page) : Prop := sanitizeText page.todoistId 100 ≠ ""

/-- A page with an ID that survives has an ID. -/
theorem Page.Named.ne_empty {page : Page} (named : page.Named) : page.todoistId ≠ "" := by
  intro empty
  apply named
  rw [empty]
  exact sanitizeText_empty 100

/-- An item has been pushed a number of times, and has an ID when it must. -/
def Held (item : Nat) (settled : Prop) (count : Nat) (world : World) : Prop :=
  world.pushed.count item = count ∧
    ∃ page, world.notion.page? item = some page ∧ (settled → page.Named)

/-- An item has not been pushed again, or once more and has an ID. -/
def Once (item base : Nat) (world : World) : Prop :=
  Held item False base world ∨ Held item True (base + 1) world

/-- A call pushes another item at most, and leaves an ID to the item when it must have one. -/
def Spares (item : Nat) (settled : Prop) : Call → Prop
  | .createTask other _ => other ≠ item
  | .updatePage other patch => other = item → settled → ∀ value,
    patch .todoistId = some value → sanitizeText (value.headD "") 100 ≠ ""
  | _ => True

variable {todoist : Todoist} {fates : Nat → Call → Fate} {item base : Nat} {settled : Prop}

/-- A request about a page changes that page alone. -/
theorem page?_serve_updatePage (world : World) (pageId other : Nat) (patch : Patch) :
    (serve todoist (.updatePage pageId patch) world).2.notion.page? other =
      (if pageId = other then (world.notion.page? other).map fun page => page.update patch
        else world.notion.page? other) ∧
    (serve todoist (.updatePage pageId patch) world).2.pushed = world.pushed := by
  unfold serve
  dsimp only
  cases found : world.notion.page? pageId with
  | some page => exact ⟨Workspace.page?_update pageId other, rfl⟩
  | none =>
    refine ⟨?_, rfl⟩
    by_cases same : pageId = other
    · subst same
      rw [if_pos rfl]
      show world.notion.page? pageId = _
      rw [found]
      rfl
    · rw [if_neg same]

/-- A call that spares an item leaves what holds of it. -/
theorem Held.serve {world : World} {count : Nat} (held : Held item settled count world)
    {call : Call} (spares : Spares item settled call) :
    Held item settled count (serve todoist call world).2 := by
  rcases held with ⟨counted, page, found, named⟩
  cases call with
  | createPage databaseId properties =>
    refine ⟨counted, page, ?_, named⟩
    exact (Workspace.page?_create_of_lt (Workspace.lt_length_of_page? found)).trans found
  | updatePage pageId patch =>
    rcases @page?_serve_updatePage todoist world pageId item patch with
      ⟨after, pushed⟩
    by_cases same : pageId = item
    · rw [if_pos same, found, Option.map_some] at after
      refine ⟨pushed ▸ counted, _, after, fun must => ?_⟩
      cases value : patch .todoistId with
      | some segments =>
        unfold Page.Named
        rw [Page.todoistId_update_of_some value]
        exact spares same must segments value
      | none =>
        unfold Page.Named
        rw [Page.todoistId_update_of_none value]
        exact named must
    · rw [if_neg same] at after
      exact ⟨pushed ▸ counted, page, after.trans found, named⟩
  | createTask other body =>
    refine ⟨?_, page, found, named⟩
    show (other :: world.pushed).count item = count
    rw [List.count_cons_of_ne spares]
    exact counted
  | _ => exact ⟨counted, page, found, named⟩

/-- A program that spares an item leaves what holds of it. -/
theorem Held.run {α : Type} {program : Sync α} {count : Nat}
    (spares : Only (Spares item settled) program) :
    Keeps (respond todoist fates) (fun state => Held item settled count state.1) program := by
  intro state held
  apply Only.run (fun reached : World × Nat => Held item settled count reached.1) _ spares held
  intro call reached holds allowed
  exact @Program.faulty_keeps _ _ _ _ _ requestException fates (Held item settled count) call
    (fun world still => Held.serve still allowed) reached holds

/-- A guarded program spares what the program spares. -/
theorem only_onFailure {α : Type} {allowed : Call → Prop} {program : Sync α}
    (only : Only allowed program) (otherwise : α) :
    Only allowed (onFailure program otherwise) := by
  apply only.tryCatch
  intro exception
  split
  · exact Only.pure otherwise
  · exact Only.raise _

/-- Writing a task leaves an ID to an item that has one. -/
theorem only_syncTask {databaseId : String} {includeSection : Bool}
    {existing : List (String × Nat)}
    (named : settled → ∀ id, existing.lookup id = some item → sanitizeText id 100 ≠ "")
    (counts : Nat × Nat) (task : Task) :
    Only (Spares item settled) (syncTask databaseId includeSection existing counts task) := by
  unfold syncTask
  dsimp only
  cases found : existing.lookup task.id with
  | none => exact only_onFailure ((Only.act trivial).bind fun _ => Only.pure _) counts
  | some pageId =>
    refine only_onFailure (Only.bind (Only.act ?_) fun _ => Only.pure _) counts
    intro same must value written
    have is : [sanitizeText task.id 100] = value := Option.some.inj written
    subst is
    show sanitizeText (sanitizeText task.id 100) 100 ≠ ""
    rw [sanitizeText_twice]
    exact named must task.id (found.trans (congrArg some same))

/-- Marking the pages of tasks that are gone leaves every ID. -/
theorem only_markStale (activeIds : List String) (entries : List (String × Nat)) :
    Only (Spares item settled) (entries.forM (markStale activeIds)) := by
  induction entries with
  | nil => exact Only.pure ()
  | cons entry rest ih =>
    have first : Only (Spares item settled) (markStale activeIds entry) := by
      unfold markStale
      split
      · exact Only.pure ()
      · have unnamed : Spares item settled (.updatePage entry.2 doneProps) := by
          intro _ _ value written
          cases written
        exact only_onFailure (Only.act unnamed) ()
    exact first.bind fun _ => ih

/-- A query answers with the pages of the database, or fails; neither changes anything. -/
theorem run_queryDatabase (databaseId : String) (state : World × Nat) :
    run (respond todoist fates) (queryDatabase databaseId) state =
        (.ok (state.1.notion.query databaseId), (state.1, state.2 + 1)) ∨
      run (respond todoist fates) (queryDatabase databaseId) state =
        (.error requestException, (state.1, state.2 + 1)) := by
  unfold queryDatabase
  rw [Program.run_act]
  rcases Program.faulty_cases (serve todoist) requestException fates
    (.queryDatabase databaseId) state with ⟨is, -⟩ | ⟨is, -⟩ | ⟨is, -⟩
  · exact Or.inl is
  · exact Or.inr is
  · exact Or.inr is

/-- The sync of a database leaves what holds of an item. -/
theorem Held.syncTasksToDatabase {count : Nat} (databaseId : String) (tasks : List Task)
    (includeSection markStaleDone : Bool) :
    Keeps (respond todoist fates) (fun state => Held item settled count state.1)
      (syncTasksToDatabase databaseId tasks includeSection markStaleDone) := by
  unfold Notion.syncTasksToDatabase
  by_cases idle : (tasks.isEmpty && !markStaleDone) = true
  · rw [if_pos idle]
    exact Keeps.pure (0, 0)
  · rw [if_neg idle]
    intro state held
    rw [Program.run_bind]
    rcases @run_queryDatabase todoist fates databaseId state with
      queried | queried
    · rw [queried]
      have named : settled → ∀ id,
          (existingMap (state.1.notion.query databaseId)).lookup id = some item →
            sanitizeText id 100 ≠ "" := by
        intro must id found
        rcases held.2 with ⟨page, is, namedPage⟩
        rcases Workspace.page?_of_lookup found with ⟨same, again, -, shows, -⟩
        rw [is] at again
        cases again
        exact shows ▸ namedPage must
      apply Held.run _ (state.1, state.2 + 1) held
      apply (Only.foldlM (fun task _ counts => only_syncTask named counts task) _).bind
      intro counts
      split
      · exact (only_markStale _ _).bind fun _ => Only.pure counts
      · exact Only.pure counts
    · rw [queried]
      exact held

/-- What is kept whether an item must have an ID or not is kept of an item pushed once. -/
theorem Once.of_held {α : Type} {program : Sync α}
    (keeps : ∀ settled count,
      Keeps (respond todoist fates) (fun state => Held item settled count state.1) program) :
    Keeps (respond todoist fates) (fun state => Once item base state.1) program := by
  intro state once
  rcases once with held | held
  · exact Or.inl (keeps False base state held)
  · exact Or.inr (keeps True (base + 1) state held)

/-- A program that spares an item keeps it pushed at most once. -/
theorem Once.of_only {α : Type} {program : Sync α}
    (spares : ∀ settled, Only (Spares item settled) program) :
    Keeps (respond todoist fates) (fun state => Once item base state.1) program :=
  Once.of_held fun settled _ => Held.run (spares settled)

/-- The sync of a planner keeps every item pushed at most once. -/
theorem Once.syncPlanner (settings : Settings) (totals : Totals) (planner : String × String) :
    Keeps (respond todoist fates) (fun state => Once item base state.1)
      (syncPlanner settings totals planner) := by
  unfold Notion.syncPlanner
  split
  · exact Keeps.pure totals
  · refine Keeps.tryCatch ?_ fun _ => Keeps.pure _
    refine Keeps.bind (Once.of_only fun _ => Only.act trivial) fun tasks => ?_
    refine Keeps.bind (Once.of_held fun _ _ => Held.syncTasksToDatabase _ _ _ _) fun counts => ?_
    exact Keeps.pure _

/-- The sync of the board keeps every item pushed at most once. -/
theorem Once.syncBoard (settings : Settings) (full : Bool) (totals : Totals) :
    Keeps (respond todoist fates) (fun state => Once item base state.1)
      (syncBoard settings full totals) := by
  unfold Notion.syncBoard
  split
  · refine Keeps.tryCatch ?_ fun _ => Keeps.pure _
    refine Keeps.bind (Once.of_only fun _ => Only.act trivial) fun tasks => ?_
    refine Keeps.bind (Once.of_only fun _ => Only.act trivial) fun sectionMap => ?_
    refine Keeps.bind ?_ fun counts => Keeps.pure _
    unfold syncBoardToDatabase
    have sets : ∀ settled, Only (Spares item settled) (setSectionOptions settings.notionBoardDbId
        (sectionOptions sectionMap)) := fun _ => Only.act trivial
    refine Keeps.bind (Once.of_only fun settled => only_onFailure (sets settled) ()) fun _ => ?_
    exact Once.of_held fun _ _ => Held.syncTasksToDatabase _ _ _ _
  · exact Keeps.pure totals

/-- Pushing another item spares an item. -/
theorem only_pushItem (settings : Settings) (sectionId : String) (totals : Totals) {page : Page}
    (other : page.id ≠ item) :
    Only (Spares item settled) (pushItem settings sectionId totals page) := by
  unfold pushItem
  dsimp only
  split
  · exact Only.pure totals
  · refine Only.tryCatch (Only.bind (Only.act other) fun created => ?_) fun _ => Only.pure _
    split
    · exact Only.pure _
    · exact Only.bind (Only.act fun same => absurd same other) fun _ => Only.pure _

/-- The request that creates a task creates it and is answered, or nothing is created. -/
theorem run_createTask (careful : Careful fates) (pageId : Nat) (body : TaskBody)
    (state : World × Nat) :
    (∃ created after,
      run (respond todoist fates) (createTask pageId body) state = (.ok created, after) ∧
        sanitizeText created.id 100 ≠ "" ∧ after.1.notion = state.1.notion ∧
        after.1.pushed = pageId :: state.1.pushed) ∨
      ∃ exception after,
        run (respond todoist fates) (createTask pageId body) state = (.error exception, after) ∧
          after.1 = state.1 := by
  unfold createTask
  rw [Program.run_act]
  rcases Program.faulty_cases (serve todoist) requestException fates
    (.createTask pageId body) state with ⟨is, -⟩ | ⟨is, -⟩ | ⟨-, lost⟩
  · exact Or.inl ⟨_, _, is, todoist.named _ _, rfl, rfl⟩
  · exact Or.inr ⟨_, _, is, rfl⟩
  · exact absurd lost (careful.creates _ _ _)

/-- The write-back of an ID that survives gives the page an ID. -/
theorem held_writeBack (careful : Careful fates) {created : CreatedTask}
    (survives : sanitizeText created.id 100 ≠ "") {count : Nat} {state : World × Nat}
    (held : Held item False count state.1) :
    Held item True count
      (run (respond todoist fates) (updatePage item (writeBack created)) state).2.1 := by
  have carried : (run (respond todoist fates) (updatePage item (writeBack created)) state).2.1 =
      (serve todoist (.updatePage item (writeBack created)) state.1).2 := by
    unfold updatePage
    rw [Program.run_act]
    rcases Program.faulty_cases (serve todoist) requestException fates
      (.updatePage item (writeBack created)) state with ⟨is, -⟩ | ⟨-, refused⟩ | ⟨is, -⟩
    · exact congrArg (fun outcome => outcome.2.1) is
    · exact absurd refused (careful.writesBack _ _ _)
    · exact congrArg (fun outcome => outcome.2.1) is
  rcases held with ⟨counted, page, found, -⟩
  rcases @page?_serve_updatePage todoist state.1 item item (writeBack created) with
    ⟨after, pushed⟩
  rw [if_pos rfl, found, Option.map_some] at after
  rw [carried]
  refine ⟨pushed ▸ counted, _, after, fun _ => ?_⟩
  have written : (writeBack created) .todoistId = some [created.id] := rfl
  unfold Page.Named
  rw [Page.todoistId_update_of_some written]
  exact survives

/-- Pushing an item that has not been pushed again leaves it pushed at most once. -/
theorem once_pushItem (careful : Careful fates) (settings : Settings) (sectionId : String)
    (totals : Totals) {page : Page} {state : World × Nat}
    (held : Held page.id False base state.1) :
    Once page.id base
      (run (respond todoist fates) (pushItem settings sectionId totals page) state).2.1 := by
  unfold pushItem
  dsimp only
  split
  · exact Or.inl held
  · rw [Program.run_tryCatch_pure, Program.run_bind]
    rcases run_createTask careful page.id
      (taskBody settings sectionId (notionItemToTaskFields page)) state with
      ⟨created, after, ran, survives, notion, pushed⟩ | ⟨exception, after, ran, same⟩
    · rw [ran]
      dsimp only
      have named : created.id ≠ "" := by
        intro empty
        rw [empty] at survives
        exact survives (sanitizeText_empty 100)
      rw [if_neg named, Program.run_bind_pure]
      have again : Held page.id False (base + 1) after.1 := by
        rcases held with ⟨counted, found⟩
        refine ⟨?_, notion ▸ found⟩
        rw [pushed, List.count_cons_self, counted]
      exact Or.inr (held_writeBack careful survives again)
    · rw [ran]
      exact Or.inl (same ▸ held)

/-- Pushing distinct items leaves an item pushed at most once that was not pushed again before
its turn. -/
theorem once_pushItems (careful : Careful fates) (settings : Settings) (sectionId : String)
    {items : List Page} (distinct : (items.map Page.id).Nodup) (totals : Totals)
    {state : World × Nat} (waits : item ∈ items.map Page.id → Held item False base state.1)
    (once : Once item base state.1) :
    Once item base
      (run (respond todoist fates) (items.foldlM (pushItem settings sectionId) totals)
        state).2.1 := by
  induction items generalizing totals state with
  | nil => exact once
  | cons page rest ih =>
    rw [List.map_cons, List.nodup_cons] at distinct
    rw [List.foldlM_cons, Program.run_bind]
    have kept : (item ∈ rest.map Page.id →
          Held item False base (run (respond todoist fates)
            (pushItem settings sectionId totals page) state).2.1) ∧
        Once item base (run (respond todoist fates)
          (pushItem settings sectionId totals page) state).2.1 := by
      by_cases same : page.id = item
      · subst same
        exact ⟨fun later => absurd later distinct.1,
          once_pushItem careful settings sectionId totals (waits List.mem_cons_self)⟩
      · refine ⟨fun later => ?_, ?_⟩
        · exact Held.run (only_pushItem settings sectionId totals same) state
            (waits (List.mem_cons_of_mem _ later))
        · exact Once.of_only (fun _ => only_pushItem settings sectionId totals same) state once
    cases ran : run (respond todoist fates) (pushItem settings sectionId totals page) state with
    | mk outcome left =>
      rw [ran] at kept
      cases outcome with
      | ok next => exact ih distinct.2 next kept.1 kept.2
      | error exception => exact kept.2

/-- The pages of a database have different numbers. -/
theorem Workspace.nodup_notionOnly (notion : Workspace) (databaseId : String) :
    ((notionOnly (notion.query databaseId)).map Page.id).Nodup := by
  have pages : (notion.pages.map Page.id).Nodup := by
    rw [List.nodup_iff_getElem?_ne_getElem?]
    intro first second before inside same
    rw [List.getElem?_map, List.getElem?_map] at same
    rw [List.length_map] at inside
    rw [List.getElem?_eq_getElem inside, List.getElem?_eq_getElem (before.trans inside)] at same
    have one := notion.numbered first _ (List.getElem?_eq_getElem (before.trans inside))
    have other := notion.numbered second _ (List.getElem?_eq_getElem inside)
    rw [Option.map_some, Option.map_some, Option.some.injEq, one, other] at same
    omega
  exact pages.sublist ((List.filter_sublist.trans List.filter_sublist).map Page.id)

/-- Pushing a planner keeps every item pushed at most once. -/
theorem Once.pushPlanner (careful : Careful fates) (settings : Settings) (totals : Totals)
    (planner : String × String) :
    Keeps (respond todoist fates) (fun state => Once item base state.1)
      (pushPlanner settings totals planner) := by
  unfold Notion.pushPlanner
  split
  · exact Keeps.pure totals
  · refine Keeps.tryCatch ?_ fun _ => Keeps.pure _
    intro state once
    unfold getNotionOnlyTasks
    rw [Program.run_bind, Program.run_bind]
    rcases @run_queryDatabase todoist fates planner.2 state with queried | queried
    · rw [queried]
      show Once item base (run (respond todoist fates)
        ((notionOnly (state.1.notion.query planner.2)).foldlM (pushItem settings planner.1) totals)
        (state.1, state.2 + 1)).2.1
      have still : Once item base (state.1, state.2 + 1).1 := once
      apply once_pushItems careful settings planner.1 (Workspace.nodup_notionOnly _ _) totals _ still
      intro listed
      rcases List.mem_map.mp listed with ⟨page, member, rfl⟩
      rcases List.mem_filter.mp member with ⟨inside, unnamed⟩
      rcases once with held | held
      · exact held
      · rcases held.2 with ⟨same, found, named⟩
        rw [(Workspace.mem_query.mp inside).1] at found
        cases found
        exact absurd (decide_eq_true_eq.mp unnamed) (named trivial).ne_empty
    · rw [queried]
      exact once

/-- A careful run keeps every item pushed at most once. -/
theorem Once.cmdNotionSync (careful : Careful fates) (settings : Settings) (full : Bool) :
    Keeps (respond todoist fates) (fun state => Once item base state.1)
      (cmdNotionSync settings full) := by
  unfold Notion.cmdNotionSync
  split
  · exact Keeps.pure 1
  · refine Keeps.bind (Keeps.foldlM _ (fun totals planner => ?_) _) fun synced => ?_
    · exact Once.syncPlanner settings totals planner
    refine Keeps.bind (Once.syncBoard settings full synced) fun boarded => ?_
    refine Keeps.bind ?_ fun pushed => Keeps.bind ?_ fun _ => Keeps.pure _
    · unfold pushPlanners
      split
      · exact Keeps.pure boarded
      · exact Keeps.foldlM _ (fun totals planner =>
          Once.pushPlanner careful settings totals planner) _
    · unfold touchCommandCenter
      have touches : ∀ settled, Only (Spares item settled)
          (updateSyncStatus settings.notionCommandCenterId) := fun _ => Only.act trivial
      split
      · exact Keeps.pure ()
      · exact Once.of_only fun settled => only_onFailure (touches settled) ()

/-- Over runs in which every write-back reaches Notion, and no request that creates a task fails
after it is created, every item without a Todoist ID is pushed at most once. -/
theorem pushed_once (todoist : Todoist) (world : World) (invocations : List Invocation)
    (careful : ∀ invocation ∈ invocations, Careful invocation.fates) :
    PushesOnce world (syncRuns todoist world invocations) := by
  intro item page found _
  have once : Once item (world.pushed.count item) world := Or.inl ⟨rfl, page, found, nofun⟩
  have after : Once item (world.pushed.count item) (syncRuns todoist world invocations) := by
    unfold syncRuns
    generalize world.pushed.count item = base at once
    clear found
    induction invocations generalizing world with
    | nil => exact once
    | cons invocation rest ih =>
      apply ih (syncRun todoist world invocation) fun next member =>
        careful next (List.mem_cons_of_mem _ member)
      exact Once.cmdNotionSync (careful invocation List.mem_cons_self) invocation.settings
        invocation.full (world, 0) once
  rcases after with held | held
  · exact held.1 ▸ Nat.le_succ _
  · exact le_of_eq held.1

/-- What a page shows that somebody has written in Notion. -/
def idea : Properties
  | .name => ["Call home"]
  | property => Properties.blank property

/-- The services before any run. -/
def ideaWorld : World := ⟨Workspace.single "planner" idea, [], [], []⟩

/-- A run whose requests to update a page are refused. -/
def failingRun : Invocation where
  settings := sampleSettings
  full := false
  fates := fun _ call => match call with
    | .updatePage _ _ => .refused
    | _ => .answered

/-- A run whose calls are answered. -/
def smoothRun : Invocation := { failingRun with fates := fun _ _ => .answered }

/-- Two runs whose calls are answered push an item once. -/
theorem pushed_once_smoothly : PushesOnce ideaWorld (syncRuns sampleTodoist ideaWorld
    [smoothRun, smoothRun]) := by
  apply pushed_once
  intro invocation member
  have is : invocation = smoothRun := by
    rcases List.mem_cons.mp member with is | later
    · exact is
    · exact List.mem_singleton.mp later
  subst is
  exact ⟨fun _ _ _ => nofun, fun _ _ _ => nofun⟩

/-- Two runs whose write-backs are refused push an item twice. -/
theorem pushed_twice : ¬ PushesOnce ideaWorld (syncRuns sampleTodoist ideaWorld
    [failingRun, failingRun]) := by
  intro once
  have counted := once 0 ⟨0, "planner", idea⟩ rfl rfl
  revert counted
  decide

end VelaFlow.Notion
