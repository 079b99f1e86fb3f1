import VelaFlow.Notebook.Sync
import VelaFlow.Planner.OrganizerFixpoint

/-!
# What the organizer reports of a board

`analyze_board` counts a board and lists what it finds there: tasks in a wrong section, tasks to
label, vague names, and tasks of one name. It changes nothing, but what it finds misplaced or to
label is what `reorganize_board` moves and labels. A run settles these findings, moves the counts of
the sections along, and leaves every other finding. Section names are texts, as the client gives
them.
-/
namespace VelaFlow.Planner

open Notebook

/-- What the analysis uses of Python. -/
structure BoardLibrary where
  /-- `str.lower`. -/
  lower : String → String
  /-- `repr` of a list of strings. -/
  repr : List String → String

/-- `section_name or "(no section)"`. -/
def sectionLabel (name : Json) : String :=
  if nameText name ≠ "" then nameText name else "(no section)"

/-- An entry of `misplaced_tasks`. -/
structure MisplacedTask where
  /-- `task_id`. -/
  taskId : String
  /-- `content`. -/
  content : String
  /-- `current_section`. -/
  currentSection : Json
  /-- `suggested_section`. -/
  suggestedSection : String
  /-- `priority`. -/
  priority : Int

/-- An entry of `label_suggestions`. -/
structure LabelSuggestion where
  /-- `task_id`. -/
  taskId : String
  /-- `content`. -/
  content : String
  /-- `suggested_labels`. -/
  suggestedLabels : List String

/-- `BoardAnalysis`. -/
structure BoardAnalysis where
  /-- `total_tasks`. -/
  totalTasks : Nat := 0
  /-- `tasks_per_section`. -/
  tasksPerSection : List (String × Nat) := []
  /-- `priority_distribution`. -/
  priorityDistribution : List (Int × Nat) := []
  /-- `unlabeled_count`. -/
  unlabeledCount : Nat := 0
  /-- `no_due_date_count`. -/
  noDueDateCount : Nat := 0
  /-- `overdue_count`. -/
  overdueCount : Nat := 0
  /-- `misplaced_tasks`. -/
  misplacedTasks : List MisplacedTask := []
  /-- `duplicate_candidates`. -/
  duplicateCandidates : List (List String) := []
  /-- `label_suggestions`. -/
  labelSuggestions : List LabelSuggestion := []
  /-- `vague_tasks`. -/
  vagueTasks : List String := []
  /-- `urgent_overload`. -/
  urgentOverload : Bool := false
  /-- `backlog_overload`. -/
  backlogOverload : Bool := false
  /-- `summary`. -/
  summary : String := ""

/-- Whether a normalized name keeps a character: `[a-záàâãéèêíïóôõúüç\s]`. -/
def isNameCharacter (character : Char) : Bool :=
  (decide ('a' ≤ character) && decide (character ≤ 'z')) ||
    "áàâãéèêíïóôõúüç".toList.contains character || isSpace character

/-- `re.sub(r"\s+", " ", text)`, after a white space or not. -/
def squeeze (spaced : Bool) : List Char → List Char
  | [] => []
  | character :: rest =>
    if isSpace character then
      if spaced then squeeze true rest else ' ' :: squeeze true rest
    else character :: squeeze false rest

/-- `_normalize_name`. -/
def normalizeName (lower : String → String) (name : String) : String :=
  String.ofList
    (strip (squeeze false ((strip (lower name).toList).filter isNameCharacter)))

/-- `Counter` of the keys of tasks. -/
def countBy {κ : Type} [DecidableEq κ] (key : Task → κ) (tasks : List Task) : List (κ × Nat) :=
  gather (fun count _ => count + 1) 0 key tasks

/-- The entry of `misplaced_tasks` for a task. -/
def misplacedTask (today : Date) (sectionMap : List (String × String)) (task : Task) :
    Option MisplacedTask :=
  (moveTarget today task sectionMap).map fun idealSid =>
    { taskId := task.id, content := task.content, currentSection := task.sectionName,
      suggestedSection := sectionNameOf sectionMap idealSid, priority := task.priority }

/-- The entry of `label_suggestions` for a task. -/
def labelSuggestion (lower : String → String) (task : Task) : Option LabelSuggestion :=
  if task.labels = [] ∧ inferLabels lower task ≠ [] then
    some { taskId := task.id, content := task.content, suggestedLabels := inferLabels lower task }
  else none

/-- The entry of `vague_tasks` for a task. -/
def vagueTask (task : Task) : Option String :=
  let name := strip task.content.toList
  if name.length ≤ 12 ∧ task.description = "" then
    some (String.ofList name ++ " (id=" ++ task.id ++ ")")
  else none

/-- How a candidate is shown. -/
def shownTask (task : Task) : String := task.content ++ " (id=" ++ task.id ++ ")"

/-- `name_groups`. -/
def nameGroups (lower : String → String) (tasks : List Task) : List (String × List String) :=
  gather (fun listed task => listed ++ [shownTask task]) []
    (fun task => normalizeName lower task.content)
    (tasks.filter fun task => decide (normalizeName lower task.content ≠ ""))

/-- Whether a task is due before a day. -/
def isPastDue (today : Date) (task : Task) : Bool :=
  task.dueDate.any fun due => decide (due.ordinal < today.ordinal)

/-- `_build_summary`. -/
def buildSummary (library : BoardLibrary) (a : BoardAnalysis) : String :=
  let sections := (sortBy (fun entry => -(entry.2 : Int)) a.tasksPerSection).map fun entry =>
    "  " ++ entry.1 ++ ": " ++ toString entry.2
  let priorities := [((4 : Int), "P1 (urgent)"), (3, "P2 (high)"), (2, "P3 (normal)"),
      (1, "P4 (low)")].map fun entry =>
    "  " ++ entry.2 ++ ": " ++ toString ((a.priorityDistribution.lookup entry.1).getD 0)
  let misplaced := if a.misplacedTasks = [] then [] else
    ["\nMisplaced tasks: " ++ toString a.misplacedTasks.length] ++
      ((a.misplacedTasks.take 10).map fun m =>
        "  '" ++ m.content ++ "': " ++ nameText m.currentSection ++ " -> " ++ m.suggestedSection) ++
      if 10 < a.misplacedTasks.length then
        ["  ... and " ++ toString (a.misplacedTasks.length - 10) ++ " more"]
      else []
  let duplicates := if a.duplicateCandidates = [] then [] else
    ["\nPossible duplicates: " ++ toString a.duplicateCandidates.length ++ " groups"] ++
      (a.duplicateCandidates.take 5).map fun group => "  " ++ library.repr group
  let vague := if a.vagueTasks = [] then [] else
    ["\nVague task names (" ++ toString a.vagueTasks.length ++ "):"] ++
      (a.vagueTasks.take 10).map fun v => "  " ++ v
  let labels := if a.labelSuggestions = [] then [] else
    ["\nLabel suggestions: " ++ toString a.labelSuggestions.length ++ " tasks"] ++
      (a.labelSuggestions.take 10).map fun s =>
        "  '" ++ s.content ++ "' -> " ++ ", ".intercalate s.suggestedLabels
  let issues :=
    (if a.urgentOverload then ["Urgent/Today section is overloaded"] else []) ++
    (if a.backlogOverload then ["Backlog is bloated — consider triaging"] else []) ++
    if 20 < a.unlabeledCount then [toString a.unlabeledCount ++ " tasks need labels"] else []
  let actions := if issues = [] then [] else
    ["\nAction items:"] ++ issues.map fun i => "  - " ++ i
  "\n".intercalate
    (["Board overview: " ++ toString a.totalTasks ++ " active tasks", "", "Tasks per section:"] ++
      sections ++ ["", "Priority distribution:"] ++ priorities ++
      ["", "Unlabeled tasks: " ++ toString a.unlabeledCount,
        "Tasks without due date: " ++ toString a.noDueDateCount,
        "Overdue tasks: " ++ toString a.overdueCount] ++
      misplaced ++ duplicates ++ vague ++ labels ++ actions)

/-- `analyze_board`. -/
def analyzeBoard (library : BoardLibrary) (today : Date) (tasks : List Task)
    (sectionMap : List (String × String)) : BoardAnalysis :=
  let secCounts := countBy (fun task => sectionLabel task.sectionName) tasks
  let analysis : BoardAnalysis :=
    { totalTasks := tasks.length
      tasksPerSection := secCounts
      priorityDistribution := countBy Task.priority tasks
      unlabeledCount := tasks.countP fun task => decide (task.labels = [])
      noDueDateCount := tasks.countP fun task => task.dueDate.isNone
      overdueCount := tasks.countP (isPastDue today)
      misplacedTasks := tasks.filterMap (misplacedTask today sectionMap)
      labelSuggestions := tasks.filterMap (labelSuggestion library.lower)
      vagueTasks := tasks.filterMap vagueTask
      duplicateCandidates :=
        ((nameGroups library.lower tasks).map Prod.snd).filter fun ids => decide (1 < ids.length)
      urgentOverload := decide (10 < (secCounts.lookup "To Do - Urgent/Today").getD 0)
      backlogOverload := decide (50 < (secCounts.lookup "Backlog").getD 0) }
  { analysis with summary := buildSummary library analysis }

section Counts

variable {κ : Type} [DecidableEq κ] (key : Task → κ)

/-- A counter has the number of tasks of a key. -/
theorem lookup_countBy (tasks : List Task) (one : κ) :
    ((countBy key tasks).lookup one).getD 0 =
      tasks.countP fun task => decide (key task = one) := by
  have adds : ∀ (listed : List Task) (count : Nat),
      listed.foldl (fun count _ => count + 1) count = count + listed.length := by
    intro listed
    induction listed with
    | nil => intro count; rfl
    | cons task rest ih =>
      intro count
      rw [List.foldl_cons, ih, List.length_cons]
      omega
  unfold countBy
  rw [lookup_gather, adds, Nat.zero_add, List.countP_eq_length_filter]

/-- A counter counts each task once. -/
theorem sum_countBy (tasks : List Task) :
    ((countBy key tasks).map Prod.snd).sum = tasks.length := by
  have one : ∀ (entries : List (κ × Nat)) (name : κ),
      ((assign entries name ((entries.lookup name).getD 0 + 1)).map Prod.snd).sum =
        (entries.map Prod.snd).sum + 1 := by
    intro entries name
    induction entries with
    | nil => rfl
    | cons entry rest ih =>
      have ⟨known, count⟩ := entry
      unfold assign
      by_cases same : known = name
      · rw [if_pos same, same, List.lookup_cons_self]
        simp only [List.map_cons, List.sum_cons, Option.getD_some]
        omega
      · rw [if_neg same, List.lookup_cons, beq_false_of_ne (Ne.symm same)]
        simp only [List.map_cons, List.sum_cons, ih]
        omega
  have each : ∀ (listed : List Task) (entries : List (κ × Nat)),
      ((listed.foldl (gatherOne (fun count _ => count + 1) 0 key) entries).map Prod.snd).sum =
        (entries.map Prod.snd).sum + listed.length := by
    intro listed
    induction listed with
    | nil => intro entries; rfl
    | cons task rest ih =>
      intro entries
      have added := one entries (key task)
      rw [List.foldl_cons, ih, gatherOne, added, List.length_cons]
      omega
  have all := each tasks []
  simp only [List.map_nil, List.sum_nil, Nat.zero_add] at all
  exact all

end Counts

section Findings

variable {lower : String → String} {today : Date} {sectionMap : List (String × String)}
variable {reorganization : Reorganization}

/-- What a task is after the calls it calls for: in its section, with its labels, else the same. -/
theorem received_eq (task : Task) :
    received lower today reorganization sectionMap task =
      let move := plannedMove today reorganization sectionMap task
      { task with
        sectionId := (move.map MoveInfo.toSectionId).getD task.sectionId
        sectionName := (move.map fun info => Json.str info.toSection).getD task.sectionName
        labels := ((plannedLabels lower reorganization task).map LabelInfo.labels).getD
          task.labels } := by
  have labelled : ∀ moved : Task, plannedLabels lower reorganization moved =
        plannedLabels lower reorganization task →
      ((plannedLabels lower reorganization task).toList.map LabelInfo.call).foldl
          (BoardCall.reflect sectionMap) moved =
        { moved with labels := ((plannedLabels lower reorganization task).map
            LabelInfo.labels).getD moved.labels } := by
    intro moved same
    cases planned : plannedLabels lower reorganization task with
    | none => rfl
    | some info =>
      have there := same.trans planned
      have is := (plannedLabels_eq_some there).2.2
      show info.call.reflect sectionMap moved = _
      rw [reflect_labels there, is]
      rfl
  dsimp only
  unfold received plannedCalls
  rw [List.foldl_append]
  cases planned : plannedMove today reorganization sectionMap task with
  | none => exact labelled task rfl
  | some info =>
    have ⟨sectionId, _, is⟩ := Option.map_eq_some_iff.mp planned
    have named : info.toSection = sectionNameOf sectionMap info.toSectionId := by rw [← is]
    have moved := labelled (info.call.reflect sectionMap task) (plannedLabels_moved planned)
    show (((plannedLabels lower reorganization task).toList.map LabelInfo.call).foldl
      (BoardCall.reflect sectionMap) (info.call.reflect sectionMap task)) = _
    rw [moved, reflect_move planned, ← named]
    rfl

/-- The groups of one name stay. -/
theorem nameGroups_received (tasks : List Task) :
    nameGroups lower (tasks.map (received lower today reorganization sectionMap)) =
      nameGroups lower tasks := by
  have content : ∀ task, (received lower today reorganization sectionMap task).content =
      task.content := by
    intro task
    rw [received_eq]
  have shown : ∀ task, shownTask (received lower today reorganization sectionMap task) =
      shownTask task := by
    intro task
    rw [received_eq]
    rfl
  unfold nameGroups
  rw [List.filter_map]
  simp only [Function.comp_def, content]
  apply gather_map
  · intro task
    rw [content]
  · intro value task
    rw [shown]

/-- The counts of the sections move along with the tasks. -/
theorem countP_received (tasks : List Task) (name : String) :
    (tasks.map (received lower today reorganization sectionMap)).countP
        (fun task => decide (sectionLabel task.sectionName = name)) +
      (tasks.filterMap (plannedMove today reorganization sectionMap)).countP
        (fun info => decide (sectionLabel info.fromSection = name)) =
    tasks.countP (fun task => decide (sectionLabel task.sectionName = name)) +
      (tasks.filterMap (plannedMove today reorganization sectionMap)).countP
        (fun info => decide (sectionLabel (.str info.toSection) = name)) := by
  induction tasks with
  | nil => rfl
  | cons task rest ih =>
    have is := @received_eq lower today sectionMap reorganization task
    have own : (received lower today reorganization sectionMap task).sectionName =
        ((plannedMove today reorganization sectionMap task).map
          fun info => Json.str info.toSection).getD task.sectionName := by rw [is]
    rw [List.map_cons, List.countP_cons, own, List.filterMap_cons, List.countP_cons]
    cases planned : plannedMove today reorganization sectionMap task with
    | none =>
      dsimp only [Option.map_none, Option.getD_none]
      omega
    | some info =>
      have ⟨sectionId, _, made⟩ := Option.map_eq_some_iff.mp planned
      have source : info.fromSection = task.sectionName := by rw [← made]
      dsimp only [Option.map_some, Option.getD_some]
      rw [List.countP_cons, List.countP_cons, source]
      omega

/-- The tasks that are labelled are no longer counted as unlabelled. -/
theorem unlabeled_received (tasks : List Task) :
    (tasks.map (received lower today reorganization sectionMap)).countP
        (fun task => decide (task.labels = [])) +
      (tasks.filterMap (plannedLabels lower reorganization)).length =
    tasks.countP fun task => decide (task.labels = []) := by
  induction tasks with
  | nil => rfl
  | cons task rest ih =>
    have is := @received_eq lower today sectionMap reorganization task
    have own : (received lower today reorganization sectionMap task).labels =
        ((plannedLabels lower reorganization task).map LabelInfo.labels).getD task.labels := by
      rw [is]
    rw [List.map_cons, List.countP_cons, own, List.filterMap_cons, List.countP_cons]
    cases planned : plannedLabels lower reorganization task with
    | none =>
      dsimp only [Option.map_none, Option.getD_none]
      omega
    | some info =>
      have ⟨unlabelled, found, made⟩ := plannedLabels_eq_some planned
      have labels : info.labels ≠ [] := by
        rw [made]
        exact found
      dsimp only [Option.map_some, Option.getD_some]
      simp only [List.length_cons, unlabelled, labels, decide_false, decide_true, if_true,
        Bool.false_eq_true, if_false]
      omega

/-- What is misplaced is what a run moves. -/
theorem misplaced_planned (tasks : List Task) :
    (tasks.filterMap (misplacedTask today sectionMap)).map (fun task =>
        (task.taskId, task.content, task.currentSection, task.suggestedSection)) =
      (tasks.filterMap (plannedMove today {} sectionMap)).map fun info =>
        (info.taskId, info.content, info.fromSection, info.toSection) := by
  rw [List.map_filterMap, List.map_filterMap]
  apply List.filterMap_congr
  intro task _
  unfold misplacedTask plannedMove
  rw [if_pos rfl, Option.map_map, Option.map_map]
  rfl

/-- What is to be labelled is what a run labels. -/
theorem labelSuggestions_planned (tasks : List Task) :
    (tasks.filterMap (labelSuggestion lower)).map (fun suggestion =>
        (suggestion.taskId, suggestion.content, suggestion.suggestedLabels)) =
      (tasks.filterMap (plannedLabels lower {})).map fun info =>
        (info.taskId, info.content, info.labels) := by
  rw [List.map_filterMap, List.map_filterMap]
  apply List.filterMap_congr
  intro task _
  unfold labelSuggestion plannedLabels
  by_cases wanted : task.labels = [] ∧ inferLabels lower task ≠ []
  · rw [if_pos wanted, if_pos ⟨rfl, wanted⟩]
    rfl
  · rw [if_neg wanted, if_neg fun all => wanted all.2]
    rfl

end Findings

/-- Two analyses that differ at most in sections and labels. -/
structure SameElse (before after : BoardAnalysis) : Prop where
  /-- `total_tasks`. -/
  total : after.totalTasks = before.totalTasks
  /-- `priority_distribution`. -/
  priorities : after.priorityDistribution = before.priorityDistribution
  /-- `no_due_date_count`. -/
  undated : after.noDueDateCount = before.noDueDateCount
  /-- `overdue_count`. -/
  overdue : after.overdueCount = before.overdueCount
  /-- `duplicate_candidates`. -/
  duplicates : after.duplicateCandidates = before.duplicateCandidates
  /-- `vague_tasks`. -/
  vague : after.vagueTasks = before.vagueTasks

/-- Tasks that have received their calls are found as before but for their sections and labels. -/
theorem sameElse_received {library : BoardLibrary} {today : Date}
    {later sectionMap : List (String × String)} {reorganization : Reorganization}
    (tasks : List Task) :
    SameElse (analyzeBoard library today tasks sectionMap)
      (analyzeBoard library today
        (tasks.map (received library.lower today reorganization sectionMap)) later) := by
  have own := @received_eq library.lower today sectionMap reorganization
  constructor
  case total => exact List.length_map _
  case priorities =>
    have same : ∀ task, (received library.lower today reorganization sectionMap task).priority =
        task.priority := by
      intro task
      rw [own]
    exact gather_map (fun count _ => count + 1) 0 Task.priority same (fun _ _ => rfl) tasks
  case undated =>
    show (tasks.map _).countP _ = tasks.countP _
    rw [List.countP_map]
    refine List.countP_congr fun task _ => ?_
    rw [Function.comp_apply, own]
  case overdue =>
    show (tasks.map _).countP _ = tasks.countP _
    rw [List.countP_map]
    refine List.countP_congr fun task _ => ?_
    rw [Function.comp_apply, own]
    rfl
  case duplicates =>
    show List.filter _ ((nameGroups library.lower (tasks.map _)).map Prod.snd) = _
    rw [nameGroups_received]
    rfl
  case vague =>
    show (tasks.map _).filterMap vagueTask = tasks.filterMap vagueTask
    rw [List.filterMap_map]
    refine List.filterMap_congr fun task _ => ?_
    rw [Function.comp_apply, own]
    rfl

/-- What the analysis of a board finds misplaced or to label is what a dry run reports. After a run
in which no call fails there is nothing of it left; the counts of the sections have moved along, as
many tasks fewer are without labels as were labelled, and everything else is found as before. -/
theorem analyzeBoard_reorganized (library : BoardLibrary) (today : Date) {projectId : String}
    (given : projectId ≠ "") (board : Board) :
    let run := fun dryRun =>
      reorganizeBoard library.lower (fun _ => none) today { dryRun } projectId board
    let dry := (run true).result
    let later := board.carryOut (run false).calls
    let before := analyzeBoard library today board.tasks board.sectionMap
    let after := analyzeBoard library today later.tasks later.sectionMap
    before.misplacedTasks.map (fun task =>
        (task.taskId, task.content, task.currentSection, task.suggestedSection)) =
      dry.moves.map (fun info => (info.taskId, info.content, info.fromSection, info.toSection)) ∧
    before.labelSuggestions.map (fun suggestion =>
        (suggestion.taskId, suggestion.content, suggestion.suggestedLabels)) =
      dry.labelUpdates.map (fun info => (info.taskId, info.content, info.labels)) ∧
    after.misplacedTasks = [] ∧ after.labelSuggestions = [] ∧
    (∀ name, (after.tasksPerSection.lookup name).getD 0 +
        dry.moves.countP (fun info => decide (sectionLabel info.fromSection = name)) =
      (before.tasksPerSection.lookup name).getD 0 +
        dry.moves.countP (fun info => decide (sectionLabel (.str info.toSection) = name))) ∧
    after.unlabeledCount + dry.labelUpdates.length = before.unlabeledCount ∧
    SameElse before after := by
  intro run dry later before after
  let calls := board.tasks.flatMap (plannedCalls library.lower today {} board.sectionMap)
  have dryIs : dry = plannedResult library.lower today {} board :=
    congrArg Organizing.result (reorganizeBoard_eq given board)
  have laterIs : later = board.carryOut calls :=
    congrArg (fun organizing => board.carryOut organizing.calls) (reorganizeBoard_eq given board)
  have tasks : later.tasks =
      board.tasks.map (received library.lower today {} board.sectionMap) := by
    rw [laterIs]
    exact carryOut_planned board
  have moves : dry.moves = board.tasks.filterMap (plannedMove today {} board.sectionMap) := by
    rw [dryIs]
    rfl
  have updates : dry.labelUpdates = board.tasks.filterMap (plannedLabels library.lower {}) := by
    rw [dryIs]
    rfl
  have settled := @plannedResult_received library.lower today board {}
  rw [← laterIs] at settled
  have misplaced := @misplaced_planned today later.sectionMap later.tasks
  have suggested := @labelSuggestions_planned library.lower later.tasks
  rw [settled.1] at misplaced
  rw [settled.2] at suggested
  have sections := @countP_received library.lower today board.sectionMap {} board.tasks
  have unlabelled := @unlabeled_received library.lower today board.sectionMap {} board.tasks
  refine ⟨?_, ?_, List.map_eq_nil_iff.mp misplaced, List.map_eq_nil_iff.mp suggested,
    fun name => ?_, ?_, ?_⟩
  · rw [moves]
    exact misplaced_planned board.tasks
  · rw [updates]
    exact labelSuggestions_planned board.tasks
  · have counted := sections name
    rw [← tasks, ← moves] at counted
    have left := lookup_countBy (fun task => sectionLabel task.sectionName) later.tasks name
    have had := lookup_countBy (fun task => sectionLabel task.sectionName) board.tasks name
    exact (congrArg (· + _) left).trans (counted.trans (congrArg (· + _) had.symm))
  · rw [updates]
    show later.tasks.countP _ + _ = _
    rw [tasks]
    exact unlabelled
  · have same := @sameElse_received library today later.sectionMap board.sectionMap {} board.tasks
    rw [← tasks] at same
    exact same

section Sample

/-- A library for a board of lower case. -/
def shoppingLibrary : BoardLibrary := ⟨id, fun texts => ", ".intercalate texts⟩

/-- An urgent task that waits in the backlog. -/
def shoppingTask : Task where
  id := "1"
  content := "comprar"
  sectionId := "s1"
  sectionName := .str "Backlog"
  priority := 4

/-- Its sections are different. -/
theorem nodup_shoppingSections :
    ([("s1", "Backlog"), ("s2", "To Do - Urgent/Today")].map Prod.fst).Nodup := by
  decide

/-- A board of that task. -/
def shoppingBoard : Board where
  tasks := [shoppingTask]
  sectionMap := [("s1", "Backlog"), ("s2", "To Do - Urgent/Today")]
  distinctTasks := List.nodup_singleton "1"
  distinctSections := nodup_shoppingSections

/-- The rule for that board. -/
theorem analyzeBoard_reorganized_shopping :
    let run := fun dryRun =>
      reorganizeBoard id (fun _ => none) DateTime.newYear.date { dryRun } "p" shoppingBoard
    let later := shoppingBoard.carryOut (run false).calls
    let after := analyzeBoard shoppingLibrary DateTime.newYear.date later.tasks later.sectionMap
    (run true).result.moves.length = 1 ∧ (run true).result.labelUpdates.length = 1 ∧
      after.misplacedTasks = [] ∧ after.labelSuggestions = [] ∧ after.unlabeledCount = 0 := by
  intro run later after
  have moved : (run true).result.moves.length = 1 := by decide +kernel
  have labelled : (run true).result.labelUpdates.length = 1 := by decide +kernel
  have given : "p" ≠ "" := by decide
  have ⟨_, _, misplaced, suggested, _, unlabelled, _⟩ :=
    analyzeBoard_reorganized shoppingLibrary DateTime.newYear.date given shoppingBoard
  refine ⟨moved, labelled, misplaced, suggested, ?_⟩
  have one : (analyzeBoard shoppingLibrary DateTime.newYear.date shoppingBoard.tasks
      shoppingBoard.sectionMap).unlabeledCount = 1 := rfl
  have left : after.unlabeledCount + (run true).result.labelUpdates.length = 1 :=
    unlabelled.trans one
  omega

end Sample

/-- The groups of one name are those of the names that are not empty, in the order of the board. -/
theorem mem_nameGroups_iff (lower : String → String) (tasks : List Task)
    (entry : String × List String) :
    entry ∈ nameGroups lower tasks ↔ entry.2 ≠ [] ∧ entry.1 ≠ "" ∧
      entry.2 = (tasks.filter fun task =>
        decide (normalizeName lower task.content = entry.1)).map shownTask := by
  have lists : ∀ (listed : List Task) (shown : List String),
      listed.foldl (fun listed task => listed ++ [shownTask task]) shown =
        shown ++ listed.map shownTask := by
    intro listed
    induction listed with
    | nil => intro shown; exact (List.append_nil shown).symm
    | cons task rest ih =>
      intro shown
      rw [List.foldl_cons, ih, List.map_cons, List.append_assoc]
      rfl
  have own : entry.1 ≠ "" →
      ((tasks.filter fun task => decide (normalizeName lower task.content ≠ "")).filter
        fun task => decide (normalizeName lower task.content = entry.1)) =
      tasks.filter fun task => decide (normalizeName lower task.content = entry.1) := by
    intro filled
    rw [List.filter_filter]
    refine List.filter_congr fun task _ => ?_
    by_cases same : normalizeName lower task.content = entry.1
    · simp [same, filled]
    · simp [same]
  unfold nameGroups
  rw [mem_gather_iff, lists, List.nil_append]
  constructor
  · intro ⟨named, is⟩
    have ⟨task, inside, key⟩ := List.mem_map.mp named
    have ⟨there, filled⟩ := List.mem_filter.mp inside
    have some' : entry.1 ≠ "" := by
      rw [← key]
      exact of_decide_eq_true filled
    rw [own some'] at is
    refine ⟨?_, some', is⟩
    rw [is]
    exact List.ne_nil_of_mem (List.mem_map_of_mem
      (List.mem_filter.mpr ⟨there, decide_eq_true key⟩))
  · intro ⟨filled, some', is⟩
    rw [own some']
    refine ⟨?_, is⟩
    rw [is] at filled
    have ⟨task, inside⟩ := List.exists_mem_of_ne_nil _ fun none =>
      filled (List.map_eq_nil_iff.mpr none)
    have ⟨there, key⟩ := List.mem_filter.mp inside
    have named := of_decide_eq_true key
    refine List.mem_map.mpr ⟨task, List.mem_filter.mpr ⟨there, decide_eq_true ?_⟩, named⟩
    rw [named]
    exact some'

/-- The counters of an analysis count each task of the board once. Its candidates for duplicates
are the groups of two tasks or more that have one normalized name which is not empty, in the order
of the board; and it finds a section overloaded by the number of its tasks. -/
theorem analyzeBoard_counts (library : BoardLibrary) (today : Date) (tasks : List Task)
    (sectionMap : List (String × String)) :
    let analysis := analyzeBoard library today tasks sectionMap
    let inSection := fun name =>
      tasks.countP fun task => decide (sectionLabel task.sectionName = name)
    (analysis.tasksPerSection.map Prod.snd).sum = tasks.length ∧
    (analysis.tasksPerSection.map Prod.fst).Nodup ∧
    (∀ name, (analysis.tasksPerSection.lookup name).getD 0 = inSection name) ∧
    (analysis.priorityDistribution.map Prod.snd).sum = tasks.length ∧
    (analysis.priorityDistribution.map Prod.fst).Nodup ∧
    (∀ priority, (analysis.priorityDistribution.lookup priority).getD 0 =
      tasks.countP fun task => decide (task.priority = priority)) ∧
    (∀ group, group ∈ analysis.duplicateCandidates ↔ 1 < group.length ∧ ∃ name ≠ "",
      group = (tasks.filter fun task =>
        decide (normalizeName library.lower task.content = name)).map shownTask) ∧
    (analysis.urgentOverload = true ↔ 10 < inSection "To Do - Urgent/Today") ∧
    (analysis.backlogOverload = true ↔ 50 < inSection "Backlog") := by
  intro analysis inSection
  have sections := lookup_countBy (fun task => sectionLabel task.sectionName) tasks
  refine ⟨sum_countBy _ tasks, (keys_gather _ _ _ tasks).1, sections, sum_countBy _ tasks,
    (keys_gather _ _ _ tasks).1, lookup_countBy Task.priority tasks, fun group => ?_, ?_, ?_⟩
  · show group ∈ ((nameGroups library.lower tasks).map Prod.snd).filter _ ↔ _
    rw [List.mem_filter, and_comm, decide_eq_true_iff, List.mem_map]
    refine and_congr_right fun many => ⟨?_, ?_⟩
    · intro ⟨entry, inside, is⟩
      have ⟨_, filled, all⟩ := (mem_nameGroups_iff library.lower tasks entry).mp inside
      exact ⟨entry.1, filled, is.symm.trans all⟩
    · intro ⟨name, filled, all⟩
      have some' : group ≠ [] := List.ne_nil_of_length_pos (by omega)
      have inside := (mem_nameGroups_iff library.lower tasks (name, group)).mpr ⟨some', filled, all⟩
      exact ⟨(name, group), inside, rfl⟩
  · show decide (10 < _) = true ↔ _
    rw [decide_eq_true_iff]
    exact iff_of_eq (congrArg (10 < ·) (sections _))
  · show decide (50 < _) = true ↔ _
    rw [decide_eq_true_iff]
    exact iff_of_eq (congrArg (50 < ·) (sections _))

end VelaFlow.Planner
