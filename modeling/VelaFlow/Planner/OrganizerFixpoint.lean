import VelaFlow.Foundation.KeyValue
import VelaFlow.Foundation.Machine
import VelaFlow.Planner.Organizer

/-!
# One pass settles a board

While no call fails, `reorganize_board` reports what each task by itself calls for and, unless it is
a dry run, makes the calls it reports. A task that has received its calls calls for nothing: a target
section is never one of the planner sections, and no suggested label is `blocked`.
-/
namespace VelaFlow.Planner

variable {lower : String → String} {today : Date} {sectionMap : List (String × String)}
variable {reorganization : Reorganization}

/-- The call that carries out a move. -/
def MoveInfo.call (info : MoveInfo) : BoardCall := .moveTask info.taskId info.toSectionId

/-- The call that carries out a label update. -/
def LabelInfo.call (info : LabelInfo) : BoardCall := .updateLabels info.taskId info.labels

/-- The task that a call is about. -/
def BoardCall.taskId : BoardCall → String
  | .moveTask taskId _ => taskId
  | .updateLabels taskId _ => taskId

section Reports

/-- The move that a task calls for. -/
def plannedMove (today : Date) (reorganization : Reorganization)
    (sectionMap : List (String × String)) (task : Task) : Option MoveInfo :=
  (if reorganization.moveTasks then moveTarget today task sectionMap else none).map fun sectionId =>
    { taskId := task.id, content := task.content, fromSection := task.sectionName,
      toSection := sectionNameOf sectionMap sectionId, toSectionId := sectionId }

/-- The label update that a task calls for. -/
def plannedLabels (lower : String → String) (reorganization : Reorganization) (task : Task) :
    Option LabelInfo :=
  if reorganization.autoLabel = true ∧ task.labels = [] ∧ inferLabels lower task ≠ [] then
    some { taskId := task.id, content := task.content, labels := inferLabels lower task }
  else none

/-- The calls that a task calls for. -/
def plannedCalls (lower : String → String) (today : Date) (reorganization : Reorganization)
    (sectionMap : List (String × String)) (task : Task) : List BoardCall :=
  (plannedMove today reorganization sectionMap task).toList.map MoveInfo.call ++
    (plannedLabels lower reorganization task).toList.map LabelInfo.call

/-- More of a report, with the calls for it. -/
def Organizing.report (dryRun : Bool) (organizing : Organizing) (moves : List MoveInfo)
    (labelUpdates : List LabelInfo) (calls : List BoardCall) : Organizing where
  result :=
    { tasksMoved := organizing.result.tasksMoved + if dryRun then 0 else moves.length
      tasksLabeled := organizing.result.tasksLabeled + if dryRun then 0 else labelUpdates.length
      errors := organizing.result.errors
      moves := organizing.result.moves ++ moves
      labelUpdates := organizing.result.labelUpdates ++ labelUpdates }
  calls := organizing.calls ++ if dryRun then [] else calls

/-- An empty report adds nothing. -/
theorem report_nil (dryRun : Bool) (organizing : Organizing) :
    organizing.report dryRun [] [] [] = organizing := by
  simp [Organizing.report]

/-- Two reports are one. -/
theorem report_report (dryRun : Bool) (organizing : Organizing) (moves moves' : List MoveInfo)
    (labelUpdates labelUpdates' : List LabelInfo) (calls calls' : List BoardCall) :
    (organizing.report dryRun moves labelUpdates calls).report dryRun moves' labelUpdates' calls' =
      organizing.report dryRun (moves ++ moves') (labelUpdates ++ labelUpdates')
        (calls ++ calls') := by
  cases dryRun <;> simp [Organizing.report, Nat.add_assoc]

/-- The loop reports the move that a task calls for. -/
theorem organizeSection_eq (organizing : Organizing) (task : Task) :
    organizeSection (fun _ => none) today reorganization sectionMap organizing task =
      organizing.report reorganization.dryRun
        (plannedMove today reorganization sectionMap task).toList []
        ((plannedMove today reorganization sectionMap task).toList.map MoveInfo.call) := by
  unfold organizeSection plannedMove
  cases target : if reorganization.moveTasks then moveTarget today task sectionMap else none with
  | none => exact (report_nil _ organizing).symm
  | some sectionId =>
    cases dry : reorganization.dryRun <;>
      simp [Organizing.report, Organizing.attempt, MoveInfo.call]

/-- The loop reports the label update that a task calls for. -/
theorem organizeLabels_eq (organizing : Organizing) (task : Task) :
    organizeLabels lower (fun _ => none) reorganization organizing task =
      organizing.report reorganization.dryRun [] (plannedLabels lower reorganization task).toList
        ((plannedLabels lower reorganization task).toList.map LabelInfo.call) := by
  unfold organizeLabels plannedLabels
  by_cases wanted : reorganization.autoLabel = true ∧ task.labels = [] ∧ inferLabels lower task ≠ []
  · simp only [if_pos wanted]
    cases dry : reorganization.dryRun <;>
      simp [Organizing.report, Organizing.attempt, LabelInfo.call]
  · simp only [if_neg wanted]
    exact (report_nil _ organizing).symm

/-- The loop reports what a task calls for. -/
theorem organizeTask_eq (organizing : Organizing) (task : Task) :
    organizeTask lower (fun _ => none) today reorganization sectionMap organizing task =
      organizing.report reorganization.dryRun
        (plannedMove today reorganization sectionMap task).toList
        (plannedLabels lower reorganization task).toList
        (plannedCalls lower today reorganization sectionMap task) := by
  unfold organizeTask plannedCalls
  rw [organizeSection_eq, organizeLabels_eq, report_report, List.append_nil, List.nil_append]

/-- The loop reports what the tasks call for, in their order. -/
theorem organize_eq (tasks : List Task) (organizing : Organizing) :
    tasks.foldl (organizeTask lower (fun _ => none) today reorganization sectionMap) organizing =
      organizing.report reorganization.dryRun
        (tasks.filterMap (plannedMove today reorganization sectionMap))
        (tasks.filterMap (plannedLabels lower reorganization))
        (tasks.flatMap (plannedCalls lower today reorganization sectionMap)) := by
  induction tasks generalizing organizing with
  | nil => exact (report_nil _ organizing).symm
  | cons task rest ih =>
    rw [List.foldl_cons, organizeTask_eq, ih, report_report, List.filterMap_cons,
      List.filterMap_cons, List.flatMap_cons]
    cases plannedMove today reorganization sectionMap task <;>
      cases plannedLabels lower reorganization task <;> rfl

/-- The report on a board on which no call fails. -/
def plannedResult (lower : String → String) (today : Date) (reorganization : Reorganization)
    (board : Board) : ReorganizeResult :=
  let moves := board.tasks.filterMap (plannedMove today reorganization board.sectionMap)
  let labelUpdates := board.tasks.filterMap (plannedLabels lower reorganization)
  { tasksMoved := moves.length, tasksLabeled := labelUpdates.length, moves, labelUpdates }

/-- While no call fails, a run reports what the tasks call for, and makes the calls for it unless it
is a dry run. -/
theorem reorganizeBoard_eq {projectId : String} (given : projectId ≠ "") (board : Board) :
    reorganizeBoard lower (fun _ => none) today reorganization projectId board =
      { result := plannedResult lower today reorganization board
        calls := if reorganization.dryRun then [] else
          board.tasks.flatMap
            (plannedCalls lower today reorganization board.sectionMap) } := by
  unfold reorganizeBoard
  rw [if_neg given, organize_eq]
  cases reorganization.dryRun <;> simp [Organizing.report, plannedResult]

end Reports

section Settled

/-- A call about another task leaves a task alone. -/
theorem reflect_of_ne {call : BoardCall} {task : Task} (other : call.taskId ≠ task.id) :
    call.reflect sectionMap task = task := by
  cases call with
  | moveTask taskId sectionId => exact if_neg (Ne.symm other)
  | updateLabels taskId labels => exact if_neg (Ne.symm other)

/-- A planned move is about the task. -/
theorem taskId_of_plannedMove {task : Task} {info : MoveInfo}
    (planned : plannedMove today reorganization sectionMap task = some info) :
    info.call.taskId = task.id := by
  have made := Option.map_eq_some_iff.mp planned
  obtain ⟨sectionId, _, rfl⟩ := made
  rfl

/-- What makes a task call for labels, and the labels. -/
theorem plannedLabels_eq_some {task : Task} {info : LabelInfo}
    (planned : plannedLabels lower reorganization task = some info) :
    task.labels = [] ∧ inferLabels lower task ≠ [] ∧
      info = { taskId := task.id, content := task.content, labels := inferLabels lower task } := by
  unfold plannedLabels at planned
  split at planned
  case isTrue calls => exact ⟨calls.2.1, calls.2.2, (Option.some.inj planned).symm⟩
  case isFalse => exact absurd planned nofun

/-- A task calls for calls about itself. -/
theorem taskId_of_planned {task : Task} {call : BoardCall}
    (planned : call ∈ plannedCalls lower today reorganization sectionMap task) :
    call.taskId = task.id := by
  rcases List.mem_append.mp planned with moving | labelling
  · obtain ⟨info, mem, rfl⟩ := List.mem_map.mp moving
    exact taskId_of_plannedMove (Option.mem_toList.mp mem)
  · obtain ⟨info, mem, rfl⟩ := List.mem_map.mp labelling
    have same := (plannedLabels_eq_some (Option.mem_toList.mp mem)).2.2
    rw [same]
    rfl

/-- `blocked` is not a label that is suggested. -/
theorem blocked_not_mem_inferLabels (task : Task) : "blocked" ∉ inferLabels lower task := by
  intro suggested
  obtain ⟨entry, mem, named⟩ := List.mem_map.mp suggested
  have known : "blocked" ∈ labelKeywords.map Prod.fst :=
    List.mem_map.mpr ⟨entry, List.mem_of_mem_filter mem, named⟩
  exact absurd known (by decide)

/-- The suggested labels do not change where a task without labels belongs. -/
theorem idealSectionName_labels {task : Task} (unlabelled : task.labels = []) :
    idealSectionName today { task with labels := inferLabels lower task } =
      idealSectionName today task := by
  unfold idealSectionName
  rw [unlabelled]
  simp only [blocked_not_mem_inferLabels, List.not_mem_nil, if_false]

/-- No task belongs in a planner section. -/
theorem idealSectionName_not_planner {task : Task} {target : String}
    (ideal : idealSectionName today task = some target) :
    target ∉ ["Daily Planner", "Weekly Planner", "Weekend Planner"] := by
  unfold idealSectionName at ideal
  dsimp only at ideal
  repeat' split at ideal
  all_goals cases ideal <;> decide

/-- A task that is in the section where it belongs belongs there. -/
theorem idealSectionName_moved {task : Task} {target : String} (sectionId : String)
    (ideal : idealSectionName today task = some target) :
    idealSectionName today { task with sectionId, sectionName := .str target } = some target := by
  have free := idealSectionName_not_planner ideal
  simp only [List.mem_cons, List.not_mem_nil, or_false, not_or] at free
  unfold idealSectionName at ideal ⊢
  simp only [isNamed, free.1, free.2.1, free.2.2, decide_false, Bool.or_false, Bool.false_eq_true,
    if_false]
  by_cases blocked : "blocked" ∈ task.labels
  · rwa [if_pos blocked] at ideal ⊢
  · rw [if_neg blocked] at ideal ⊢
    by_cases recurring : task.isRecurring = true
    · rwa [if_pos recurring] at ideal ⊢
    · rw [if_neg recurring] at ideal ⊢
      split at ideal
      case isTrue => cases ideal
      case isFalse => exact ideal

/-- The section a task is moved to has the name of the section where it belongs. -/
theorem moveTarget_eq_some (distinct : (sectionMap.map Prod.fst).Nodup) {task : Task}
    {sectionId : String} (target : moveTarget today task sectionMap = some sectionId) :
    idealSectionName today task = some (sectionNameOf sectionMap sectionId) := by
  have suggested := (Option.filter_eq_some_iff.mp target).1
  unfold suggestSection at suggested
  split at suggested
  case h_1 => exact absurd suggested nofun
  case h_2 name ideal =>
    split at suggested
    case isTrue => exact absurd suggested nofun
    case isFalse =>
      obtain ⟨entry, found, rfl⟩ := Option.map_eq_some_iff.mp suggested
      have selected := List.find?_some found
      have named : entry.2 = name := of_decide_eq_true selected
      have read := lookup_of_mem distinct (List.mem_of_find?_eq_some found)
      rw [sectionNameOf, read, Option.getD_some, named, ideal]

/-- A task in the section where it belongs is not moved. -/
theorem moveTarget_settled {task : Task} {name : String}
    (ideal : idealSectionName today task = some name) (named : task.sectionName = .str name) :
    moveTarget today task sectionMap = none := by
  unfold moveTarget suggestSection
  simp [ideal, named, isNamed]

/-- Moving a task carries out its move. -/
theorem reflect_move {task : Task} {info : MoveInfo}
    (planned : plannedMove today reorganization sectionMap task = some info) :
    info.call.reflect sectionMap task =
      { task with sectionId := info.toSectionId,
                  sectionName := .str (sectionNameOf sectionMap info.toSectionId) } := by
  have about := taskId_of_plannedMove planned
  exact if_pos about.symm

/-- Labelling a task carries out its label update. -/
theorem reflect_labels {task : Task} {info : LabelInfo}
    (planned : plannedLabels lower reorganization task = some info) :
    info.call.reflect sectionMap task = { task with labels := inferLabels lower task } := by
  have is := (plannedLabels_eq_some planned).2.2
  rw [is]
  exact if_pos rfl

/-- A task that has been moved calls for no move. -/
theorem plannedMove_moved (distinct : (sectionMap.map Prod.fst).Nodup) {task : Task}
    {info : MoveInfo} (planned : plannedMove today reorganization sectionMap task = some info) :
    plannedMove today reorganization sectionMap (info.call.reflect sectionMap task) = none := by
  obtain ⟨sectionId, chosen, is⟩ := Option.map_eq_some_iff.mp planned
  have target : moveTarget today task sectionMap = some sectionId := by
    split at chosen
    case isTrue => exact chosen
    case isFalse => exact absurd chosen nofun
  have ideal := moveTarget_eq_some distinct target
  have rests := @moveTarget_settled _ sectionMap _ _
    (idealSectionName_moved info.toSectionId ideal) rfl
  rw [reflect_move planned, plannedMove, ← is]
  rw [← is] at rests
  rw [rests, ite_self, Option.map_none]

/-- A move leaves the labels that a task calls for. -/
theorem plannedLabels_moved {task : Task} {info : MoveInfo}
    (planned : plannedMove today reorganization sectionMap task = some info) :
    plannedLabels lower reorganization (info.call.reflect sectionMap task) =
      plannedLabels lower reorganization task := by
  rw [reflect_move planned]
  rfl

/-- A task that has been labelled calls for no labels. -/
theorem plannedLabels_labelled {task : Task} {info : LabelInfo}
    (planned : plannedLabels lower reorganization task = some info) :
    plannedLabels lower reorganization (info.call.reflect sectionMap task) = none := by
  have found := (plannedLabels_eq_some planned).2.1
  rw [reflect_labels planned]
  exact if_neg fun wanted => found wanted.2.1

/-- Labels leave the move that a task calls for. -/
theorem plannedMove_labelled {task : Task} {info : LabelInfo}
    (planned : plannedLabels lower reorganization task = some info) :
    plannedMove today reorganization sectionMap (info.call.reflect sectionMap task) =
      plannedMove today reorganization sectionMap task := by
  have same := @idealSectionName_labels lower today task (plannedLabels_eq_some planned).1
  rw [reflect_labels planned]
  unfold plannedMove moveTarget suggestSection
  rw [same]

/-- A task that has received the calls it calls for. -/
def received (lower : String → String) (today : Date) (reorganization : Reorganization)
    (sectionMap : List (String × String)) (task : Task) : Task :=
  (plannedCalls lower today reorganization sectionMap task).foldl
    (BoardCall.reflect sectionMap) task

/-- A task that has received its labels calls for nothing when it called for no move. -/
theorem labelled_settled {task : Task}
    (placed : plannedMove today reorganization sectionMap task = none) :
    let left := ((plannedLabels lower reorganization task).toList.map LabelInfo.call).foldl
      (BoardCall.reflect sectionMap) task
    plannedMove today reorganization sectionMap left = none ∧
      plannedLabels lower reorganization left = none := by
  intro left
  cases planned : plannedLabels lower reorganization task with
  | none =>
    have same : left = task := by simp only [left, planned]; rfl
    rw [same]
    exact ⟨placed, planned⟩
  | some info =>
    have same : left = info.call.reflect sectionMap task := by simp only [left, planned]; rfl
    rw [same, plannedMove_labelled planned]
    exact ⟨placed, plannedLabels_labelled planned⟩

/-- A task that has received its calls calls for nothing. -/
theorem received_settled (distinct : (sectionMap.map Prod.fst).Nodup) (task : Task) :
    plannedMove today reorganization sectionMap
        (received lower today reorganization sectionMap task) = none ∧
      plannedLabels lower reorganization
        (received lower today reorganization sectionMap task) = none := by
  unfold received plannedCalls
  rw [List.foldl_append]
  cases planned : plannedMove today reorganization sectionMap task with
  | none => exact labelled_settled planned
  | some info =>
    have rest := @labelled_settled lower _ _ _ _ (plannedMove_moved distinct planned)
    rw [plannedLabels_moved planned] at rest
    exact rest

end Settled

section Boards

/-- On a board that has received the calls of its tasks, each task has received its own. -/
theorem carryOut_planned (board : Board) :
    (board.carryOut (board.tasks.flatMap
        (plannedCalls lower today reorganization board.sectionMap))).tasks =
      board.tasks.map (received lower today reorganization board.sectionMap) := by
  refine List.map_congr_left fun task among => ?_
  refine Machine.foldl_flatMap_of_nodup (reflect_id board.sectionMap) ?_ board.distinctTasks among rfl
  intro item state call planned other
  exact reflect_of_ne fun same => other ((taskId_of_planned planned).symm.trans same)

/-- A board whose tasks have received their calls calls for nothing. -/
theorem plannedResult_received (board : Board) (reorganization : Reorganization) :
    let later := board.carryOut (board.tasks.flatMap
      (plannedCalls lower today reorganization board.sectionMap))
    later.tasks.filterMap (plannedMove today reorganization later.sectionMap) = [] ∧
      later.tasks.filterMap (plannedLabels lower reorganization) = [] := by
  intro later
  have settled : ∀ task ∈ later.tasks,
      plannedMove today reorganization later.sectionMap task = none ∧
        plannedLabels lower reorganization task = none := by
    rw [carryOut_planned]
    intro task among
    obtain ⟨before, _, rfl⟩ := List.mem_map.mp among
    exact received_settled board.distinctSections before
  constructor
  · exact List.filterMap_eq_nil_iff.mpr fun task among => (settled task among).1
  · exact List.filterMap_eq_nil_iff.mpr fun task among => (settled task among).2

/-- The move that a call makes: the task, and the section it goes to. -/
def BoardCall.move : BoardCall → Option (String × String)
  | .moveTask taskId sectionId => some (taskId, sectionId)
  | .updateLabels .. => none

/-- The label update that a call makes: the task, and its labels. -/
def BoardCall.labelUpdate : BoardCall → Option (String × List String)
  | .moveTask .. => none
  | .updateLabels taskId labels => some (taskId, labels)

/-- The calls that tasks call for make the moves that are reported. -/
theorem moves_planned (tasks : List Task) :
    (tasks.flatMap (plannedCalls lower today reorganization sectionMap)).filterMap BoardCall.move =
      (tasks.filterMap (plannedMove today reorganization sectionMap)).map fun info =>
        (info.taskId, info.toSectionId) := by
  induction tasks with
  | nil => rfl
  | cons task rest ih =>
    rw [List.flatMap_cons, List.filterMap_append, ih, List.filterMap_cons, plannedCalls]
    cases plannedMove today reorganization sectionMap task <;>
      cases plannedLabels lower reorganization task <;> rfl

/-- The calls that tasks call for make the label updates that are reported. -/
theorem labelUpdates_planned (tasks : List Task) :
    (tasks.flatMap (plannedCalls lower today reorganization sectionMap)).filterMap
        BoardCall.labelUpdate =
      (tasks.filterMap (plannedLabels lower reorganization)).map fun info =>
        (info.taskId, info.labels) := by
  induction tasks with
  | nil => rfl
  | cons task rest ih =>
    rw [List.flatMap_cons, List.filterMap_append, ih, List.filterMap_cons, plannedCalls]
    cases plannedMove today reorganization sectionMap task <;>
      cases plannedLabels lower reorganization task <;> rfl

/-- While no call fails, a run makes the moves and the label updates that a dry run reports, and on
the board it leaves a dry run reports none. -/
theorem reorganizeBoard_settles (lower : String → String) (today : Date)
    (moveTasks autoLabel : Bool) (projectId : String) (board : Board) :
    let run := fun dryRun board =>
      reorganizeBoard lower (fun _ => none) today { dryRun, moveTasks, autoLabel } projectId board
    let reported := (run true board).result
    let done := run false board
    let later := (run true (board.carryOut done.calls)).result
    (run true board).calls = [] ∧ done.result = reported ∧
      done.calls.filterMap BoardCall.move =
        reported.moves.map (fun info => (info.taskId, info.toSectionId)) ∧
      done.calls.filterMap BoardCall.labelUpdate =
        reported.labelUpdates.map (fun info => (info.taskId, info.labels)) ∧
      later.moves = [] ∧ later.labelUpdates = [] := by
  intro run reported done later
  by_cases unset : projectId = ""
  · subst unset
    exact ⟨rfl, rfl, rfl, rfl, rfl, rfl⟩
  · let calls := board.tasks.flatMap
      (plannedCalls lower today { moveTasks, autoLabel } board.sectionMap)
    have dry : ∀ other, run true other =
        { result := plannedResult lower today { moveTasks, autoLabel } other, calls := [] } :=
      fun other => reorganizeBoard_eq unset other
    have wet : done =
        { result := plannedResult lower today { moveTasks, autoLabel } board, calls } :=
      reorganizeBoard_eq unset board
    have settled := @plannedResult_received lower today board { moveTasks, autoLabel }
    simp only [reported, later, dry, wet]
    exact ⟨trivial, trivial, moves_planned board.tasks, labelUpdates_planned board.tasks, settled⟩

end Boards

end VelaFlow.Planner
