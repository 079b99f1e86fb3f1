import Mathlib.Data.List.ReduceOption
import VelaFlow.Foundation.Calendar
import VelaFlow.Planner.Ranking

/-!
# Urgency and scores

The score of a task is a sum, so tasks that differ in one field are scored by what that field is
worth. A due date is worth the more the earlier it is, with one exception: yesterday is worth less
than today. A priority is worth the more the higher it is, in a backlog too.
-/
namespace VelaFlow.Planner

/-- The points of an award, none where there is no award. -/
def worth (award : Option Award) : Int := award.elim 0 Award.points

/-- The points of the awards that are given are those of all. -/
theorem sum_reduceOption (awards : List (Option Award)) :
    (awards.reduceOption.map Award.points).sum = (awards.map worth).sum := by
  induction awards with
  | nil => rfl
  | cons award rest ih =>
    cases award with
    | none =>
      rw [List.reduceOption_cons_of_none, ih, List.map_cons, List.sum_cons]
      exact (Int.zero_add _).symm
    | some given =>
      rw [List.reduceOption_cons_of_some, List.map_cons, List.map_cons, List.sum_cons,
        List.sum_cons, ih]
      rfl

/-- The score of a task is the sum of what its fields are worth. -/
theorem score_scored (lower : String → String) (settings : Settings) (weekendMode : Bool)
    (today : Date) (task : Task) :
    (scored lower settings weekendMode today task).score =
      worth (dueAward today task.dueDate) + worth (priorityAward task.priority) +
        worth (labelAward settings.todoistFocusLabel 14 task) +
        worth (if weekendMode then labelAward settings.todoistWeekendLabel 10 task else none) +
        worth (durationAward (effectiveDuration settings task)) +
        worth (undatedAward settings task) +
        worth (sectionAward (sectionWord lower task.sectionName) task.priority) := by
  have sum := sum_reduceOption [dueAward today task.dueDate, priorityAward task.priority,
    labelAward settings.todoistFocusLabel 14 task,
    if weekendMode then labelAward settings.todoistWeekendLabel 10 task else none,
    durationAward (effectiveDuration settings task), undatedAward settings task,
    sectionAward (sectionWord lower task.sectionName) task.priority]
  refine sum.trans ?_
  simp only [List.map_cons, List.map_nil, List.sum_cons, List.sum_nil]
  omega

/-- What a due date is worth, by its distance in days. -/
def dueWorth (days : Int) : Int :=
  if days < 0 then min (-days) 7 * 20
  else if days = 0 then 25
  else if days = 1 then 16
  else if days = 2 then 8
  else if days = 3 then 4
  else 0

/-- What a due date is worth depends on its distance. -/
theorem worth_dueAward (today due : Date) :
    worth (dueAward today (some due)) = dueWorth (due.ordinal - today.ordinal) := by
  have same : due = today ↔ due.ordinal - today.ordinal = 0 := by
    constructor
    · intro is
      rw [is]
      exact Int.sub_self _
    · intro zero
      exact Date.ordinal_inj (by omega)
  simp only [dueAward, dueWorth, same]
  have back : -(due.ordinal - today.ordinal) = today.ordinal - due.ordinal := by omega
  rw [back]
  by_cases before : due.ordinal < today.ordinal
  · have negative : due.ordinal - today.ordinal < 0 := by omega
    rw [if_pos before, if_pos negative]
    rfl
  · have positive : ¬due.ordinal - today.ordinal < 0 := by omega
    rw [if_neg before, if_neg positive]
    split_ifs <;> rfl

/-- An earlier due date is not worth less, unless it is yesterday and the other is today. -/
theorem dueWorth_le_iff {first second : Int} (order : first ≤ second) :
    dueWorth second ≤ dueWorth first ↔ ¬(first = -1 ∧ second = 0) := by
  unfold dueWorth
  constructor
  · rintro less ⟨rfl, rfl⟩
    exact absurd less (by decide)
  · intro other
    split_ifs <;> omega

/-- A higher priority is not worth less. -/
theorem worth_priorityAward_le {low high : Int} (order : low ≤ high)
    (range : 1 ≤ low ∧ high ≤ 4) :
    worth (priorityAward low) ≤ worth (priorityAward high) := by
  have points : ∀ priority, worth (priorityAward priority) = priorityPoints priority := by
    intro priority
    unfold priorityAward
    by_cases zero : priorityPoints priority = 0
    · simp only [zero, if_true]
      rfl
    · simp only [zero, if_false]
      rfl
  rw [points, points]
  unfold priorityPoints
  split_ifs <;> omega

/-- A section is not worth less to a task of a higher priority. -/
theorem worth_sectionAward_le (sec : String) {low high : Int} (order : low ≤ high) :
    worth (sectionAward sec low) ≤ worth (sectionAward sec high) := by
  unfold sectionAward
  split_ifs <;> first | exact le_refl _ | decide | omega

/-- Of tasks that differ in their due date, the earlier is scored no lower, unless it is due
yesterday and the other today. Of tasks that differ in their priority, the more urgent is scored no
lower. -/
theorem scoreTask_monotone (lower : String → String) (settings : Settings) (weekendMode : Bool)
    (today : Date) (task : Task) (named : HasNamedSection task) :
    (∀ first second : Date, first.ordinal ≤ second.ordinal → ∃ one other,
      scoreTask lower settings weekendMode today { task with dueDate := some first } = .ok one ∧
      scoreTask lower settings weekendMode today { task with dueDate := some second } = .ok other ∧
      (other.score ≤ one.score ↔ ¬(first.ordinal + 1 = today.ordinal ∧ second = today))) ∧
    ∀ low high : Int, 1 ≤ low → low ≤ high → high ≤ 4 → ∃ one other,
      scoreTask lower settings weekendMode today { task with priority := low } = .ok one ∧
      scoreTask lower settings weekendMode today { task with priority := high } = .ok other ∧
      one.score ≤ other.score := by
  constructor
  · intro first second order
    refine ⟨_, _, scoreTask_eq named, scoreTask_eq named, ?_⟩
    have days : first.ordinal - today.ordinal ≤ second.ordinal - today.ordinal := by omega
    have exactly := dueWorth_le_iff days
    have yesterday : first.ordinal - today.ordinal = -1 ↔ first.ordinal + 1 = today.ordinal := by
      omega
    have same : second.ordinal - today.ordinal = 0 ↔ second = today := by
      constructor
      · exact fun zero => Date.ordinal_inj (by omega)
      · intro is
        rw [is]
        exact Int.sub_self _
    rw [yesterday, same] at exactly
    rw [← exactly, score_scored, score_scored, worth_dueAward, worth_dueAward]
    have dated : ∀ due : Date, undatedAward settings { task with dueDate := some due } = none :=
      fun due => if_neg fun both => by cases both.1
    rw [dated, dated]
    have focus : ∀ label points (due : Date),
        labelAward label points { task with dueDate := some due } = labelAward label points task :=
      fun _ _ _ => rfl
    have duration : ∀ due : Date,
        effectiveDuration settings { task with dueDate := some due } =
          effectiveDuration settings task := fun _ => rfl
    simp only [focus, duration]
    omega
  · intro low high least order most
    refine ⟨_, _, scoreTask_eq named, scoreTask_eq named, ?_⟩
    rw [score_scored, score_scored]
    have priority := worth_priorityAward_le order ⟨least, most⟩
    have place := worth_sectionAward_le (sectionWord lower task.sectionName) order
    have focus : ∀ label points (value : Int),
        labelAward label points { task with priority := value } = labelAward label points task :=
      fun _ _ _ => rfl
    have duration : ∀ value : Int,
        effectiveDuration settings { task with priority := value } =
          effectiveDuration settings task := fun _ => rfl
    have undated : ∀ value : Int,
        undatedAward settings { task with priority := value } = undatedAward settings task :=
      fun _ => rfl
    simp only [focus, duration, undated]
    omega

section Sample

/-- The first day of a year. -/
def firstDay : Date := ⟨2025, 1, 1, DateTime.valid_newYear⟩

/-- The day after it. -/
def secondDay : Date := ⟨2025, 1, 2, Date.valid_january ⟨Nat.le_add_left 1 1, Nat.le_add_left 2 29⟩⟩

/-- A task without a date. -/
def sampleTask : Task := { id := "1", content := "Write" }

/-- The order of the scores of a task under two dates and two priorities. -/
theorem scoreTask_monotone_sampleTask :
    (∀ first second : Date, first.ordinal ≤ second.ordinal → ∃ one other,
      scoreTask id {} false secondDay { sampleTask with dueDate := some first } = .ok one ∧
      scoreTask id {} false secondDay { sampleTask with dueDate := some second } = .ok other ∧
      (other.score ≤ one.score ↔ ¬(first.ordinal + 1 = secondDay.ordinal ∧ second = secondDay))) ∧
    ∀ low high : Int, 1 ≤ low → low ≤ high → high ≤ 4 → ∃ one other,
      scoreTask id {} false secondDay { sampleTask with priority := low } = .ok one ∧
      scoreTask id {} false secondDay { sampleTask with priority := high } = .ok other ∧
      one.score ≤ other.score :=
  scoreTask_monotone id {} false secondDay sampleTask ⟨"", rfl⟩

/-- A task due yesterday is scored lower than one due today. -/
theorem yesterday_below_today : ∃ one other,
    scoreTask id {} false secondDay { sampleTask with dueDate := some firstDay } = .ok one ∧
      scoreTask id {} false secondDay { sampleTask with dueDate := some secondDay } = .ok other ∧
      firstDay.ordinal < secondDay.ordinal ∧ one.score < other.score :=
  ⟨_, _, scoreTask_eq ⟨"", rfl⟩, scoreTask_eq ⟨"", rfl⟩, by decide, by decide +kernel⟩

end Sample

end VelaFlow.Planner
