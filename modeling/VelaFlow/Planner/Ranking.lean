import VelaFlow.Foundation.Firsts
import VelaFlow.Foundation.Sorting
import VelaFlow.Planner.Digest

/-!
# The ranking of tasks and the top priorities of a digest

The top priorities are the first of the ranked tasks with different identifiers, as many as the
limit allows. Two digests that differ in the limit only are one text exactly when they list as
many top priorities: the number is written in the text.
-/
namespace VelaFlow.Planner

/-- The identifier of a scored task. -/
def scoredId (scored : ScoredTask) : String := scored.task.id

/-- The loop that fills the top priorities takes the first of them. -/
theorem fillTop_eq (limit : Int) (ranked : List ScoredTask) (seenIds : List String)
    (top : List ScoredTask) : fillTop limit ranked seenIds top =
      top ++ (firstBy scoredId ranked seenIds).take (limit.toNat - top.length) := by
  induction ranked generalizing seenIds top with
  | nil => simp [fillTop, firstBy]
  | cons scored rest ih =>
    rw [fillTop]
    by_cases seen : scored.task.id ∈ seenIds
    · rw [if_neg (fun both => both.1 seen), firstBy_cons_of_mem scoredId seen, ih]
    · by_cases room : (top.length : Int) < limit
      · have more : limit.toNat - top.length = (limit.toNat - (top ++ [scored]).length) + 1 := by
          rw [List.length_append, List.length_singleton]
          omega
        rw [if_pos ⟨seen, room⟩, firstBy_cons_of_not_mem scoredId seen, ih, more,
          List.take_succ_cons, List.append_assoc]
        rfl
      · have full : limit.toNat - top.length = 0 := by omega
        rw [if_neg (fun both => room both.2), ih, full, List.take_zero, List.take_zero]

section Ranking

variable {lower : String → String} {settings : Settings} {weekendMode : Bool} {today : Date}

/-- A scored task is of the task that was scored. -/
theorem task_scoreTask {task : Task} {scored : ScoredTask}
    (done : scoreTask lower settings weekendMode today task = .ok scored) :
    scored.task = task := by
  unfold scoreTask at done
  obtain ⟨sec, -, result⟩ := bind_ok_iff.mp done
  cases result
  rfl

/-- Scoring tasks keeps them and their order. -/
theorem tasks_mapM {tasks : List Task} {scored : List ScoredTask}
    (done : tasks.mapM (scoreTask lower settings weekendMode today) = .ok scored) :
    scored.map ScoredTask.task = tasks := by
  induction tasks generalizing scored with
  | nil =>
    cases done
    rfl
  | cons task rest ih =>
    rw [List.mapM_cons] at done
    obtain ⟨first, isFirst, later⟩ := bind_ok_iff.mp done
    obtain ⟨more, isMore, result⟩ := bind_ok_iff.mp later
    cases result
    rw [List.map_cons, task_scoreTask isFirst, ih isMore]

/-- Ranking tasks loses none and adds none. -/
theorem perm_rankTasks {tasks : List Task} {ranked : List ScoredTask}
    (done : rankTasks lower settings weekendMode today tasks = .ok ranked) :
    (ranked.map ScoredTask.task).Perm tasks := by
  unfold rankTasks at done
  obtain ⟨scored, isScored, result⟩ := bind_ok_iff.mp done
  cases result
  have sorted := (List.mergeSort_perm scored fun first second =>
    decide (sortKey lower first ≤ sortKey lower second)).map ScoredTask.task
  rw [tasks_mapM isScored] at sorted
  exact sorted

/-- The limit of the top priorities plays no part in the ranking. -/
theorem rankTasks_limit (limit : Int) (tasks : List Task) :
    rankTasks lower { settings with dailyTopTaskLimit := limit } weekendMode today tasks =
      rankTasks lower settings weekendMode today tasks := rfl

end Ranking

/-- How many top priorities a digest of tasks lists. -/
def topCount (limit : Int) (tasks : List Task) : Nat :=
  min limit.toNat (tasks.map Task.id).dedup.length

/-- A digest lists as many top priorities as there are, up to the limit. -/
theorem length_top {lower : String → String} {settings : Settings} {today : Date}
    {tasks : List Task} {ranked : List ScoredTask}
    (done : rankTasks lower settings false today tasks = .ok ranked) :
    (sections settings today ranked).top.length = topCount settings.dailyTopTaskLimit tasks := by
  have ids : (ranked.map scoredId).dedup.length = (tasks.map Task.id).dedup.length := by
    have same := (perm_rankTasks done).map Task.id
    rw [List.map_map] at same
    exact same.dedup.length_eq
  show (fillTop settings.dailyTopTaskLimit ranked [] []).length = _
  rw [fillTop_eq, List.nil_append, List.length_take, length_firstBy, ids]
  rfl

/-- What comes behind the first of joined lines. -/
theorem intercalate_opens (separator first : String) (rest : List String) :
    ∃ behind, separator.intercalate (first :: rest) = first ++ behind := by
  by_cases last : rest = []
  · subst last
    exact ⟨"", by rw [String.intercalate_singleton, String.append_empty]⟩
  · exact ⟨separator ++ separator.intercalate rest, by
      rw [String.intercalate_cons_of_ne_nil last, String.append_assoc]⟩

/-- The number of top priorities can be read from the text of a digest. -/
theorem length_top_of_text {repr : Json → String} {settings other : Settings} {today : Date}
    {parts others : Sections} {events : List CalendarEvent} {emails : List EmailAlert}
    (opening : openingLines today parts = openingLines today others)
    (same : (renderDaily repr settings today parts events emails).bodyText =
      (renderDaily repr other today others events emails).bodyText) :
    parts.top.length = others.top.length := by
  have opens : ∀ (chosen : Settings) (shown : Sections), ∃ behind,
      (renderDaily repr chosen today shown events emails).bodyText =
        "\n".intercalate (openingLines today shown) ++ ("\n" ++ ("\n" ++ ("🎯 TOP " ++
          (toString shown.top.length ++ (" PRIORITIES" ++ behind))))) := by
    intro chosen shown
    have filled : priorityLines shown.top ++ laterLines repr chosen today shown events emails ≠ [] :=
      List.append_ne_nil_of_left_ne_nil (List.cons_ne_nil _ _) _
    obtain ⟨listed, heads⟩ : ∃ listed, priorityLines shown.top = ("\n" ++ ("🎯 TOP " ++
        toString shown.top.length ++ " PRIORITIES")) :: listed := ⟨_, rfl⟩
    obtain ⟨behind, is⟩ := intercalate_opens "\n"
      ("\n" ++ ("🎯 TOP " ++ toString shown.top.length ++ " PRIORITIES"))
      (listed ++ laterLines repr chosen today shown events emails)
    refine ⟨behind, ?_⟩
    have body : (renderDaily repr chosen today shown events emails).bodyText =
        "\n".intercalate (openingLines today shown ++
          (priorityLines shown.top ++ laterLines repr chosen today shown events emails)) := by
      unfold renderDaily
      rw [List.append_assoc]
    rw [heads] at body filled
    have opened : openingLines today shown ≠ [] := by
      unfold openingLines
      exact List.cons_ne_nil _ _
    rw [body, String.intercalate_append_of_ne_nil opened filled, List.cons_append, is]
    simp only [String.append_assoc]
  obtain ⟨one, first⟩ := opens settings parts
  obtain ⟨two, second⟩ := opens other others
  rw [first, second, opening] at same
  simp only [String.append_right_inj] at same
  have characters := congrArg String.toList same
  have words : " PRIORITIES".toList = ' ' :: "PRIORITIES".toList := rfl
  have free : ∀ number : Nat, ' ' ∉ (toString number).toList := by
    intro number inside
    have digit : ' '.isDigit = true := by
      rw [Nat.toString_eq_repr, Nat.toList_repr] at inside
      exact Nat.isDigit_of_mem_toDigits (by decide) (by decide) inside
    cases digit
  simp only [String.toList_append, words, List.cons_append] at characters
  have numbers := (append_mark_inj (free _) (free _) characters).1
  rw [Nat.toString_eq_repr, Nat.toString_eq_repr, Nat.toList_repr, Nat.toList_repr] at numbers
  have read := congrArg (fun text => Nat.ofDigitChars 10 text 0) numbers
  simp only [Nat.ofDigitChars_ten_toDigits] at read
  exact read

/-- The top priorities under two limits are the same when they are as many. -/
theorem fillTop_congr {limit other : Int} {ranked : List ScoredTask}
    (same : min limit.toNat (firstBy scoredId ranked []).length =
      min other.toNat (firstBy scoredId ranked []).length) :
    fillTop limit ranked [] [] = fillTop other ranked [] [] := by
  rw [fillTop_eq, fillTop_eq, List.length_nil, Nat.sub_zero, Nat.sub_zero, List.take_eq_take_min,
    same, ← List.take_eq_take_min]

/-- The digests of two limits are the same when they list as many top priorities. -/
theorem buildDailyDigest_limit_iff {lower : String → String} {repr : Json → String}
    {settings : Settings} {today : Date} {tasks : List Task} {events : List CalendarEvent}
    {emails : List EmailAlert} {ranked : List ScoredTask} (limit : Int)
    (done : rankTasks lower settings false today tasks = .ok ranked) :
    buildDailyDigest lower repr settings today tasks events emails =
        buildDailyDigest lower repr { settings with dailyTopTaskLimit := limit } today tasks events
          emails ↔
      topCount settings.dailyTopTaskLimit tasks = topCount limit tasks := by
  have limited := (rankTasks_limit limit tasks).trans done
  have count := length_top done
  have other := length_top limited
  have built : ∀ {chosen : Settings}, rankTasks lower chosen false today tasks = .ok ranked →
      buildDailyDigest lower repr chosen today tasks events emails =
        .ok (renderDaily repr chosen today (sections chosen today ranked) events emails) := by
    intro chosen is
    unfold buildDailyDigest
    rw [is]
    rfl
  rw [built done, built limited]
  constructor
  · intro same
    rw [← count, ← other]
    exact length_top_of_text rfl (congrArg DigestResult.bodyText (Except.ok.inj same))
  · intro same
    rw [← count, ← other] at same
    have tops : (sections settings today ranked).top =
        (sections { settings with dailyTopTaskLimit := limit } today ranked).top := by
      have lengths : (fillTop settings.dailyTopTaskLimit ranked [] []).length =
          (fillTop limit ranked [] []).length := same
      apply fillTop_congr
      rw [fillTop_eq, fillTop_eq, List.nil_append, List.nil_append, List.length_take,
        List.length_take] at lengths
      exact lengths
    have parts : sections settings today ranked =
        sections { settings with dailyTopTaskLimit := limit } today ranked := by
      show Sections.mk _ _ _ _ _ (sections settings today ranked).top = _
      rw [tops]
      rfl
    rw [parts]
    rfl

end VelaFlow.Planner

/-!
## The ranking of tasks

`rank_tasks` sorts the scored tasks stably by a key of four parts. A task whose section has a text
for its name has a score, so a ranking is a rearrangement of all scored tasks, and its keys do not
depend on the order in which the tasks are given.
-/
namespace VelaFlow.Planner

/-- The section of a task has a text for its name, as its type says. -/
def HasNamedSection (task : Task) : Prop := ∃ name, task.sectionName = .str name

section Scores

variable (lower : String → String) (settings : Settings) (weekendMode : Bool) (today : Date)

/-- The name of a section in lower case, and nothing where there is none. -/
def sectionWord : Json → String
  | .str name => if name = "" then "" else lower name
  | _ => ""

/-- A task with the score that its awards add up to. -/
def scored (task : Task) : ScoredTask :=
  let given := awards settings weekendMode today task (sectionWord lower task.sectionName)
  { task, score := (given.map Award.points).sum, reasons := given.map Award.reason }

variable {lower settings weekendMode today}

/-- A task whose section has a text for its name is scored. -/
theorem scoreTask_eq {task : Task} (named : HasNamedSection task) :
    scoreTask lower settings weekendMode today task =
      .ok (scored lower settings weekendMode today task) := by
  obtain ⟨name, is⟩ := named
  have word : sectionText lower task.sectionName = .ok (sectionWord lower task.sectionName) := by
    rw [is]
    unfold sectionText sectionWord
    by_cases empty : name = ""
    · simp [Json.truthy, empty]
    · simp [Json.truthy, empty]
  unfold scoreTask scored
  rw [word]
  rfl

/-- The tasks are ranked by sorting their scores. -/
theorem rankTasks_eq {tasks : List Task} (named : ∀ task ∈ tasks, HasNamedSection task) :
    rankTasks lower settings weekendMode today tasks =
      .ok (sortBy (sortKey lower) (tasks.map (scored lower settings weekendMode today))) := by
  have scores := mapM_eq_map fun task inside =>
    @scoreTask_eq lower settings weekendMode today task (named task inside)
  unfold rankTasks
  rw [scores]
  rfl

end Scores

/-- A ranking is a stable sort of the scored tasks by their keys, and the keys do not depend on the
order of the tasks. -/
theorem rankTasks_stablySorted (lower : String → String) (settings : Settings) (weekendMode : Bool)
    (today : Date) (tasks : List Task) (named : ∀ task ∈ tasks, HasNamedSection task) :
    ∃ scores ranked, tasks.mapM (scoreTask lower settings weekendMode today) = .ok scores ∧
      rankTasks lower settings weekendMode today tasks = .ok ranked ∧
      StablySorted (sortKey lower) scores ranked ∧
      ∀ others : List Task, others.Perm tasks → ∃ reranked,
        rankTasks lower settings weekendMode today others = .ok reranked ∧
          reranked.map (sortKey lower) = ranked.map (sortKey lower) := by
  have scores := mapM_eq_map fun task inside =>
    @scoreTask_eq lower settings weekendMode today task (named task inside)
  refine ⟨_, _, scores, rankTasks_eq named, stablySorted_sortBy _ _, fun others same => ?_⟩
  have otherNamed : ∀ task ∈ others, HasNamedSection task := fun task inside =>
    named task (same.mem_iff.mp inside)
  exact ⟨_, rankTasks_eq otherNamed, map_sortBy_of_perm (same.map _)⟩

section Sample

/-- Two tasks that differ in their content. -/
def samplePair : List Task := [{ id := "1", content := "Write" }, { id := "2", content := "Read" }]

/-- The tasks of the sample have named sections. -/
theorem hasNamedSection_samplePair : ∀ task ∈ samplePair, HasNamedSection task := by
  intro task inside
  cases List.mem_pair.mp inside with
  | inl is => exact ⟨"", congrArg Task.sectionName is⟩
  | inr is => exact ⟨"", congrArg Task.sectionName is⟩

/-- The ranking of two tasks. -/
theorem rankTasks_samplePair : ∃ scores ranked,
    samplePair.mapM (scoreTask id {} false DateTime.newYear.date) = .ok scores ∧
      rankTasks id {} false DateTime.newYear.date samplePair = .ok ranked ∧
      StablySorted (sortKey id) scores ranked ∧
      ∀ others : List Task, others.Perm samplePair → ∃ reranked,
        rankTasks id {} false DateTime.newYear.date others = .ok reranked ∧
          reranked.map (sortKey id) = ranked.map (sortKey id) :=
  rankTasks_stablySorted id {} false DateTime.newYear.date samplePair hasNamedSection_samplePair

end Sample

end VelaFlow.Planner
