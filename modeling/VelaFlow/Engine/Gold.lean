import VelaFlow.Engine.Processor
import VelaFlow.Pipeline.RunHistory

/-!
# The gold table of `engine/processor.py`

`gold_enrich` deletes the rows of a tenant, then converts the scored tasks to rows, then inserts
these one by one. A task that is not converted and a row that does not fit both end the call after
the deletion. Whether the database keeps the rows before one that does not fit is a parameter.
-/
namespace VelaFlow.Engine

open Pipeline

/-- A row of `gold_scored_tasks`. -/
structure GoldRow where
  /-- `id`. -/
  id : String
  /-- `tenant_id`. -/
  tenantId : String
  /-- `content`. -/
  content : String
  /-- `score`. -/
  score : Int
  /-- `reasons`. -/
  reasons : String
  /-- `priority`. -/
  priority : Int
  /-- `due_date`. -/
  dueDate : String
  /-- `project_name`. -/
  projectName : String
  /-- `scored_at`, in microseconds. -/
  scoredAt : Int
  deriving DecidableEq

/-- `executemany` of an insertion: the rows are inserted up to the first that is refused. What is
inserted before it stays when the database keeps it. -/
def executemany {ρ : Type} (keepsEarlier : Bool) (refusal : ρ → Option PyException)
    (table rows : List ρ) : Except PyException Unit × List ρ :=
  match rows.findSome? refusal with
  | none => (.ok (), table ++ rows)
  | some exception =>
    (.error exception,
      if keepsEarlier then table ++ rows.takeWhile fun row => (refusal row).isNone else table)

/-- All rows are inserted when none is refused. -/
theorem executemany_ok {ρ : Type} {keepsEarlier : Bool} {refusal : ρ → Option PyException}
    {table rows : List ρ} (none' : rows.findSome? refusal = none) :
    executemany keepsEarlier refusal table rows = (.ok (), table ++ rows) := by
  unfold executemany
  rw [none']

/-- What stays when a row is refused. -/
theorem executemany_error {ρ : Type} {keepsEarlier : Bool} {refusal : ρ → Option PyException}
    {table rows : List ρ} {exception : PyException}
    (refused : rows.findSome? refusal = some exception) :
    executemany keepsEarlier refusal table rows = (.error exception, table ++
      if keepsEarlier then rows.takeWhile fun row => (refusal row).isNone else []) := by
  unfold executemany
  rw [refused]
  cases keepsEarlier with
  | false => exact Prod.ext rfl (List.append_nil table).symm
  | true => rfl

section Rows

variable {ρ : Type} {tenant : ρ → String} {tenantId : String} {table rows : List ρ}

/-- Rows of a tenant that replace its rows are all that it has. -/
theorem filter_replaced (owned : ∀ row ∈ rows, tenant row = tenantId) :
    (((table.filter fun row => decide (tenant row ≠ tenantId)) ++ rows).filter fun row =>
      decide (tenant row = tenantId)) = rows := by
  rw [List.filter_append, List.filter_filter]
  have none : (table.filter fun row =>
      decide (tenant row = tenantId) && decide (tenant row ≠ tenantId)) = [] := by
    rw [List.filter_eq_nil_iff]
    intro row _
    by_cases same : tenant row = tenantId
    · simp [same]
    · simp [same]
  have all : (rows.filter fun row => decide (tenant row = tenantId)) = rows := by
    rw [List.filter_eq_self]
    intro row inside
    exact decide_eq_true (owned row inside)
  rw [none, all, List.nil_append]

/-- No row is another's when all are a tenant's. -/
theorem length_others_eq_zero_iff :
    (table.filter fun row => decide (tenant row ≠ tenantId)).length = 0 ↔
      ∀ row ∈ table, tenant row = tenantId := by
  rw [List.length_eq_zero_iff, List.filter_eq_nil_iff]
  refine forall₂_congr fun row _ => ?_
  rw [decide_eq_true_iff, not_not]

end Rows

/-- The rows of a tenant. -/
def goldRowsOf (tenantId : String) (table : List GoldRow) : List GoldRow :=
  table.filter fun row => decide (row.tenantId = tenantId)

/-- The rows of all others. -/
def goldRowsBut (tenantId : String) (table : List GoldRow) : List GoldRow :=
  table.filter fun row => decide (row.tenantId ≠ tenantId)

namespace MedallionProcessor

variable (processor : MedallionProcessor)

/-- The row of a scored task. -/
def goldRow (tenantId : String) (now : DateTime) (task : Dict) : Except PyException GoldRow := do
  let text := processor.builtins.text
  let score ← processor.builtins.toInt (task.getD "score" (.int 0))
  let priority ← processor.builtins.toInt (task.getD "priority" (.int 1))
  let dueDate := task.getD "due_date" (.str "")
  pure {
    id := text (task.getD "task_id" (task.getD "id" (.str "")))
    tenantId
    content := text (task.getD "content" (.str ""))
    score
    reasons := processor.dumps (task.getD "reasons" (.arr []))
    priority
    dueDate := if dueDate.truthy then text dueDate else ""
    projectName := text (task.getD "project_name" (.str ""))
    scoredAt := now.instant }

/-- The exception for a row with a value that is no `INTEGER`. -/
def goldRefusal (row : GoldRow) : Option PyException :=
  if !isInteger row.score then some (processor.outOfRange row.score)
  else if !isInteger row.priority then some (processor.outOfRange row.priority)
  else none

/-- `gold_enrich`, with the table it leaves. -/
def goldEnrich (keepsEarlier : Bool) (tenantId : String) (tasks : List Dict) (now : DateTime)
    (table : List GoldRow) : Except PyException Nat × List GoldRow :=
  let cleared := goldRowsBut tenantId table
  match tasks.mapM (processor.goldRow tenantId now) with
  | .error exception => (.error exception, cleared)
  | .ok rows =>
    let inserted := executemany keepsEarlier processor.goldRefusal cleared rows
    (inserted.1.map fun _ => rows.length, inserted.2)

end MedallionProcessor

/-- A call of `gold_enrich` is all or nothing: when it returns the rows of the tenant are those of
the tasks, when it raises they are those there were, and the rows of others are not touched. A table
has no order. -/
structure AllOrNothing (processor : MedallionProcessor) (keepsEarlier : Bool) (tenantId : String)
    (tasks : List Dict) (now : DateTime) (table : List GoldRow) : Prop where
  /-- When it returns, the tenant has the rows of the tasks. -/
  returned : ∀ count left, processor.goldEnrich keepsEarlier tenantId tasks now table =
    (.ok count, left) → ∃ rows, tasks.mapM (processor.goldRow tenantId now) = .ok rows ∧
      (goldRowsOf tenantId left).Perm rows
  /-- When it raises, the tenant has the rows it had. -/
  raised : ∀ exception left, processor.goldEnrich keepsEarlier tenantId tasks now table =
    (.error exception, left) → (goldRowsOf tenantId left).Perm (goldRowsOf tenantId table)
  /-- The rows of others stay. -/
  others : goldRowsBut tenantId (processor.goldEnrich keepsEarlier tenantId tasks now table).2 =
    goldRowsBut tenantId table

/-- All tasks are converted to rows that fit. -/
def Storable (processor : MedallionProcessor) (tenantId : String) (tasks : List Dict)
    (now : DateTime) : Prop :=
  ∃ rows, tasks.mapM (processor.goldRow tenantId now) = .ok rows ∧
    ∀ row ∈ rows, isInteger row.score = true ∧ isInteger row.priority = true

/-- The rows before the first that does not fit, when all tasks are converted and the database keeps
them, and otherwise none. -/
def stranded (processor : MedallionProcessor) (keepsEarlier : Bool) (tenantId : String)
    (tasks : List Dict) (now : DateTime) : List GoldRow :=
  match tasks.mapM (processor.goldRow tenantId now) with
  | .error _ => []
  | .ok rows =>
    if keepsEarlier then rows.takeWhile fun row => isInteger row.score && isInteger row.priority
    else []

section Enriching

variable {processor : MedallionProcessor} {keepsEarlier : Bool} {tenantId : String}
  {tasks : List Dict} {now : DateTime} {table : List GoldRow}

/-- A row is refused when one of its values does not fit. -/
theorem goldRefusal_isNone (row : GoldRow) : (processor.goldRefusal row).isNone =
    (isInteger row.score && isInteger row.priority) := by
  unfold MedallionProcessor.goldRefusal
  cases isInteger row.score with
  | false => rfl
  | true =>
    cases isInteger row.priority with
    | false => rfl
    | true => rfl

/-- No row is refused when all fit. -/
theorem findSome?_goldRefusal_iff {rows : List GoldRow} :
    rows.findSome? processor.goldRefusal = none ↔
      ∀ row ∈ rows, isInteger row.score = true ∧ isInteger row.priority = true := by
  rw [List.findSome?_eq_none_iff]
  refine forall₂_congr fun row _ => ?_
  rw [← Option.isNone_iff_eq_none, goldRefusal_isNone, Bool.and_eq_true]

/-- The rows of the tasks of a tenant are its own. -/
theorem tenantId_of_mapM {rows : List GoldRow}
    (made : tasks.mapM (processor.goldRow tenantId now) = .ok rows) :
    ∀ row ∈ rows, row.tenantId = tenantId := by
  have owned : rows.map GoldRow.tenantId = tasks.map fun _ => tenantId := by
    refine map_of_mapM made fun task row converted => ?_
    obtain ⟨score, -, next⟩ := bind_ok_iff.mp converted
    obtain ⟨priority, -, last⟩ := bind_ok_iff.mp next
    cases last
    rfl
  intro row inside
  have among : row.tenantId ∈ tasks.map fun _ => tenantId := owned ▸ List.mem_map_of_mem inside
  obtain ⟨task, -, same⟩ := List.mem_map.mp among
  exact same.symm

/-- Rows of a tenant that are added to those of others are all that the tenant has. -/
theorem goldRowsOf_append {rows : List GoldRow} (owned : ∀ row ∈ rows, row.tenantId = tenantId) :
    goldRowsOf tenantId (goldRowsBut tenantId table ++ rows) = rows := filter_replaced owned

/-- Rows of a tenant that are added to those of others leave these as they are. -/
theorem goldRowsBut_append {rows : List GoldRow} (owned : ∀ row ∈ rows, row.tenantId = tenantId) :
    goldRowsBut tenantId (goldRowsBut tenantId table ++ rows) = goldRowsBut tenantId table := by
  unfold goldRowsBut
  rw [List.filter_append, List.filter_filter]
  have none : (rows.filter fun row => decide (row.tenantId ≠ tenantId)) = [] := by
    rw [List.filter_eq_nil_iff]
    intro row inside
    simp [owned row inside]
  have again : (table.filter fun row =>
      decide (row.tenantId ≠ tenantId) && decide (row.tenantId ≠ tenantId)) =
        table.filter fun row => decide (row.tenantId ≠ tenantId) := by
    simp only [Bool.and_self]
  rw [none, again, List.append_nil]

/-- What a call does when all tasks are converted to rows that fit. -/
theorem goldEnrich_of_storable {rows : List GoldRow}
    (made : tasks.mapM (processor.goldRow tenantId now) = .ok rows)
    (fit : ∀ row ∈ rows, isInteger row.score = true ∧ isInteger row.priority = true) :
    processor.goldEnrich keepsEarlier tenantId tasks now table =
      (.ok rows.length, goldRowsBut tenantId table ++ rows) := by
  have accepted := (@findSome?_goldRefusal_iff processor rows).mpr fit
  unfold MedallionProcessor.goldEnrich
  rw [made]
  dsimp only
  rw [executemany_ok accepted]
  rfl

/-- What a call does when not all tasks are converted to rows that fit: it raises, and leaves the
stranded rows. -/
theorem goldEnrich_of_not_storable (not : ¬Storable processor tenantId tasks now) :
    ∃ exception, processor.goldEnrich keepsEarlier tenantId tasks now table =
      (.error exception, goldRowsBut tenantId table ++
        stranded processor keepsEarlier tenantId tasks now) := by
  unfold MedallionProcessor.goldEnrich stranded
  cases made : tasks.mapM (processor.goldRow tenantId now) with
  | error exception => exact ⟨exception, by rw [List.append_nil]⟩
  | ok rows =>
    cases refused : rows.findSome? processor.goldRefusal with
    | none => exact absurd ⟨rows, made, findSome?_goldRefusal_iff.mp refused⟩ not
    | some exception =>
      have fits : (fun row => (processor.goldRefusal row).isNone) =
          fun row => isInteger row.score && isInteger row.priority :=
        funext fun row => goldRefusal_isNone row
      refine ⟨exception, ?_⟩
      dsimp only
      rw [executemany_error refused, fits]
      rfl

/-- What is stranded is of the tenant. -/
theorem tenantId_stranded :
    ∀ row ∈ stranded processor keepsEarlier tenantId tasks now, row.tenantId = tenantId := by
  intro row inside
  unfold stranded at inside
  cases made : tasks.mapM (processor.goldRow tenantId now) with
  | error exception =>
    rw [made] at inside
    exact absurd inside List.not_mem_nil
  | ok rows =>
    rw [made] at inside
    cases keepsEarlier with
    | false => exact absurd inside List.not_mem_nil
    | true => exact tenantId_of_mapM made row ((List.takeWhile_sublist _).subset inside)

end Enriching

/-- A call of `gold_enrich` is all or nothing exactly when all tasks are converted to rows that fit,
or the rows that the tenant had are just those that are stranded. -/
theorem goldEnrich_allOrNothing_iff (processor : MedallionProcessor) (keepsEarlier : Bool)
    (tenantId : String) (tasks : List Dict) (now : DateTime) (table : List GoldRow) :
    AllOrNothing processor keepsEarlier tenantId tasks now table ↔
      Storable processor tenantId tasks now ∨
        (goldRowsOf tenantId table).Perm (stranded processor keepsEarlier tenantId tasks now) := by
  by_cases storable : Storable processor tenantId tasks now
  · refine iff_of_true ?_ (Or.inl storable)
    obtain ⟨rows, made, fit⟩ := storable
    have owned := tenantId_of_mapM made
    have does :=
      @goldEnrich_of_storable processor keepsEarlier tenantId tasks now table rows made fit
    constructor
    · intro count left is
      cases does.symm.trans is
      refine ⟨rows, made, ?_⟩
      rw [goldRowsOf_append owned]
    · intro exception left is
      cases does.symm.trans is
    · rw [does, goldRowsBut_append owned]
  · obtain ⟨exception, does⟩ :=
      @goldEnrich_of_not_storable processor keepsEarlier tenantId tasks now table storable
    have owned := @tenantId_stranded processor keepsEarlier tenantId tasks now
    rw [or_iff_right storable]
    constructor
    · intro atomic
      have mine := atomic.raised exception _ does
      rw [goldRowsOf_append owned] at mine
      exact mine.symm
    · intro same
      constructor
      · intro count left is
        cases does.symm.trans is
      · intro raised left is
        cases does.symm.trans is
        rw [goldRowsOf_append owned]
        exact same.symm
      · rw [does, goldRowsBut_append owned]

section Sample

/-- A processor that reads no number in a text. -/
def plainProcessor : MedallionProcessor where
  builtins := idleScheduler.silver
  dumps _ := "[]"
  md5 := id
  outOfRange _ := .other "ConversionException" "Conversion Error"

/-- A row of a tenant. -/
def sampleRow : GoldRow := ⟨"1", "tn_a", "Write", 5, "[]", 1, "", "", 0⟩

/-- A task with a word for its score takes the rows of the tenant away. -/
theorem word_clears : ¬AllOrNothing plainProcessor true "tn_a" [[("score", .str "high")]] .newYear
    [sampleRow] := by
  intro atomic
  have kept := atomic.raised _ _ rfl
  exact absurd kept.length_eq (by decide)

end Sample

end VelaFlow.Engine
