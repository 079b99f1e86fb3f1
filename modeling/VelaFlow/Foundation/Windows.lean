import VelaFlow.Foundation.Firsts

/-!
# The first row of each partition

What a query keeps of its rows when it numbers those of each partition by descending time and takes
number one. Of the latest rows of a partition a database may number any one first, so the order in
which it takes rows is a parameter that carries what the query asks of it. The rows that can be
numbered one are the latest of their partition, and no others.
-/
namespace VelaFlow

variable {ρ κ τ : Type} [DecidableEq κ] [LinearOrder τ]

/-- Of rows that are taken from the latest on, the first of a key is a latest of it. -/
theorem latest_of_mem_firstBy {time : ρ → τ} {key : ρ → κ} {rows : List ρ} {seen : List κ}
    {row other : ρ} (latest : rows.Pairwise fun first second => time second ≤ time first)
    (one : row ∈ firstBy key rows seen) (inside : other ∈ rows) (level : key other = key row) :
    time other ≤ time row := by
  induction rows generalizing seen with
  | nil => cases inside
  | cons first rest ih =>
    have order := List.pairwise_cons.mp latest
    have new : key row ∉ seen :=
      ((mem_map_firstBy key (first :: rest) seen (key row)).mp (List.mem_map_of_mem one)).2
    by_cases old : key first ∈ seen
    · have different : other ≠ first := by
        intro same
        rw [← level, same] at new
        exact new old
      rw [firstBy_cons_of_mem key old] at one
      exact ih order.2 one ((List.mem_cons.mp inside).resolve_left different)
    · rw [firstBy_cons_of_not_mem key old] at one
      cases List.mem_cons.mp one with
      | inl same =>
        subst same
        cases List.mem_cons.mp inside with
        | inl itself => rw [itself]
        | inr later => exact order.1 other later
      | inr behind =>
        have apart : key row ∉ key first :: seen :=
          ((mem_map_firstBy key rest _ (key row)).mp (List.mem_map_of_mem behind)).2
        have different : other ≠ first := by
          intro same
          rw [← level, same] at apart
          exact apart List.mem_cons_self
        exact ih order.2 behind ((List.mem_cons.mp inside).resolve_left different)

/-- An order in which a database takes rows for `ORDER BY time DESC`. -/
structure Window (time : ρ → τ) where
  /-- The rows in that order. -/
  arrange : List ρ → List ρ
  /-- They are the same rows. -/
  perm : ∀ rows, (arrange rows).Perm rows
  /-- Later rows come first. -/
  latest : ∀ rows, (arrange rows).Pairwise fun first second => time second ≤ time first

namespace Window

variable {time : ρ → τ} (window : Window time) (key : ρ → κ)

/-- The rows with `ROW_NUMBER() OVER (PARTITION BY key ORDER BY time DESC) = 1`. -/
def ones (rows : List ρ) : List ρ := firstBy key (window.arrange rows) []

/-- Of each partition one row is numbered one. -/
theorem nodup_map_ones (rows : List ρ) : ((window.ones key rows).map key).Nodup :=
  nodup_map_firstBy key (window.arrange rows) []

/-- What is numbered one is a row. -/
theorem mem_of_mem_ones {rows : List ρ} {row : ρ} (one : row ∈ window.ones key rows) :
    row ∈ rows :=
  (window.perm rows).mem_iff.mp (mem_of_mem_firstBy key one)

/-- As many rows are numbered one as there are partitions. -/
theorem length_ones (rows : List ρ) :
    (window.ones key rows).length = (rows.map key).dedup.length := by
  have same : ((window.arrange rows).map key).dedup.Perm (rows.map key).dedup :=
    ((window.perm rows).map key).dedup
  unfold ones
  rw [length_firstBy, same.length_eq]

/-- Each partition has a row that is numbered one. -/
theorem mem_map_ones {rows : List ρ} {one : κ} :
    one ∈ (window.ones key rows).map key ↔ one ∈ rows.map key := by
  have same : ((window.arrange rows).map key).Perm (rows.map key) := (window.perm rows).map key
  unfold ones
  rw [mem_map_firstBy, same.mem_iff]
  exact and_iff_left List.not_mem_nil

/-- What is numbered one is a latest row of its partition. -/
theorem latest_of_mem_ones {rows : List ρ} {row other : ρ} (one : row ∈ window.ones key rows)
    (inside : other ∈ rows) (level : key other = key row) : time other ≤ time row :=
  latest_of_mem_firstBy (window.latest rows) one ((window.perm rows).mem_iff.mpr inside) level

variable [DecidableEq ρ]

/-- Whether a row is taken before another by a database that takes one row before all others of its
time. -/
def precedes (time : ρ → τ) (favoured first second : ρ) : Bool :=
  decide (time second < time first) ||
    decide (time second = time first) && (decide (first = favoured) || decide (second ≠ favoured))

/-- What precedes another is not earlier, and of one time only a favoured row precedes one. -/
theorem precedes_iff {favoured first second : ρ} : precedes time favoured first second = true ↔
    time second < time first ∨
      time second = time first ∧ (first = favoured ∨ second ≠ favoured) := by
  simp [precedes]

/-- To precede is transitive. -/
theorem precedes_trans {favoured first second third : ρ}
    (one : precedes time favoured first second = true)
    (other : precedes time favoured second third = true) :
    precedes time favoured first third = true := by
  rw [precedes_iff] at one other ⊢
  rcases one with later | ⟨level, own⟩
  · have notEarlier : time third ≤ time second := other.elim le_of_lt fun both => both.1.le
    exact Or.inl (lt_of_le_of_lt notEarlier later)
  · rcases other with later | ⟨level', own'⟩
    · exact Or.inl (level ▸ later)
    · refine Or.inr ⟨level'.trans level, own.imp id fun different => ?_⟩
      exact own'.resolve_left different

/-- Of two rows one precedes the other. -/
theorem precedes_total (favoured first second : ρ) :
    (precedes time favoured first second || precedes time favoured second first) = true := by
  rw [Bool.or_eq_true, precedes_iff, precedes_iff]
  rcases lt_trichotomy (time first) (time second) with earlier | level | later
  · exact Or.inr (Or.inl earlier)
  · by_cases own : first = favoured
    · exact Or.inl (Or.inr ⟨level.symm, Or.inl own⟩)
    · exact Or.inr (Or.inr ⟨level, Or.inr own⟩)
  · exact Or.inl (Or.inl later)

/-- The order of a sort is kept by all pairs. -/
theorem pairwise_precedes (favoured : ρ) (rows : List ρ) :
    (rows.mergeSort (precedes time favoured)).Pairwise
      fun first second => precedes time favoured first second = true :=
  List.pairwise_mergeSort (fun _ _ _ => precedes_trans) (precedes_total favoured) rows

/-- The database that takes a row before all others of its time. -/
def favouring (time : ρ → τ) (favoured : ρ) : Window time where
  arrange := fun rows => rows.mergeSort (precedes time favoured)
  perm := fun rows => List.mergeSort_perm rows _
  latest := fun rows => (pairwise_precedes favoured rows).imp fun before =>
    (precedes_iff.mp before).elim le_of_lt fun both => both.1.le

/-- A row can be numbered one exactly when it is a latest of its partition. -/
theorem exists_mem_ones_iff {rows : List ρ} {row : ρ} :
    (∃ window : Window time, row ∈ window.ones key rows) ↔
      row ∈ rows ∧ ∀ other ∈ rows, key other = key row → time other ≤ time row := by
  constructor
  · rintro ⟨window, one⟩
    exact ⟨window.mem_of_mem_ones key one, fun other => window.latest_of_mem_ones key one⟩
  · rintro ⟨inside, latest⟩
    refine ⟨favouring time row, ?_⟩
    have there : row ∈ (favouring time row).arrange rows :=
      ((favouring time row).perm rows).mem_iff.mpr inside
    obtain ⟨front, back, split, new⟩ := List.eq_append_cons_of_mem there
    have order : ((favouring time row).arrange rows).Pairwise
        fun first second => precedes time row first second = true := pairwise_precedes row rows
    unfold ones
    rw [split] at order ⊢
    apply mem_firstBy_of_first key _ List.not_mem_nil
    intro before
    obtain ⟨other, early, level⟩ := List.mem_map.mp before
    have member : other ∈ rows := by
      rw [← ((favouring time row).perm rows).mem_iff, split]
      exact List.mem_append_left _ early
    have notLater := latest other member level
    have first := (List.pairwise_append.mp order).2.2 other early row List.mem_cons_self
    cases precedes_iff.mp first with
    | inl later => exact absurd later (not_lt.mpr notLater)
    | inr both =>
      have same : other = row := both.2.resolve_right fun different => different rfl
      exact new (same ▸ early)

end Window

end VelaFlow
