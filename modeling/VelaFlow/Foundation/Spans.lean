import Mathlib.Algebra.Order.BigOperators.Group.List
import Mathlib.Algebra.Order.Ring.Nat
import Mathlib.Data.List.Nodup
import Mathlib.Data.List.Pairwise
import Mathlib.Data.List.Perm.Subperm
import Mathlib.Data.List.Sort

/-!
# Replacing spans of a list

A span of a list is replaced by a mark. Where several spans are replaced one after the other, the
places of those that are still to come must not move, so the last is replaced first. Spans that
keep apart from each other then become one mark each, and all else stays. The length of the result
tells that spans which overlap, touch or are empty do not.
-/
namespace VelaFlow

/-- A span of a list, with what replaces it. -/
structure Stretch (α : Type*) where
  /-- Where it starts. -/
  start : Nat
  /-- Where what comes behind it starts. -/
  finish : Nat
  /-- What replaces it. -/
  mark : List α

namespace Stretch

variable {α : Type*}

/-- A list with a span of it replaced. -/
def replace (text : List α) (span : Stretch α) : List α :=
  text.take span.start ++ span.mark ++ text.drop span.finish

/-- A place is in a span. -/
def Covers (span : Stretch α) (place : Nat) : Prop := span.start ≤ place ∧ place < span.finish

instance (span : Stretch α) (place : Nat) : Decidable (span.Covers place) :=
  inferInstanceAs (Decidable (_ ∧ _))

/-- Whether a place is in one of the spans. -/
def covered (spans : List (Stretch α)) (place : Nat) : Bool :=
  spans.any fun span => decide (span.Covers place)

/-- A covered place with none right before it: one where a run of covered places starts. -/
def opens (covered : Nat → Bool) (place : Nat) : Bool :=
  covered place && (decide (place = 0) || !covered (place - 1))

/-- What is left of a list from a place on when every run of covered places becomes a mark. -/
def render (covered : Nat → Bool) (mark : Nat → List α) : Nat → List α → List α
  | _, [] => []
  | place, item :: rest =>
    if covered place = true then
      (if opens covered place = true then mark place else []) ++
        render covered mark (place + 1) rest
    else item :: render covered mark (place + 1) rest

/-- There is something between two spans. -/
def Apart (one other : Stretch α) : Prop := one.finish < other.start ∨ other.finish < one.start

instance : Std.Symm (Apart : Stretch α → Stretch α → Prop) := ⟨fun _ _ => Or.symm⟩

/-- The spans are filled, and there is something between any two of them. -/
def Separated (spans : List (Stretch α)) : Prop :=
  (∀ span ∈ spans, span.start < span.finish) ∧ spans.Pairwise Apart

/-- The spans lie in a list of this length. -/
def Within (length : Nat) (spans : List (Stretch α)) : Prop :=
  ∀ span ∈ spans, span.start ≤ span.finish ∧ span.finish ≤ length

section Rendering

variable {cover : Nat → Bool} {mark : Nat → List α}

/-- What no place of is covered stays. -/
theorem render_append_of_uncovered (first rest : List α) (place : Nat)
    (free : ∀ other, place ≤ other → other < place + first.length → cover other = false) :
    render cover mark place (first ++ rest) =
      first ++ render cover mark (place + first.length) rest := by
  induction first generalizing place with
  | nil => rfl
  | cons item more ih =>
    have here : cover place = false := free place le_rfl (by simp)
    have later : ∀ other, place + 1 ≤ other → other < place + 1 + more.length →
        cover other = false := by
      intro other after before
      apply free other (by omega)
      simp only [List.length_cons]
      omega
    have next := ih (place + 1) later
    simp only [List.cons_append, render, here, Bool.false_eq_true, if_false, next]
    rw [List.length_cons, show place + 1 + more.length = place + (more.length + 1) by omega]

/-- What is covered up to a place behind which a run goes on leaves nothing. -/
theorem render_append_of_covered (first rest : List α) (place : Nat)
    (inside : 0 < place ∧ cover (place - 1) = true)
    (full : ∀ other, place ≤ other → other < place + first.length → cover other = true) :
    render cover mark place (first ++ rest) =
      render cover mark (place + first.length) rest := by
  induction first generalizing place with
  | nil => rfl
  | cons item more ih =>
    have here : cover place = true := full place le_rfl (by simp)
    have going : opens cover place = false := by
      have notFirst : place ≠ 0 := by omega
      simp [opens, here, notFirst, inside.2]
    have later : ∀ other, place + 1 ≤ other → other < place + 1 + more.length →
        cover other = true := by
      intro other after before
      apply full other (by omega)
      simp only [List.length_cons]
      omega
    have next := ih (place + 1) ⟨by omega, by simpa using here⟩ later
    simp only [List.cons_append, render, here, going, Bool.false_eq_true, if_false, if_true,
      List.nil_append, next]
    rw [List.length_cons, show place + 1 + more.length = place + (more.length + 1) by omega]

/-- A run of covered places becomes its mark. -/
theorem render_run (first rest : List α) (place : Nat) (filled : first ≠ [])
    (start : opens cover place = true)
    (full : ∀ other, place ≤ other → other < place + first.length → cover other = true) :
    render cover mark place (first ++ rest) =
      mark place ++ render cover mark (place + first.length) rest := by
  cases first with
  | nil => exact absurd rfl filled
  | cons item more =>
    have here : cover place = true := full place le_rfl (by simp)
    have later : ∀ other, place + 1 ≤ other → other < place + 1 + more.length →
        cover other = true := by
      intro other after before
      apply full other (by omega)
      simp only [List.length_cons]
      omega
    have next := @render_append_of_covered α cover mark more rest (place + 1)
      ⟨by omega, by simpa using here⟩ later
    simp only [List.cons_append, render, here, start, if_true, next]
    rw [List.length_cons, show place + 1 + more.length = place + (more.length + 1) by omega]

/-- The length of what is left, when all marks have one length. -/
theorem length_render {length : Nat} (text : List α) (place : Nat)
    (marks : ∀ other, opens cover other = true → (mark other).length = length) :
    (render cover mark place text).length +
        ((List.range' place text.length).filter cover).length =
      text.length + ((List.range' place text.length).filter (opens cover)).length * length := by
  induction text generalizing place with
  | nil => simp [render]
  | cons item rest ih =>
    have next := ih (place + 1)
    rw [List.length_cons, List.range'_succ, List.filter_cons, List.filter_cons]
    cases here : cover place with
    | false =>
      have shut : opens cover place = false := by simp [opens, here]
      simp only [render, here, shut, Bool.false_eq_true, if_false, List.length_cons]
      omega
    | true =>
      cases start : opens cover place with
      | false =>
        simp only [render, here, start, Bool.false_eq_true, if_false, if_true, List.nil_append,
          List.length_cons]
        omega
      | true =>
        have one := marks place start
        simp only [render, here, start, if_true, List.length_append, List.length_cons, one,
          Nat.add_mul, Nat.one_mul]
        omega

end Rendering

section Replacing

variable {spans : List (Stretch α)} {text : List α}

/-- A list from a place on, with spans behind the place that are in order replaced. -/
def pieces (text : List α) : Nat → List (Stretch α) → List α
  | place, [] => text.drop place
  | place, span :: rest =>
    (text.drop place).take (span.start - place) ++ span.mark ++ pieces text span.finish rest

/-- Spans in order are replaced from the last to the first without moving each other. -/
theorem foldr_replace (order : spans.Pairwise fun one other => one.finish < other.start)
    (filled : ∀ span ∈ spans, span.start < span.finish) (within : Within text.length spans)
    {place : Nat} (behind : ∀ span ∈ spans, place ≤ span.start) :
    spans.foldr (fun span left => replace left span) text =
      text.take place ++ pieces text place spans := by
  induction spans generalizing place with
  | nil => exact (List.take_append_drop place text).symm
  | cons span rest ih =>
    have next := List.pairwise_cons.mp order
    have inside := within span List.mem_cons_self
    have from' : place ≤ span.start := behind span List.mem_cons_self
    have others := ih next.2 (fun one known => filled one (List.mem_cons_of_mem _ known))
      (fun one known => within one (List.mem_cons_of_mem _ known))
      (fun one known => (next.1 one known).le)
    have long : (text.take span.finish).length = span.finish :=
      List.length_take_of_le inside.2
    have head : (text.take span.finish ++ pieces text span.finish rest).take span.start =
        text.take place ++ (text.drop place).take (span.start - place) := by
      rw [List.take_append_of_le_length (by omega), List.take_take, min_eq_left inside.1,
        ← List.take_append_drop place (text.take span.start), List.take_take, min_eq_left from',
        List.drop_take]
    have tail : (text.take span.finish ++ pieces text span.finish rest).drop span.finish =
        pieces text span.finish rest := List.drop_left' long
    rw [List.foldr_cons, others]
    unfold replace
    rw [head, tail]
    simp only [pieces, List.append_assoc]

/-- What is left of a list whose spans are in order. -/
theorem render_eq_pieces {cover : Nat → Bool} {mark : Nat → List α}
    (order : spans.Pairwise fun one other => one.finish < other.start)
    (filled : ∀ span ∈ spans, span.start < span.finish) (within : Within text.length spans)
    {place : Nat} (reached : place ≤ text.length)
    (behind : place = 0 ∨ ∀ span ∈ spans, place < span.start)
    (covers : ∀ other, place ≤ other → cover other = covered spans other)
    (marks : ∀ span ∈ spans, mark span.start = span.mark) :
    render cover mark place (text.drop place) = pieces text place spans := by
  induction spans generalizing place with
  | nil =>
    have all := @render_append_of_uncovered α cover mark (text.drop place) [] place
      (fun other after _ => covers other after)
    rw [List.append_nil] at all
    rw [all, render, List.append_nil]
    rfl
  | cons span rest ih =>
    have next := List.pairwise_cons.mp order
    have inside := within span List.mem_cons_self
    have some' := filled span List.mem_cons_self
    have from' : place ≤ span.start := by
      rcases behind with zero | after
      · omega
      · exact (after span List.mem_cons_self).le
    let first := (text.drop place).take (span.start - place)
    let run := (text.drop span.start).take (span.finish - span.start)
    have firstLength : first.length = span.start - place := by
      simp only [first, List.length_take, List.length_drop]
      omega
    have runLength : run.length = span.finish - span.start := by
      simp only [run, List.length_take, List.length_drop]
      omega
    have split : text.drop place = first ++ (run ++ text.drop span.finish) := by
      have one : text.drop place = first ++ (text.drop place).drop (span.start - place) :=
        (List.take_append_drop _ _).symm
      have two : text.drop span.start = run ++ (text.drop span.start).drop
          (span.finish - span.start) := (List.take_append_drop _ _).symm
      rw [List.drop_drop, show place + (span.start - place) = span.start by omega, two,
        List.drop_drop, show span.start + (span.finish - span.start) = span.finish by omega] at one
      exact one
    have alone : ∀ other, place ≤ other → other < span.finish →
        cover other = decide (span.Covers other) := by
      intro other after before
      rw [covers other after]
      have free : covered rest other = false := by
        unfold covered
        rw [List.any_eq_false]
        intro one known covering
        have gap := next.1 one known
        have cov := of_decide_eq_true covering
        have low : one.start ≤ other := cov.1
        omega
      unfold covered at free ⊢
      rw [List.any_cons, free, Bool.or_false]
    have free : ∀ other, place ≤ other → other < place + first.length → cover other = false := by
      intro other after before
      rw [alone other after (by omega), decide_eq_false_iff_not]
      rintro ⟨low, -⟩
      omega
    have full : ∀ other, span.start ≤ other → other < span.start + run.length →
        cover other = true := by
      intro other after before
      rw [alone other (by omega) (by omega), decide_eq_true_iff]
      exact ⟨after, by omega⟩
    have start : opens cover span.start = true := by
      have here : cover span.start = true := full span.start le_rfl (by omega)
      unfold opens
      rw [here, Bool.true_and, Bool.or_eq_true]
      by_cases zero : span.start = 0
      · exact Or.inl (by simp [zero])
      · have before : cover (span.start - 1) = false := by
          have low : place ≤ span.start - 1 := by
            rcases behind with is | after
            · omega
            · have gap := after span List.mem_cons_self
              omega
          rw [alone _ low (by omega), decide_eq_false_iff_not]
          rintro ⟨high, -⟩
          omega
        exact Or.inr (by simp [before])
    have runFilled : run ≠ [] := by
      intro empty
      rw [empty] at runLength
      simp only [List.length_nil] at runLength
      omega
    have later := ih next.2 (fun one known => filled one (List.mem_cons_of_mem _ known))
      (fun one known => within one (List.mem_cons_of_mem _ known)) inside.2
      (Or.inr next.1) (fun other after => by
        rw [covers other (by omega)]
        have out : decide (span.Covers other) = false := by
          rw [decide_eq_false_iff_not]
          rintro ⟨-, high⟩
          omega
        unfold covered
        rw [List.any_cons, out, Bool.false_or])
      (fun one known => marks one (List.mem_cons_of_mem _ known))
    rw [split, render_append_of_uncovered first _ place free,
      show place + first.length = span.start by omega,
      render_run run _ span.start runFilled start full,
      show span.start + run.length = span.finish by omega, later,
      marks span List.mem_cons_self]
    simp only [pieces, List.append_assoc]
    rfl

/-- Which places are covered does not depend on the order of the spans. -/
theorem covered_perm {other : List (Stretch α)} (same : spans.Perm other) :
    covered spans = covered other := funext fun _ => same.any_eq

/-- Spans that keep apart, replaced from the last to the first, leave one mark each. -/
theorem foldl_replace_of_separated {mark : Nat → List α}
    (sorted : spans.Pairwise fun one other => other.start ≤ one.start)
    (separated : Separated spans) (within : Within text.length spans)
    (marks : ∀ span ∈ spans, mark span.start = span.mark) :
    spans.foldl replace text = render (covered spans) mark 0 text := by
  have order : spans.reverse.Pairwise fun one other => one.finish < other.start := by
    rw [List.pairwise_reverse]
    apply (sorted.and separated.2).imp_of_mem
    rintro one other first second ⟨descending, gap | gap⟩
    · have low := separated.1 one first
      omega
    · exact gap
  have known : ∀ {span}, span ∈ spans.reverse → span ∈ spans := List.mem_reverse.mp
  have replaced := @foldr_replace α spans.reverse text order
    (fun span inside => separated.1 span (known inside))
    (fun span inside => within span (known inside)) 0 (fun _ _ => Nat.zero_le _)
  have rendered := @render_eq_pieces α spans.reverse text (covered spans) mark order
    (fun span inside => separated.1 span (known inside))
    (fun span inside => within span (known inside)) 0 (Nat.zero_le _) (Or.inl rfl)
    (fun other _ => congrFun (covered_perm spans.reverse_perm.symm) other)
    (fun span inside => marks span (known inside))
  rw [List.foldr_reverse] at replaced
  rw [List.drop_zero] at rendered
  rw [replaced, rendered, List.take_zero, List.nil_append]

/-- The length of a list with spans replaced, when all marks have one length that no span exceeds. -/
theorem length_foldl_replace {length : Nat} (within : Within text.length spans)
    (marks : ∀ span ∈ spans, span.mark.length = length ∧ span.finish ≤ span.start + length) :
    (spans.foldl replace text).length + (spans.map fun span => span.finish - span.start).sum =
      text.length + spans.length * length := by
  induction spans generalizing text with
  | nil => simp
  | cons span rest ih =>
    have inside := within span List.mem_cons_self
    have one := marks span List.mem_cons_self
    have grown : (replace text span).length + (span.finish - span.start) = text.length + length := by
      simp only [replace, List.length_append, List.length_take, List.length_drop, one.1]
      omega
    have next := @ih (replace text span)
      (fun other known => ⟨(within other (List.mem_cons_of_mem _ known)).1, by
        have fits := (within other (List.mem_cons_of_mem _ known)).2
        omega⟩)
      (fun other known => marks other (List.mem_cons_of_mem _ known))
    rw [List.foldl_cons, List.map_cons, List.sum_cons, List.length_cons, Nat.add_mul, Nat.one_mul]
    omega

/-- A run starts where a span does. -/
theorem start_of_opens {place : Nat} (start : opens (covered spans) place = true) :
    ∃ span ∈ spans, span.start = place := by
  unfold opens at start
  rw [Bool.and_eq_true, Bool.or_eq_true] at start
  obtain ⟨here, first⟩ := start
  unfold covered at here
  rw [List.any_eq_true] at here
  obtain ⟨span, known, covers⟩ := here
  obtain ⟨low, high⟩ := of_decide_eq_true covers
  refine ⟨span, known, ?_⟩
  by_contra apart
  have before : covered spans (place - 1) = true := by
    unfold covered
    rw [List.any_eq_true]
    exact ⟨span, known, decide_eq_true ⟨by omega, by omega⟩⟩
  rcases first with zero | free
  · have is := of_decide_eq_true zero
    omega
  · rw [before] at free
    cases free

/-- Spans that keep apart have starts of their own. -/
theorem Separated.eq_of_start (separated : Separated spans) {one other : Stretch α}
    (first : one ∈ spans) (second : other ∈ spans) (level : one.start = other.start) :
    one = other := by
  by_contra different
  have apart : Apart one other := separated.2.forall first second different
  have filled := separated.1 one first
  have otherFilled := separated.1 other second
  unfold Apart at apart
  omega

/-- So there is a mark for each of their starts. -/
theorem Separated.exists_marks (separated : Separated spans) :
    ∃ mark : Nat → List α, ∀ span ∈ spans, mark span.start = span.mark := by
  refine ⟨fun place =>
    ((spans.find? fun span => decide (span.start = place)).map mark).getD [], ?_⟩
  intro span known
  dsimp only
  cases found : spans.find? fun one => decide (one.start = span.start) with
  | none =>
    rw [List.find?_eq_none] at found
    exact absurd (decide_eq_true rfl) (found span known)
  | some one =>
    have holds := List.find?_some found
    have level : one.start = span.start := of_decide_eq_true holds
    rw [separated.eq_of_start (List.mem_of_find?_eq_some found) known level]
    rfl

/-- When there are as many runs as spans, the spans keep apart. -/
theorem separated_of_length_le {size : Nat}
    (many : spans.length ≤ ((List.range size).filter (opens (covered spans))).length) :
    Separated spans := by
  let runs := (List.range size).filter (opens (covered spans))
  let starts := spans.map Stretch.start
  have distinct : runs.Nodup := List.nodup_range.filter _
  have sub : runs ⊆ starts := by
    intro place inside
    obtain ⟨span, known, is⟩ := start_of_opens (List.mem_filter.mp inside).2
    exact List.mem_map.mpr ⟨span, known, is⟩
  have same : runs.Perm starts := by
    apply (distinct.subperm sub).perm_of_length_le
    simpa [starts] using many
  have all : ∀ span ∈ spans, opens (covered spans) span.start = true := by
    intro span known
    have inside : span.start ∈ runs := same.mem_iff.mpr (List.mem_map.mpr ⟨span, known, rfl⟩)
    exact (List.mem_filter.mp inside).2
  have nodup : starts.Nodup := same.nodup_iff.mp distinct
  have distinctStarts : spans.Pairwise fun one other => one.start ≠ other.start :=
    List.pairwise_map.mp nodup
  -- A span that starts before another does not reach the place before the other.
  have ends : ∀ one ∈ spans, ∀ other ∈ spans, one.start < other.start →
      one.finish < other.start := by
    intro one first other second earlier
    by_contra reaches
    have start := all other second
    unfold opens at start
    rw [Bool.and_eq_true, Bool.or_eq_true] at start
    have before : covered spans (other.start - 1) = true := by
      unfold covered
      rw [List.any_eq_true]
      exact ⟨one, first, decide_eq_true ⟨by omega, by omega⟩⟩
    rcases start.2 with zero | free
    · have is := of_decide_eq_true zero
      omega
    · rw [before] at free
      cases free
  constructor
  · intro span known
    have start := all span known
    unfold opens at start
    rw [Bool.and_eq_true] at start
    have here := start.1
    unfold covered at here
    rw [List.any_eq_true] at here
    obtain ⟨other, member, covers⟩ := here
    obtain ⟨low, high⟩ := of_decide_eq_true covers
    have level : other.start = span.start := by
      by_contra different
      have gap := ends other member span known (by omega)
      omega
    rw [List.inj_on_of_nodup_map nodup member known level] at high
    exact high
  · apply distinctStarts.imp_of_mem
    intro one other first second different
    rcases Nat.lt_or_gt_of_ne different with earlier | later
    · exact Or.inl (ends one first other second earlier)
    · exact Or.inr (ends other second one first later)

end Replacing

end Stretch

end VelaFlow
