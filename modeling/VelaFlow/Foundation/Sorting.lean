import Mathlib.Data.List.Sort
import Mathlib.Data.Prod.Lex

/-!
# Sorting by a key

What a stable sort by a key leaves of a list: the same elements, ordered by their keys, those of one
key in the order they had. Lists of the same elements are sorted to the same keys.
-/
namespace VelaFlow

variable {α κ : Type} [LinearOrder κ]

/-- `sorted(items, key=key)`. -/
def sortBy (key : α → κ) (items : List α) : List α :=
  items.mergeSort fun first second => decide (key first ≤ key second)

/-- A list holds the elements of another, ordered by a key, those of one key as the other has them. -/
structure StablySorted (key : α → κ) (items sorted : List α) : Prop where
  /-- The elements are the same. -/
  perm : sorted.Perm items
  /-- They are ordered by the key. -/
  ordered : sorted.Pairwise fun first second => key first ≤ key second
  /-- Elements of one key keep their order. -/
  stable : ∀ one, (sorted.filter fun item => decide (key item = one)) =
    items.filter fun item => decide (key item = one)

variable {key : α → κ}

/-- Keys are compared transitively. -/
theorem key_le_trans (first second third : α) (one : decide (key first ≤ key second) = true)
    (other : decide (key second ≤ key third) = true) : decide (key first ≤ key third) = true := by
  rw [decide_eq_true_iff] at one other ⊢
  exact one.trans other

/-- Any two keys are compared. -/
theorem key_le_total (first second : α) :
    (decide (key first ≤ key second) || decide (key second ≤ key first)) = true := by
  rw [Bool.or_eq_true, decide_eq_true_iff, decide_eq_true_iff]
  exact le_total (key first) (key second)

/-- Sorting by a key is stable. -/
theorem stablySorted_sortBy (key : α → κ) (items : List α) :
    StablySorted key items (sortBy key items) := by
  have perm : (sortBy key items).Perm items := List.mergeSort_perm _ _
  refine ⟨perm, ?_, fun one => ?_⟩
  · have ordered := List.pairwise_mergeSort (@key_le_trans _ _ _ key) key_le_total items
    exact ordered.imp fun level => of_decide_eq_true level
  · let level := fun item => decide (key item = one)
    have equal : (items.filter level).Pairwise fun first second =>
        decide (key first ≤ key second) = true := by
      apply List.pairwise_of_forall_mem_list
      intro first inside second among
      have here := of_decide_eq_true (List.mem_filter.mp inside).2
      have there := of_decide_eq_true (List.mem_filter.mp among).2
      rw [decide_eq_true_iff, here, there]
    have kept : (items.filter level).Sublist (sortBy key items) :=
      List.sublist_mergeSort (@key_le_trans _ _ _ key) key_le_total equal List.filter_sublist
    have inner : (items.filter level).Sublist ((sortBy key items).filter level) := by
      have again := kept.filter level
      rw [List.filter_filter] at again
      simpa using again
    have many := (perm.filter level).length_eq
    exact (inner.eq_of_length many.symm).symm

/-- Lists of the same elements are sorted to the same keys. -/
theorem map_sortBy_of_perm {items others : List α} (same : items.Perm others) :
    (sortBy key items).map key = (sortBy key others).map key := by
  have first := stablySorted_sortBy key items
  have second := stablySorted_sortBy key others
  have keys : ((sortBy key items).map key).Perm ((sortBy key others).map key) :=
    (first.perm.trans (same.trans second.perm.symm)).map key
  have ordered : ∀ {list : List α}, list.Pairwise (fun one other => key one ≤ key other) →
      (list.map key).Pairwise (· ≤ ·) := fun are => List.pairwise_map.mpr are
  exact keys.eq_of_pairwise' (ordered first.ordered) (ordered second.ordered)

/-- Lists ordered by a key are the same when they have the same elements of each key, in the same
order. -/
theorem eq_of_ordered {first second : List α}
    (one : first.Pairwise fun left right => key left ≤ key right)
    (other : second.Pairwise fun left right => key left ≤ key right)
    (same : ∀ level, (first.filter fun item => decide (key item = level)) =
      second.filter fun item => decide (key item = level)) : first = second := by
  induction first generalizing second with
  | nil =>
    cases second with
    | nil => rfl
    | cons head rest => simpa using same (key head)
  | cons head rest ih =>
    cases second with
    | nil => simpa using same (key head)
    | cons opening others =>
      have ⟨least, ordered⟩ := List.pairwise_cons.mp one
      have ⟨lowest, sorted⟩ := List.pairwise_cons.mp other
      have held : ∀ {level : κ} {item : α} {items : List α}, key item = level →
          item ∈ items → item ∈ items.filter fun item => decide (key item = level) :=
        fun is member => List.mem_filter.mpr ⟨member, decide_eq_true is⟩
      have below : key head ≤ key opening := by
        have inside := held rfl (List.mem_cons_self (a := opening) (l := others))
        rw [← same] at inside
        cases List.mem_cons.mp (List.mem_filter.mp inside).1 with
        | inl is => exact le_of_eq (congrArg key is.symm)
        | inr later => exact least opening later
      have above : key opening ≤ key head := by
        have inside := held rfl (List.mem_cons_self (a := head) (l := rest))
        rw [same] at inside
        cases List.mem_cons.mp (List.mem_filter.mp inside).1 with
        | inl is => exact le_of_eq (congrArg key is.symm)
        | inr later => exact lowest head later
      have level : key opening = key head := le_antisymm above below
      have heads : head = opening := by
        have filtered := same (key head)
        rw [List.filter_cons, if_pos (decide_eq_true rfl), List.filter_cons,
          if_pos (decide_eq_true level)] at filtered
        exact (List.cons.inj filtered).1
      subst heads
      refine congrArg (head :: ·) (ih ordered sorted fun level => ?_)
      have filtered := same level
      rw [List.filter_cons, List.filter_cons] at filtered
      split at filtered
      · exact (List.cons.inj filtered).2
      · exact filtered

section Groups

variable {ι : Type} [LinearOrder ι]

/-- A list whose parts are empty but for one key has the part of that key. -/
theorem flatMap_of_mem {β : Type} {keys : List κ} {part : κ → List β} {one : κ}
    (distinct : keys.Nodup) (member : one ∈ keys) (others : ∀ other ∈ keys, other ≠ one →
      part other = []) : keys.flatMap part = part one := by
  induction keys with
  | nil => exact absurd member List.not_mem_nil
  | cons first rest ih =>
    have ⟨fresh, apart⟩ := List.nodup_cons.mp distinct
    rw [List.flatMap_cons]
    by_cases is : first = one
    · have nothing : rest.flatMap part = [] := List.flatMap_eq_nil_iff.mpr fun other later =>
        others other (List.mem_cons_of_mem _ later) fun same => fresh (is ▸ same ▸ later)
      rw [nothing, List.append_nil, is]
    · rw [others first List.mem_cons_self is, List.nil_append]
      cases List.mem_cons.mp member with
      | inl same => exact absurd same.symm is
      | inr later =>
        exact ih apart later fun other inside => others other (List.mem_cons_of_mem _ inside)

/-- Grouping by a key, visiting the groups in order and sorting each by a second key is sorting by
both keys. -/
theorem flatMap_groups {inner : α → ι} {items : List α} {keys : List κ} (distinct : keys.Nodup)
    (present : ∀ item ∈ items, key item ∈ keys) :
    ((sortBy id keys).flatMap fun one =>
      sortBy inner (items.filter fun item => decide (key item = one))) =
      sortBy (fun item => toLex (key item, inner item)) items := by
  have whole := stablySorted_sortBy (fun item => toLex (key item, inner item)) items
  have groups := stablySorted_sortBy (@id κ) keys
  have group : ∀ one, StablySorted inner (items.filter fun item => decide (key item = one))
      (sortBy inner (items.filter fun item => decide (key item = one))) := fun one =>
    stablySorted_sortBy inner _
  have keyed : ∀ {one : κ} {item : α},
      item ∈ sortBy inner (items.filter fun item => decide (key item = one)) → key item = one := by
    intro one item inside
    exact of_decide_eq_true (List.mem_filter.mp ((group one).perm.mem_iff.mp inside)).2
  have apart : (sortBy id keys).Nodup := groups.perm.nodup_iff.mpr distinct
  refine @eq_of_ordered _ _ _ (fun item => toLex (key item, inner item)) _ _ ?ordered
    whole.ordered ?same
  case same =>
    intro level
    let chosen := fun item => decide (toLex (key item, inner item) = level)
    have keyOf : ∀ {item : α}, chosen item = true → key item = (ofLex level).1 := fun is =>
      congrArg Prod.fst (congrArg ofLex (of_decide_eq_true is))
    rw [whole.stable, List.filter_flatMap]
    show (sortBy id keys).flatMap (fun one => (sortBy inner _).filter chosen) = items.filter chosen
    by_cases known : (ofLex level).1 ∈ sortBy id keys
    · have narrow : ∀ {list : List α}, (∀ item ∈ list, key item = (ofLex level).1) →
          list.filter chosen = list.filter fun item => decide (inner item = (ofLex level).2) := by
        intro list same
        refine List.filter_congr fun item inside => decide_eq_decide.mpr ⟨fun is => ?_, fun is => ?_⟩
        · exact congrArg Prod.snd (congrArg ofLex is)
        · rw [same item inside, is]
          rfl
      have others : ∀ other ∈ sortBy id keys, other ≠ (ofLex level).1 →
          (sortBy inner (items.filter fun item => decide (key item = other))).filter chosen = [] :=
        fun other _ differs => List.filter_eq_nil_iff.mpr fun item inside is =>
          differs ((keyed inside).symm.trans (keyOf is))
      rw [flatMap_of_mem apart known others, narrow fun item inside => keyed inside,
        (group _).stable, ← narrow fun item inside => of_decide_eq_true (List.mem_filter.mp inside).2,
        List.filter_filter]
      refine List.filter_congr fun item _ => ?_
      cases is : chosen item with
      | false => rfl
      | true => rw [Bool.true_and, decide_eq_true (keyOf is)]
    · have none : items.filter chosen = [] := List.filter_eq_nil_iff.mpr fun item inside is =>
        known (groups.perm.mem_iff.mpr (keyOf is ▸ present item inside))
      rw [none, List.flatMap_eq_nil_iff]
      exact fun other member => List.filter_eq_nil_iff.mpr fun item inside is =>
        known (((keyed inside).symm.trans (keyOf is)) ▸ member)
  case ordered =>
    rw [List.pairwise_flatMap]
    constructor
    · intro one _
      refine List.Pairwise.imp_of_mem (fun {left right} before after ordered => ?_)
        (group one).ordered
      rw [Prod.Lex.le_iff]
      exact .inr ⟨(keyed before).trans (keyed after).symm, ordered⟩
    · have increasing : (sortBy id keys).Pairwise (· < ·) :=
        (groups.ordered.and apart).imp fun ⟨ordered, differ⟩ => lt_of_le_of_ne ordered differ
      refine increasing.imp fun {one other} before left inLeft right inRight => ?_
      rw [Prod.Lex.le_iff]
      refine .inl ?_
      show key left < key right
      rw [keyed inLeft, keyed inRight]
      exact before

end Groups

end VelaFlow
