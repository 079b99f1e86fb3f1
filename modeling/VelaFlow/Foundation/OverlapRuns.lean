import Mathlib.Data.List.Chain
import Mathlib.Data.List.Induction
import Mathlib.Data.List.Infix

/-!
# Overlapping runs

A list is cut into runs of neighbours. Each run after the first may repeat the end of the run
before it, and then adds items that no run before it has. The greedy packer grows the last run
until a test finds it full; when the next run opens, a rule says which items it repeats.
-/
namespace VelaFlow

/-- A run of neighbours in a list. -/
structure OverlapRun (α : Type) where
  /-- What it repeats of the run before it. -/
  repeated : List α
  /-- What it adds. -/
  added : List α
  deriving DecidableEq

namespace OverlapRun

variable {α : Type}

/-- The items of a run. -/
def whole (run : OverlapRun α) : List α := run.repeated ++ run.added

/-- A run before anything was read. -/
def empty : OverlapRun α := ⟨[], []⟩

/-- A run with one more item. -/
def add (run : OverlapRun α) (item : α) : OverlapRun α :=
  { run with added := run.added ++ [item] }

/-- The items of a run with one more. -/
@[simp] theorem whole_add (run : OverlapRun α) (item : α) :
    (run.add item).whole = run.whole ++ [item] :=
  (List.append_assoc _ _ _).symm

/-- Only the empty run has no items. -/
theorem eq_empty {run : OverlapRun α} (nothing : run.whole = []) : run = empty := by
  obtain ⟨repeated, added⟩ := run
  have both := List.append_eq_nil_iff.mp nothing
  rw [show repeated = [] from both.1, show added = [] from both.2]
  rfl

/-- A run repeats an end of the one before it and adds to it. -/
structure Follows (previous next : OverlapRun α) : Prop where
  /-- The repeated items end the run before. -/
  repeats : next.repeated <:+ previous.whole
  /-- Something is added. -/
  adds : next.added ≠ []

/-- The runs cover a list: each follows the one before it, the first an empty one, and what they
add is the list. -/
structure Covers (items : List α) (runs : List (OverlapRun α)) : Prop where
  /-- Each run follows the one before it. -/
  follows : (empty :: runs).IsChain Follows
  /-- What is added is every item once, in order. -/
  once : runs.flatMap added = items

namespace Covers

variable {items : List α} {runs : List (OverlapRun α)} {last : OverlapRun α}

/-- A run that follows the last one covers what it adds. -/
theorem concat (covers : Covers items (runs ++ [last])) {next : OverlapRun α}
    (follows : Follows last next) : Covers (items ++ next.added) (runs ++ [last] ++ [next]) where
  follows := by
    rw [← List.cons_append]
    refine List.isChain_append.mpr ⟨covers.follows, List.isChain_singleton next, ?_⟩
    intro before isLast after isNext
    have ends : (empty :: (runs ++ [last])).getLast? = some last := by
      rw [← List.cons_append, List.getLast?_concat]
    obtain rfl := Option.some.inj (ends.symm.trans isLast)
    obtain rfl := Option.some.inj isNext
    exact follows
  once := by rw [List.flatMap_append, covers.once, List.flatMap_singleton]

/-- The runs before the last cover what it does not add. -/
theorem init (covers : Covers items (runs ++ [last])) : Covers (runs.flatMap added) runs where
  follows := by
    have chain := covers.follows
    rw [← List.cons_append] at chain
    exact chain.left_of_append
  once := rfl

/-- The last run follows the one before it. -/
theorem last_follows (covers : Covers items (runs ++ [last])) {before : OverlapRun α}
    (isBefore : before ∈ (empty :: runs).getLast?) : Follows before last := by
  have chain := covers.follows
  rw [← List.cons_append] at chain
  exact (List.isChain_append.mp chain).2.2 before isBefore last rfl

/-- The last run may grow. -/
theorem grow (covers : Covers items (runs ++ [last])) (item : α) :
    Covers (items ++ [item]) (runs ++ [last.add item]) where
  follows := by
    rw [← List.cons_append]
    refine List.isChain_append.mpr ⟨covers.init.follows, List.isChain_singleton _, ?_⟩
    intro before isLast after isNext
    obtain rfl := Option.some.inj isNext
    have repeats := (covers.last_follows isLast).repeats
    exact ⟨repeats, List.append_ne_nil_of_right_ne_nil _ (List.cons_ne_nil item [])⟩
  once := by
    rw [← covers.once, List.flatMap_append, List.flatMap_append, List.flatMap_singleton,
      List.flatMap_singleton, List.append_assoc]
    rfl

/-- A list of one item is covered by a run of it. -/
theorem singleton (item : α) : Covers [item] [empty.add item] where
  follows := by
    refine List.isChain_pair.mpr ⟨List.suffix_rfl, ?_⟩
    exact List.cons_ne_nil item []
  once := rfl

/-- The last run ends the list. -/
theorem last_suffix (covers : Covers items (runs ++ [last])) : last.whole <:+ items := by
  induction runs using List.reverseRecOn generalizing items last with
  | nil =>
    have nothing : last.repeated = [] := List.suffix_nil.mp (covers.last_follows rfl).repeats
    have all : last.added = items := by simpa using covers.once
    unfold whole
    rw [nothing, all]
    exact List.suffix_rfl
  | append_singleton earlier previous ih =>
    have isBefore : previous ∈ (empty :: (earlier ++ [previous])).getLast? := by
      rw [← List.cons_append, List.getLast?_concat]
      rfl
    have repeats := (covers.last_follows isBefore).repeats
    obtain ⟨start, joined⟩ := repeats.trans (ih covers.init)
    have whole_once := covers.once
    rw [List.flatMap_append, List.flatMap_singleton, ← joined, List.append_assoc] at whole_once
    exact ⟨start, whole_once⟩

/-- Every run is made of neighbours in the list. -/
theorem infix_of_mem (covers : Covers items runs) {run : OverlapRun α} (member : run ∈ runs) :
    run.whole <:+: items := by
  induction runs using List.reverseRecOn generalizing items with
  | nil => cases member
  | append_singleton earlier last ih =>
    rcases List.mem_append.mp member with inside | isLast
    · have before := ih covers.init inside
      rw [← covers.once, List.flatMap_append]
      exact before.trans (List.prefix_append _ _).isInfix
    · obtain rfl := List.mem_singleton.mp isLast
      exact covers.last_suffix.isInfix

/-- The first run starts the list. -/
theorem first_prefix {first : OverlapRun α} {rest : List (OverlapRun α)}
    (covers : Covers items (first :: rest)) : first.whole <+: items := by
  have follows := (List.isChain_cons_cons.mp covers.follows).1
  have nothing : first.repeated = [] := List.suffix_nil.mp follows.repeats
  unfold whole
  rw [nothing, ← covers.once, List.flatMap_cons]
  exact List.prefix_append _ _

/-- Every run adds something. -/
theorem added_ne_nil (covers : Covers items runs) {run : OverlapRun α} (member : run ∈ runs) :
    run.added ≠ [] := by
  induction runs using List.reverseRecOn generalizing items with
  | nil => cases member
  | append_singleton earlier last ih =>
    rcases List.mem_append.mp member with inside | isLast
    · exact ih covers.init inside
    · obtain rfl := List.mem_singleton.mp isLast
      have isBefore := List.getLast?_eq_some_getLast (List.cons_ne_nil empty earlier)
      exact (covers.last_follows isBefore).adds

/-- There are at most as many runs as items. -/
theorem length_le (covers : Covers items runs) : runs.length ≤ items.length := by
  induction runs using List.reverseRecOn generalizing items with
  | nil => exact Nat.zero_le _
  | append_singleton earlier last ih =>
    have before := ih covers.init
    have some : 0 < last.added.length :=
      List.length_pos_iff.mpr (covers.added_ne_nil (List.mem_append_right _ List.mem_cons_self))
    rw [← covers.once, List.flatMap_append, List.flatMap_singleton, List.length_append,
      List.length_append, List.length_singleton]
    omega

end Covers

/-- The runs a packer has finished, and the one it packs. -/
structure Packed (α : Type) where
  /-- The finished runs. -/
  done : List (OverlapRun α)
  /-- The run that grows. -/
  current : OverlapRun α

section Packing

variable (full : OverlapRun α → α → Bool) (keep : List α → List α)

/-- One item is packed: it opens a run when the one that grows has no room for it. -/
def packNext (packed : Packed α) (item : α) : Packed α :=
  if full packed.current item ∧ packed.current.whole ≠ [] then
    ⟨packed.done ++ [packed.current], ⟨keep packed.current.whole, [item]⟩⟩
  else ⟨packed.done, packed.current.add item⟩

/-- A list is packed from its start. -/
def pack (items : List α) : Packed α := items.foldl (packNext full keep) ⟨[], empty⟩

/-- The runs, the last one with them. -/
def Packed.runs (packed : Packed α) : List (OverlapRun α) := packed.done ++ [packed.current]

/-- A list with one more item is packed by one more step. -/
theorem pack_concat (items : List α) (item : α) :
    pack full keep (items ++ [item]) = packNext full keep (pack full keep items) item :=
  List.foldl_concat _ _ _ _

variable {full keep}

/-- The runs of a packed list cover it, when only an end of a run is repeated. -/
theorem covers_pack (keeps : ∀ items, keep items <:+ items) {items : List α} (some : items ≠ []) :
    Covers items (pack full keep items).runs := by
  induction items using List.reverseRecOn with
  | nil => exact absurd rfl some
  | append_singleton earlier item ih =>
    rw [pack_concat]
    by_cases first : earlier = []
    · subst first
      have opened : packNext full keep (pack full keep []) item = ⟨[], empty.add item⟩ :=
        if_neg fun opens => opens.2 rfl
      rw [opened]
      exact Covers.singleton item
    · have covers := ih first
      unfold packNext
      split
      · have follows : Follows (pack full keep earlier).current
            ⟨keep (pack full keep earlier).current.whole, [item]⟩ :=
          ⟨keeps _, List.cons_ne_nil item []⟩
        exact covers.concat follows
      · exact covers.grow item

variable {holds : OverlapRun α → Prop}

/-- What a run that grows never regains holds of all runs after a step exactly when it held of
those before it and holds of the run that grows. -/
theorem forall_runs_packNext_iff (grown : ∀ run item, holds (run.add item) → holds run)
    (packed : Packed α) (item : α) :
    (∀ run ∈ (packNext full keep packed item).runs, holds run) ↔
      (∀ run ∈ packed.runs, holds run) ∧ holds (packNext full keep packed item).current := by
  unfold packNext Packed.runs
  split
  · exact List.forall_mem_append.trans (and_congr_right fun _ => List.forall_mem_singleton)
  · rw [List.forall_mem_append, List.forall_mem_append, List.forall_mem_singleton,
      List.forall_mem_singleton]
    constructor
    · intro ⟨finished, grows⟩
      exact ⟨⟨finished, grown _ item grows⟩, grows⟩
    · intro ⟨⟨finished, _⟩, grows⟩
      exact ⟨finished, grows⟩

/-- What a run that grows never regains holds of every run exactly when it holds of the run that
grows after each item. -/
theorem forall_runs_iff (grown : ∀ run item, holds (run.add item) → holds run)
    (start : holds empty) (items : List α) :
    (∀ run ∈ (pack full keep items).runs, holds run) ↔
      ∀ before item, before ++ [item] <+: items →
        holds (packNext full keep (pack full keep before) item).current := by
  induction items using List.reverseRecOn with
  | nil =>
    constructor
    · intro _ before item isPrefix
      exact absurd (List.prefix_nil.mp isPrefix) (List.append_ne_nil_of_right_ne_nil _
        (List.cons_ne_nil item []))
    · intro _ run member
      rw [List.mem_singleton.mp member]
      exact start
  | append_singleton earlier last ih =>
    rw [pack_concat, forall_runs_packNext_iff grown, ih]
    constructor
    · intro ⟨each, grows⟩ before item isPrefix
      rcases List.prefix_concat_iff.mp isPrefix with whole | inside
      · obtain ⟨rfl, same⟩ := List.append_inj' whole rfl
        obtain rfl := List.singleton_inj.mp same
        exact grows
      · exact each before item inside
    · intro each
      refine ⟨fun before item inside => each before item ?_, each earlier last List.prefix_rfl⟩
      exact inside.trans (List.prefix_append _ _)

end Packing

end OverlapRun

end VelaFlow
