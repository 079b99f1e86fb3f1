import Mathlib.Data.List.Nodup
import Mathlib.Data.List.Pairwise
import Mathlib.Order.Lattice

/-!
# Key-value maps

What a store is for. It holds a value under each of some keys; a value is put under a key or taken
away again, and the keys of a kind are listed in their order. Where the names of ordered items are
listed, this is the listing of the names exactly when none is repeated, they are the right ones, and
their order is that of the items.
-/
namespace VelaFlow

/-- A map from keys to values. -/
abbrev KeyMap (κ ν : Type) : Type := κ → Option ν

namespace KeyMap

variable {κ ν ι : Type}

/-- A map without keys. -/
def empty : KeyMap κ ν := fun _ => none

section Updates

variable [DecidableEq κ]

/-- The map with a value under a key. -/
def put (map : KeyMap κ ν) (key : κ) (value : ν) : KeyMap κ ν := fun other =>
  if other = key then some value else map other

/-- The map without a key. -/
def erase (map : KeyMap κ ν) (key : κ) : KeyMap κ ν := fun other =>
  if other = key then none else map other

end Updates

variable [LinearOrder κ]

/-- A list holds the selected keys of a map in their order. -/
structure Lists (map : KeyMap κ ν) (selected : κ → Prop) (keys : List κ) : Prop where
  /-- The keys are in order, and none is repeated. -/
  ordered : keys.Pairwise (· < ·)
  /-- They are the selected ones that have a value. -/
  complete : ∀ key, key ∈ keys ↔ (map key).isSome = true ∧ selected key

/-- Items of an order have names that increase exactly when no name is repeated and items whose
names are ordered are ordered too. -/
theorem pairwise_lt_map_iff {le : ι → ι → Prop} (antisymm : ∀ one other, le one other → le other one →
    one = other) {name : ι → κ} {items : List ι} (ordered : items.Pairwise le) :
    (items.map name).Pairwise (· < ·) ↔ (items.map name).Nodup ∧
      ∀ one ∈ items, ∀ other ∈ items, name one < name other → le one other := by
  rw [List.pairwise_map, List.Nodup, List.pairwise_map]
  constructor
  · intro increasing
    refine ⟨increasing.imp fun less => ne_of_lt less, ?_⟩
    let level := fun one other =>
      (name one < name other → le one other) ∧ (name other < name one → le other one)
    have symmetric : Std.Symm level := ⟨fun _ _ each => each.symm⟩
    have both : items.Pairwise level := (increasing.and ordered).imp fun each =>
      ⟨fun _ => each.2, fun more => absurd each.1 (lt_asymm more)⟩
    have own : ∀ one ∈ items, level one one := fun one _ =>
      ⟨fun less => absurd less (lt_irrefl _), fun less => absurd less (lt_irrefl _)⟩
    have all := List.Pairwise.forall_of_forall own both
    exact fun one first other second => (all first second).1
  · rintro ⟨distinct, same⟩
    rw [List.pairwise_iff_forall_sublist] at distinct ordered ⊢
    intro one other inside
    have first : one ∈ items := inside.subset (by simp)
    have second : other ∈ items := inside.subset (by simp)
    rcases lt_or_gt_of_ne (distinct inside) with less | more
    · exact less
    · have level := antisymm one other (ordered inside) (same other second one first more)
      exact absurd (congrArg name level) (distinct inside)

/-- The names of ordered items are a listing exactly when none is repeated, they are those of the
selected keys, and items whose names are ordered are ordered too. -/
theorem lists_map_iff {map : KeyMap κ ν} {selected : κ → Prop} {le : ι → ι → Prop}
    (antisymm : ∀ one other, le one other → le other one → one = other) {name : ι → κ}
    {items : List ι} (ordered : items.Pairwise le) :
    map.Lists selected (items.map name) ↔ (items.map name).Nodup ∧
      (∀ key, key ∈ items.map name ↔ (map key).isSome = true ∧ selected key) ∧
      ∀ one ∈ items, ∀ other ∈ items, name one < name other → le one other := by
  constructor
  · intro listed
    have parts := (pairwise_lt_map_iff antisymm ordered).mp listed.ordered
    exact ⟨parts.1, listed.complete, parts.2⟩
  · rintro ⟨distinct, complete, same⟩
    exact ⟨(pairwise_lt_map_iff antisymm ordered).mpr ⟨distinct, same⟩, complete⟩

end KeyMap

/-- In a list without two elements of one key, an element is found by its key. -/
theorem find?_key_iff {α κ : Type} [DecidableEq κ] {key : α → κ} {items : List α}
    (distinct : (items.map key).Nodup) {one : κ} {item : α} :
    (items.find? fun other => decide (key other = one)) = some item ↔
      item ∈ items ∧ key item = one := by
  constructor
  · intro found
    have selected := List.find?_some found
    exact ⟨List.mem_of_find?_eq_some found, of_decide_eq_true selected⟩
  · rintro ⟨inside, is⟩
    cases found : items.find? fun other => decide (key other = one) with
    | none =>
      have never := List.find?_eq_none.mp found item inside
      exact absurd (decide_eq_true is) never
    | some other =>
      have selected := List.find?_some found
      have among := List.mem_of_find?_eq_some found
      have same : key other = key item := (of_decide_eq_true selected).trans is.symm
      rw [List.inj_on_of_nodup_map distinct among inside same]

section Lookup

variable {κ ν : Type} [BEq κ] [LawfulBEq κ] {entries : List (κ × ν)} {key : κ}

/-- What is looked up is there. -/
theorem mem_of_lookup {value : ν} (found : entries.lookup key = some value) :
    (key, value) ∈ entries := by
  obtain ⟨before, after, rfl, -⟩ := List.lookup_eq_some_iff.mp found
  exact List.mem_append_right before List.mem_cons_self

/-- A key that is looked up in vain is not there. -/
theorem not_mem_of_lookup (missing : entries.lookup key = none) : key ∉ entries.map Prod.fst := by
  intro member
  obtain ⟨known, inside, rfl⟩ := List.mem_map.mp member
  have apart := List.lookup_eq_none_iff.mp missing known inside
  rw [bne_self_eq_false] at apart
  cases apart

/-- Where each key is there once, an entry is what is found under its key. -/
theorem lookup_of_mem (distinct : (entries.map Prod.fst).Nodup) {entry : κ × ν}
    (member : entry ∈ entries) : entries.lookup entry.1 = some entry.2 := by
  induction entries with
  | nil => cases member
  | cons first rest ih =>
    rcases first with ⟨key, value⟩
    rw [List.map_cons, List.nodup_cons] at distinct
    rcases List.mem_cons.mp member with rfl | later
    · exact List.lookup_cons_self
    · have apart : entry.1 ≠ key :=
        fun same => distinct.1 (List.mem_map.mpr ⟨entry, later, same⟩)
      rw [List.lookup_cons, beq_false_of_ne apart]
      exact ih distinct.2 later

end Lookup

section Assign

variable {κ ν : Type} [DecidableEq κ]

/-- `d[key] = value` in entries: the value of a key is replaced in place, a new key is appended. -/
def assign : List (κ × ν) → κ → ν → List (κ × ν)
  | [], key, value => [(key, value)]
  | (other, old) :: rest, key, value =>
    if other = key then (key, value) :: rest else (other, old) :: assign rest key value

/-- What is assigned is found, and other keys keep their values. -/
theorem lookup_assign (entries : List (κ × ν)) (key : κ) (value : ν) (other : κ) :
    (assign entries key value).lookup other =
      if other = key then some value else entries.lookup other := by
  induction entries with
  | nil =>
    by_cases same : other = key
    · rw [if_pos same, same]
      exact List.lookup_cons_self
    · rw [if_neg same]
      unfold assign
      rw [List.lookup_cons, beq_eq_false_iff_ne.mpr same]
  | cons entry rest ih =>
    obtain ⟨known, old⟩ := entry
    unfold assign
    by_cases is : known = key
    · rw [if_pos is]
      by_cases same : other = key
      · rw [if_pos same, same]
        exact List.lookup_cons_self
      · rw [if_neg same, List.lookup_cons, List.lookup_cons, is, beq_eq_false_iff_ne.mpr same]
    · rw [if_neg is, List.lookup_cons, List.lookup_cons, ih]
      by_cases same : other = known
      · subst same
        simp [is]
      · rw [beq_eq_false_iff_ne.mpr same]

/-- The keys after an assignment are those before it and the assigned one. -/
theorem mem_keys_assign {entries : List (κ × ν)} {key : κ} {value : ν} {other : κ} :
    other ∈ (assign entries key value).map Prod.fst ↔
      other = key ∨ other ∈ entries.map Prod.fst := by
  induction entries with
  | nil => simp [assign]
  | cons entry rest ih =>
    obtain ⟨known, old⟩ := entry
    unfold assign
    split
    case isTrue is =>
      subst is
      simp
    case isFalse apart =>
      rw [List.map_cons, List.mem_cons, ih, List.map_cons, List.mem_cons]
      exact or_left_comm

/-- An assignment repeats no key. -/
theorem nodup_assign {entries : List (κ × ν)} (distinct : (entries.map Prod.fst).Nodup) (key : κ)
    (value : ν) : ((assign entries key value).map Prod.fst).Nodup := by
  induction entries with
  | nil => exact List.nodup_singleton key
  | cons entry rest ih =>
    obtain ⟨known, old⟩ := entry
    rw [List.map_cons, List.nodup_cons] at distinct
    unfold assign
    split
    case isTrue is =>
      subst is
      exact List.nodup_cons.mpr distinct
    case isFalse apart =>
      rw [List.map_cons, List.nodup_cons, mem_keys_assign, not_or]
      exact ⟨⟨apart, distinct.1⟩, ih distinct.2⟩

/-- What an assignment leaves was there or is assigned. -/
theorem mem_assign {entries : List (κ × ν)} {key : κ} {value : ν} {entry : κ × ν}
    (member : entry ∈ assign entries key value) : entry = (key, value) ∨ entry ∈ entries := by
  induction entries with
  | nil => exact Or.inl (List.mem_singleton.mp member)
  | cons first rest ih =>
    obtain ⟨known, old⟩ := first
    unfold assign at member
    split at member
    case isTrue is =>
      rcases List.mem_cons.mp member with new | later
      · exact Or.inl new
      · exact Or.inr (List.mem_cons_of_mem _ later)
    case isFalse apart =>
      rcases List.mem_cons.mp member with same | later
      · exact Or.inr (same ▸ List.mem_cons_self)
      · exact (ih later).imp_right (List.mem_cons_of_mem _)

/-- Assignments of the values of a function are found under their keys. -/
theorem lookup_foldl_assign {value : κ → ν} {assigned : List (κ × ν)}
    (each : ∀ entry ∈ assigned, entry.2 = value entry.1) (entries : List (κ × ν)) (other : κ) :
    (assigned.foldl (fun entries entry => assign entries entry.1 entry.2) entries).lookup other =
      if other ∈ assigned.map Prod.fst then some (value other) else entries.lookup other := by
  induction assigned generalizing entries with
  | nil => exact (if_neg List.not_mem_nil).symm
  | cons entry rest ih =>
    have is := each entry List.mem_cons_self
    rw [List.foldl_cons, ih (fun later inside => each later (List.mem_cons_of_mem entry inside)),
      lookup_assign, List.map_cons]
    by_cases later : other ∈ rest.map Prod.fst
    · rw [if_pos later, if_pos (List.mem_cons_of_mem _ later)]
    · rw [if_neg later]
      by_cases same : other = entry.1
      · rw [if_pos same, same, is, if_pos List.mem_cons_self]
      · rw [if_neg same, if_neg fun inside => (List.mem_cons.mp inside).elim same later]

section Gather

variable {α : Type} (update : ν → α → ν) (empty : ν) (key : α → κ)

/-- `groups[key(item)]` changed by an item, in a dict whose missing keys hold an empty value. -/
def gatherOne (groups : List (κ × ν)) (item : α) : List (κ × ν) :=
  assign groups (key item) (update ((groups.lookup (key item)).getD empty) item)

/-- The groups that a list of items makes, item by item. -/
def gather (items : List α) : List (κ × ν) := items.foldl (gatherOne update empty key) []

/-- A group holds what its items made of it. -/
theorem lookup_foldl_gatherOne (items : List α) (groups : List (κ × ν)) (one : κ) :
    ((items.foldl (gatherOne update empty key) groups).lookup one).getD empty =
      (items.filter fun item => decide (key item = one)).foldl update
        ((groups.lookup one).getD empty) := by
  induction items generalizing groups with
  | nil => rfl
  | cons item rest ih =>
    rw [List.foldl_cons, ih, gatherOne, lookup_assign, List.filter_cons]
    by_cases same : key item = one
    · rw [if_pos same.symm, if_pos (decide_eq_true same), same]
      rfl
    · rw [if_neg fun is => same is.symm, if_neg (by rw [decide_eq_true_iff]; exact same)]

/-- What a list of items makes of a group. -/
theorem lookup_gather (items : List α) (one : κ) :
    ((gather update empty key items).lookup one).getD empty =
      (items.filter fun item => decide (key item = one)).foldl update empty :=
  lookup_foldl_gatherOne update empty key items [] one

/-- Each group has a key of its own, which is one that an item has or that was there. -/
theorem keys_foldl_gatherOne (items : List α) {groups : List (κ × ν)}
    (distinct : (groups.map Prod.fst).Nodup) :
    ((items.foldl (gatherOne update empty key) groups).map Prod.fst).Nodup ∧
      ∀ one, one ∈ (items.foldl (gatherOne update empty key) groups).map Prod.fst ↔
        one ∈ items.map key ∨ one ∈ groups.map Prod.fst := by
  induction items generalizing groups with
  | nil =>
    refine ⟨distinct, fun one => ?_⟩
    rw [List.map_nil, or_iff_right List.not_mem_nil]
    rfl
  | cons item rest ih =>
    have ⟨apart, keys⟩ := ih (nodup_assign distinct (key item)
      (update ((groups.lookup (key item)).getD empty) item))
    refine ⟨apart, fun one => (keys one).trans ?_⟩
    rw [mem_keys_assign, List.map_cons, List.mem_cons, ← or_assoc, @or_comm (one ∈ rest.map key)]

/-- The groups of a list have its keys, each once. -/
theorem keys_gather (items : List α) :
    ((gather update empty key items).map Prod.fst).Nodup ∧
      ∀ one, one ∈ (gather update empty key items).map Prod.fst ↔ one ∈ items.map key := by
  have ⟨apart, keys⟩ := @keys_foldl_gatherOne κ ν _ α update empty key items [] List.nodup_nil
  exact ⟨apart, fun one => (keys one).trans (or_iff_left List.not_mem_nil)⟩

/-- Items that are changed where neither their keys nor the groups look make the same groups. -/
theorem gather_map {change : α → α} (sameKey : ∀ item, key (change item) = key item)
    (sameUpdate : ∀ value item, update value (change item) = update value item) (items : List α) :
    gather update empty key (items.map change) = gather update empty key items := by
  have each : ∀ groups item, gatherOne update empty key groups (change item) =
      gatherOne update empty key groups item := by
    intro groups item
    rw [gatherOne, sameKey, sameUpdate, gatherOne]
  unfold gather
  rw [List.foldl_map]
  simp only [each]

/-- An entry is of the groups when its group is found under its key. -/
theorem mem_gather_iff (items : List α) (entry : κ × ν) :
    entry ∈ gather update empty key items ↔
      entry.1 ∈ items.map key ∧
        entry.2 = (items.filter fun item => decide (key item = entry.1)).foldl update empty := by
  have ⟨distinct, keys⟩ := keys_gather update empty key items
  have group := lookup_gather update empty key items entry.1
  constructor
  · intro inside
    have found := lookup_of_mem distinct inside
    rw [found] at group
    exact ⟨(keys entry.1).mp (List.mem_map_of_mem inside), group⟩
  · intro ⟨named, is⟩
    cases found : (gather update empty key items).lookup entry.1 with
    | none => exact absurd ((keys entry.1).mpr named) (not_mem_of_lookup found)
    | some held =>
      rw [found] at group
      have same : held = entry.2 := group.trans is.symm
      have inside := mem_of_lookup found
      rw [same] at inside
      exact inside

end Gather

end Assign

end VelaFlow
