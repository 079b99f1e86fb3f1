import Mathlib.Data.List.Sort
import VelaFlow.Foundation.JsonText

/-!
# JSON documents as text

`json.loads` of a whole text, with dictionaries that keep the last value of a repeated key, and
`json.dumps` with or without `sort_keys`. Two dictionaries have the same sorted text exactly when
they are the same up to the order of their keys.
-/
namespace VelaFlow

/-- `dict(pairs)`: a repeated key keeps its first place and its last value. -/
def Dict.ofPairs (pairs : List (String × Json)) : Dict :=
  pairs.foldl (fun dict pair => dict.set pair.1 pair.2) []

/-- `{k: v for k, v in d.items() if k != key}`. -/
def Dict.erase (dict : Dict) (key : String) : Dict := dict.filter fun pair => pair.1 ≠ key

/-- The keys of a dictionary. -/
def Dict.keys (dict : Dict) : List String := dict.map Prod.fst

/-- The members of a dictionary by key. -/
def Dict.sorted (dict : Dict) : Dict :=
  dict.mergeSort fun first second => decide (first.1 ≤ second.1)

namespace Json

mutual
/-- The value as Python holds it: no dictionary repeats a key. -/
def held : Json → Json
  | arr items => arr (heldItems items)
  | obj members => obj (Dict.ofPairs (heldMembers members))
  | null => null
  | bool value => bool value
  | int value => int value
  | float value => float value
  | str value => str value
/-- The items of a list as Python holds them. -/
def heldItems : List Json → List Json
  | [] => []
  | item :: rest => held item :: heldItems rest
/-- The members of a dictionary as Python holds them, with their repetitions. -/
def heldMembers : List (String × Json) → List (String × Json)
  | [] => []
  | (key, value) :: rest => (key, held value) :: heldMembers rest
end

mutual
/-- The value with the members of every dictionary by key. -/
def sortKeys : Json → Json
  | arr items => arr (sortKeysItems items)
  | obj members => obj (Dict.sorted (sortKeysMembers members))
  | null => null
  | bool value => bool value
  | int value => int value
  | float value => float value
  | str value => str value
/-- The items of a list with sorted keys. -/
def sortKeysItems : List Json → List Json
  | [] => []
  | item :: rest => sortKeys item :: sortKeysItems rest
/-- The members of a dictionary with sorted keys below them. -/
def sortKeysMembers : List (String × Json) → List (String × Json)
  | [] => []
  | (key, value) :: rest => (key, sortKeys value) :: sortKeysMembers rest
end

/-- The members as held, one by one. -/
theorem heldMembers_eq (members : Dict) :
    heldMembers members = members.map fun pair => (pair.1, pair.2.held) := by
  induction members with
  | nil => rfl
  | cons pair rest ih => rw [heldMembers, ih, List.map_cons]

end Json

namespace Dict

/-- Setting a key that is there keeps the keys; setting another appends it. -/
theorem keys_set (dict : Dict) (key : String) (value : Json) :
    (dict.set key value).keys = if key ∈ dict.keys then dict.keys else dict.keys ++ [key] := by
  induction dict with
  | nil => simp [set, keys]
  | cons pair rest ih =>
    obtain ⟨other, old⟩ := pair
    by_cases same : other = key
    · simp [set, keys, same]
    · have apart : ¬key = other := fun is => same is.symm
      unfold keys at ih
      by_cases inside : key ∈ List.map Prod.fst rest
      · rw [if_pos inside] at ih
        simp [set, keys, same, apart, ih, inside]
      · rw [if_neg inside] at ih
        simp [set, keys, same, apart, ih, inside]

/-- A member after setting a key is that of the key or an old one. -/
theorem mem_set {dict : Dict} {key : String} {value : Json} {pair : String × Json}
    (inside : pair ∈ dict.set key value) : pair = (key, value) ∨ pair ∈ dict := by
  induction dict with
  | nil => exact Or.inl (List.mem_singleton.mp inside)
  | cons first rest ih =>
    obtain ⟨other, old⟩ := first
    by_cases same : other = key
    · simp only [set, same, if_true, List.mem_cons] at inside
      rcases inside with is | within
      · exact Or.inl is
      · exact Or.inr (List.mem_cons_of_mem _ within)
    · simp only [set, same, if_false, List.mem_cons] at inside
      rcases inside with is | within
      · exact Or.inr (is ▸ List.mem_cons_self)
      · rcases ih within with is | among
        · exact Or.inl is
        · exact Or.inr (List.mem_cons_of_mem _ among)

/-- Setting a key repeats none. -/
theorem nodup_set {dict : Dict} (distinct : dict.keys.Nodup) (key : String) (value : Json) :
    (dict.set key value).keys.Nodup := by
  rw [keys_set]
  by_cases inside : key ∈ dict.keys
  · rw [if_pos inside]
    exact distinct
  · rw [if_neg inside]
    simpa using List.Nodup.concat inside distinct

/-- A dictionary built from pairs repeats no key. -/
theorem nodup_ofPairs (pairs : List (String × Json)) : (ofPairs pairs).keys.Nodup := by
  have step : ∀ (pairs : List (String × Json)) (dict : Dict), dict.keys.Nodup →
      (pairs.foldl (fun dict pair => dict.set pair.1 pair.2) dict).keys.Nodup := by
    intro pairs
    induction pairs with
    | nil => exact fun dict distinct => distinct
    | cons pair rest ih => exact fun dict distinct => ih _ (nodup_set distinct pair.1 pair.2)
  exact step pairs [] List.nodup_nil

/-- Setting a new key appends it. -/
theorem set_of_not_mem {dict : Dict} {key : String} (new : key ∉ dict.keys) (value : Json) :
    dict.set key value = dict ++ [(key, value)] := by
  induction dict with
  | nil => rfl
  | cons pair rest ih =>
    obtain ⟨other, old⟩ := pair
    simp only [keys, List.map_cons, List.mem_cons, not_or] at new
    have apart : ¬other = key := fun is => new.1 is.symm
    simp [set, apart, ih new.2]

/-- Pairs that repeat no key are the dictionary they build. -/
theorem ofPairs_of_nodup {pairs : Dict} (distinct : pairs.keys.Nodup) : ofPairs pairs = pairs := by
  have step : ∀ (pairs dict : Dict), (dict ++ pairs).keys.Nodup →
      pairs.foldl (fun dict pair => dict.set pair.1 pair.2) dict = dict ++ pairs := by
    intro pairs
    induction pairs with
    | nil =>
      intro dict _
      simp
    | cons pair rest ih =>
      intro dict distinct
      have new : pair.1 ∉ dict.keys := by
        intro inside
        unfold keys at distinct inside
        rw [List.map_append, List.nodup_append] at distinct
        exact distinct.2.2 pair.1 inside pair.1 (by simp) rfl
      rw [List.foldl_cons, set_of_not_mem new, ih]
      · simp
      · simpa using distinct
  exact step pairs [] distinct

/-- Sorting only reorders. -/
theorem sorted_perm (dict : Dict) : dict.sorted.Perm dict := List.mergeSort_perm _ _

/-- A member is found where no key is repeated. -/
theorem get?_of_mem {dict : Dict} (distinct : dict.keys.Nodup) {key : String} {value : Json}
    (inside : (key, value) ∈ dict) : dict.get? key = some value := by
  induction dict with
  | nil => cases inside
  | cons pair rest ih =>
    obtain ⟨other, old⟩ := pair
    simp only [keys, List.map_cons, List.nodup_cons] at distinct
    rcases List.mem_cons.mp inside with is | later
    · obtain ⟨rfl, rfl⟩ := Prod.mk.inj is
      simp
    · have apart : other ≠ key := by
        rintro rfl
        exact distinct.1 (List.mem_map_of_mem later)
      simp [apart, ih distinct.2 later]

/-- Erasing a key leaves what is found under the others. -/
theorem get?_erase_ne (dict : Dict) {key other : String} (apart : other ≠ key) :
    (dict.erase key).get? other = dict.get? other := by
  induction dict with
  | nil => rfl
  | cons pair rest ih =>
    obtain ⟨first, old⟩ := pair
    unfold erase at ih ⊢
    by_cases same : first = key
    · have other_ne : ¬first = other := fun is => apart (is.symm.trans same)
      rw [List.filter_cons_of_neg (by simpa using same), ih]
      simp [other_ne]
    · rw [List.filter_cons_of_pos (by simpa using same), get?_cons, get?_cons, ih]

/-- Setting a key that is erased does not matter. -/
theorem erase_set (dict : Dict) (key : String) (value : Json) :
    (dict.set key value).erase key = dict.erase key := by
  induction dict with
  | nil => simp [set, erase]
  | cons pair rest ih =>
    obtain ⟨other, old⟩ := pair
    unfold erase at ih ⊢
    by_cases same : other = key
    · simp [set, same]
    · simp only [set, same, if_false]
      rw [List.filter_cons_of_pos (by simpa using same),
        List.filter_cons_of_pos (by simpa using same), ih]

end Dict

namespace Json

/-- The items of a list as held, one by one. -/
theorem heldItems_eq (items : List Json) : heldItems items = items.map held := by
  induction items with
  | nil => rfl
  | cons item rest ih => rw [heldItems, ih, List.map_cons]

/-- A list is held when its items are. -/
theorem held_arr_iff {items : List Json} :
    (arr items).held = arr items ↔ ∀ item ∈ items, item.held = item := by
  simp only [held, arr.injEq, heldItems_eq]
  constructor
  · intro same item inside
    exact List.map_inj_left.mp (same.trans (List.map_id items).symm) item inside
  · intro each
    exact (List.map_inj_left.mpr each).trans (List.map_id items)

/-- A dictionary is held when it repeats no key and its values are. -/
theorem held_obj_iff {members : Dict} :
    (obj members).held = obj members ↔
      members.keys.Nodup ∧ ∀ pair ∈ members, pair.2.held = pair.2 := by
  have keys : Dict.keys (heldMembers members) = members.keys := by
    rw [heldMembers_eq]
    simp [Dict.keys]
  simp only [held, obj.injEq]
  constructor
  · intro same
    have distinct : members.keys.Nodup := by
      rw [← same]
      exact Dict.nodup_ofPairs _
    rw [Dict.ofPairs_of_nodup (by rw [keys]; exact distinct), heldMembers_eq] at same
    refine ⟨distinct, fun pair inside => ?_⟩
    have each := List.map_inj_left.mp (same.trans (List.map_id members).symm) pair inside
    exact congrArg Prod.snd each
  · rintro ⟨distinct, each⟩
    rw [Dict.ofPairs_of_nodup (by rw [keys]; exact distinct), heldMembers_eq]
    have same : members.map (fun pair => (pair.1, pair.2.held)) = members.map id :=
      List.map_inj_left.mpr fun pair inside => Prod.ext rfl (each pair inside)
    rw [same, List.map_id]

end Json

namespace JsonText

variable {floats : FloatText} {layout : Layout}

/-- `json.dumps(value)`. -/
def dumps (floats : FloatText) (value : Json) : List Char := write floats .spaced value

/-- `json.dumps(value, sort_keys=True)`. -/
def dumpsSorted (floats : FloatText) (value : Json) : List Char :=
  write floats .spaced value.sortKeys

/-- `json.loads`. -/
def loads (floats : FloatText) (text : List Char) : Option Json := do
  let (value, rest) ← readValue floats (text.length + 1) (skipBlanks text)
  if skipBlanks rest = [] then some value.held else none

/-- What is written is read as a whole. -/
theorem readValue_whole (value : Json) :
    readValue floats ((write floats layout value).length + 1)
      (skipBlanks (write floats layout value)) = some (value, []) := by
  obtain ⟨first, rest, written, blank, -⟩ := write_head floats layout value
  have same : skipBlanks (write floats layout value) = write floats layout value := by
    rw [written]
    exact skipBlanks_cons blank rest
  have ends : EndsNumber [] := fun first is => by cases is
  have read := @readValue_write floats layout value _ [] (Nat.lt_succ_self _) ends
  rw [List.append_nil] at read
  rw [same, read]

/-- `json.loads` of what `json.dumps` writes is the value as Python holds it. -/
theorem loads_write (value : Json) : loads floats (write floats layout value) = some value.held := by
  unfold loads
  rw [readValue_whole]
  rfl

end JsonText

end VelaFlow
