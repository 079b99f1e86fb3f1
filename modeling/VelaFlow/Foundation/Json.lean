import Mathlib.Algebra.Order.Ring.Rat

/-!
# JSON values as Python holds them

`json.load` gives dictionaries with string keys, lists, strings, booleans, `None`, integers of
any size and finite floats. A dictionary keeps its insertion order and has no repeated key:
assigning to a key it has replaces the value in place.
-/
namespace VelaFlow

/-- A JSON value. -/
inductive Json where
  /-- `None`. -/
  | null
  /-- A boolean. -/
  | bool (value : Bool)
  /-- An integer. -/
  | int (value : Int)
  /-- A finite float. -/
  | float (value : ℚ)
  /-- A string. -/
  | str (value : String)
  /-- A list. -/
  | arr (items : List Json)
  /-- A dictionary, in insertion order. -/
  | obj (members : List (String × Json))
  deriving Repr, Inhabited

/-- `bool(value)`. -/
def Json.truthy : Json → Bool
  | .null => false
  | .bool value => value
  | .int value => decide (value ≠ 0)
  | .float value => decide (value ≠ 0)
  | .str value => decide (value ≠ "")
  | .arr items => !items.isEmpty
  | .obj members => !members.isEmpty

/-- The number a value compares as, when it is one; a boolean counts as zero or one. -/
def Json.number? : Json → Option ℚ
  | .bool value => some (if value then 1 else 0)
  | .int value => some value
  | .float value => some value
  | _ => none

/-- `value + 1` of a number. -/
def Json.increment : Json → Json
  | .bool value => .int (if value then 2 else 1)
  | .int value => .int (value + 1)
  | .float value => .float (value + 1)
  | value => value

/-- A dictionary with string keys. -/
abbrev Dict := List (String × Json)

namespace Dict

/-- `d.get(key)`, without a default. -/
def get? (dict : Dict) (key : String) : Option Json := List.lookup key dict

/-- `d.get(key, default)`. -/
def getD (dict : Dict) (key : String) (default : Json) : Json := (dict.get? key).getD default

/-- `d[key] = value`: replaces the value of a key in place, or appends a new key. -/
def set : Dict → String → Json → Dict
  | [], key, value => [(key, value)]
  | (other, old) :: rest, key, value =>
    if other = key then (other, value) :: rest else (other, old) :: set rest key value

/-- `bool(d)`. -/
def truthy (dict : Dict) : Bool := !dict.isEmpty

/-- The empty dictionary has no keys. -/
@[simp] theorem get?_nil (key : String) : get? [] key = none := rfl

/-- A lookup reads the first pair whose key is the one sought. -/
@[simp] theorem get?_cons (other : String) (value : Json) (rest : Dict) (key : String) :
    get? ((other, value) :: rest) key = if other = key then some value else get? rest key := by
  unfold get?
  rw [List.lookup_cons]
  by_cases same : other = key
  · simp [same]
  · have apart : (key == other) = false := beq_false_of_ne (Ne.symm same)
    simp [same, apart]

/-- A key reads back the value it was last set to. -/
theorem get?_set_self (dict : Dict) (key : String) (value : Json) :
    (dict.set key value).get? key = some value := by
  induction dict with
  | nil => simp [set]
  | cons pair rest ih =>
    obtain ⟨other, old⟩ := pair
    by_cases same : other = key
    · simp [set, same]
    · simp [set, same, ih]

/-- Setting one key leaves every other key as it was. -/
theorem get?_set_ne (dict : Dict) {key other : String} (value : Json) (distinct : other ≠ key) :
    (dict.set key value).get? other = dict.get? other := by
  induction dict with
  | nil => simp [set, Ne.symm distinct]
  | cons pair rest ih =>
    obtain ⟨first, old⟩ := pair
    by_cases same : first = key
    · subst same
      simp [set, Ne.symm distinct]
    · simp only [set, same, ↓reduceIte, get?_cons, ih]

end Dict

end VelaFlow
