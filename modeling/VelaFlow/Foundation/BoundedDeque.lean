import Mathlib.Data.List.Basic

/-!
# Bounded deques

Python's `collections.deque(maxlen=bound)`: appending to a full deque drops its oldest item.
The bound is part of the value. The rules relate a deque to everything ever appended to it:
what it holds is the most recent part of that, and what it dropped is the rest.
-/
namespace VelaFlow

/-- A deque that holds at most `bound` items, oldest first. -/
structure BoundedDeque (α : Type*) (bound : Nat) where
  /-- The items, oldest first. -/
  items : List α
  /-- There are never more items than the bound. -/
  within : items.length ≤ bound

namespace BoundedDeque

variable {α : Type*} {bound : Nat}

/-- The empty deque. -/
def empty : BoundedDeque α bound := ⟨[], Nat.zero_le _⟩

/-- `deque.append`: the new item goes last, and a deque over its bound drops its oldest. -/
def append (deque : BoundedDeque α bound) (item : α) : BoundedDeque α bound where
  items := (deque.items ++ [item]).drop (deque.items.length + 1 - bound)
  within := by
    simp only [List.length_drop, List.length_append, List.length_singleton]
    omega

/-- The items an append drops. -/
def dropped (deque : BoundedDeque α bound) (item : α) : List α :=
  (deque.items ++ [item]).take (deque.items.length + 1 - bound)

/-- The empty deque has no items. -/
@[simp] theorem empty_items : (empty : BoundedDeque α bound).items = [] := rfl

/-- What an append drops and what it leaves are together the old items and the new one. -/
theorem dropped_append (deque : BoundedDeque α bound) (item : α) :
    deque.dropped item ++ (deque.append item).items = deque.items ++ [item] :=
  List.take_append_drop _ _

/-- An append drops one item exactly when the deque is full. -/
theorem dropped_length (deque : BoundedDeque α bound) (item : α) :
    (deque.dropped item).length = if bound ≤ deque.items.length then 1 else 0 := by
  have within := deque.within
  simp only [dropped, List.length_take, List.length_append, List.length_singleton]
  split <;> omega

/-- An append that drops an item leaves the deque full. -/
theorem append_full (deque : BoundedDeque α bound) (item : α)
    (full : bound ≤ deque.items.length) : (deque.append item).items.length = bound := by
  have within := deque.within
  simp only [append, List.length_drop, List.length_append, List.length_singleton]
  omega

/-- A deque records a history: what it dropped so far, then what it holds, is everything that
was appended, and it dropped nothing before it was full. -/
structure Records (deque : BoundedDeque α bound) (gone history : List α) : Prop where
  /-- The dropped items and the held ones, in order, are the history. -/
  whole : gone ++ deque.items = history
  /-- Something was dropped only from a full deque, and it is still full. -/
  full : gone ≠ [] → deque.items.length = bound

/-- The empty deque records the empty history. -/
theorem records_empty : Records (empty : BoundedDeque α bound) [] [] :=
  ⟨rfl, fun dropped => absurd rfl dropped⟩

/-- An append keeps the record. -/
theorem Records.append {deque : BoundedDeque α bound} {gone history : List α}
    (records : Records deque gone history) (item : α) :
    Records (deque.append item) (gone ++ deque.dropped item) (history ++ [item]) := by
  constructor
  · rw [List.append_assoc, dropped_append, ← List.append_assoc, records.whole]
  · intro lost
    by_cases full : bound ≤ deque.items.length
    · exact append_full deque item full
    · have kept : deque.dropped item = [] := by
        apply List.eq_nil_of_length_eq_zero
        rw [dropped_length, if_neg full]
      have before : gone ≠ [] := by simpa [kept] using lost
      exact absurd (Nat.le_of_eq (records.full before).symm) full

/-- A deque holds the most recent items of its history, as many as fit. -/
theorem Records.items_eq {deque : BoundedDeque α bound} {gone history : List α}
    (records : Records deque gone history) :
    deque.items = history.drop (history.length - bound) := by
  have length := congrArg List.length records.whole
  rw [List.length_append] at length
  have within := deque.within
  by_cases lost : gone = []
  · have whole := records.whole
    rw [lost, List.nil_append] at whole
    rw [← whole, show deque.items.length - bound = 0 by omega, List.drop_zero]
  · have full := records.full lost
    rw [← records.whole, show (gone ++ deque.items).length - bound = gone.length by
      rw [List.length_append]; omega, List.drop_left]

end BoundedDeque

end VelaFlow
