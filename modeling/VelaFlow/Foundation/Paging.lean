import Mathlib.Data.List.Infix

/-!
# Pages of a list

An endpoint that is read page by page: at a cursor it gives some items and, unless the page is the
last one, the cursor of the next page. It serves a list when the pages that the cursors lead to make
the list.
-/
namespace VelaFlow

variable {α κ : Type}

/-- From a cursor on, the pages make the list. -/
inductive Serves (page : κ → List α × Option κ) : κ → List α → Prop
  /-- The last page is what is left. -/
  | last {cursor : κ} (ends : (page cursor).2 = none) : Serves page cursor (page cursor).1
  /-- A page and those behind it. -/
  | more {cursor next : κ} {items : List α} (goesOn : (page cursor).2 = some next)
      (rest : Serves page next items) : Serves page cursor ((page cursor).1 ++ items)

variable {page : κ → List α × Option κ} {cursor : κ} {items : List α}

/-- A page begins what is served from its cursor on. -/
theorem Serves.page_prefix (serves : Serves page cursor items) : (page cursor).1 <+: items := by
  cases serves with
  | last ends => exact List.prefix_rfl
  | more goesOn rest => exact List.prefix_append _ _

/-- A page is all that is served from its cursor on exactly when it has as many items. -/
theorem Serves.page_eq_iff (serves : Serves page cursor items) :
    (page cursor).1 = items ↔ items.length ≤ (page cursor).1.length := by
  constructor
  · intro same
    rw [same]
  · exact serves.page_prefix.eq_of_length_le

end VelaFlow
