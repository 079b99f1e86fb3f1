import Mathlib.Algebra.Order.BigOperators.Group.Finset
import Mathlib.Data.Fintype.BigOperators

/-!
# Totals over a family of parties

A system of parties moves one party at a time. The total over all parties of some number read
off each then changes by what that one party's number changes.
-/
namespace VelaFlow

variable {W α : Type*} [Fintype W]

/-- The sum over all parties of a number read off where each stands. -/
def total (parties : W → α) (number : α → Nat) : Nat := ∑ party, number (parties party)

/-- The number of one party is at most the total. -/
theorem single_le_total (parties : W → α) (party : W) (number : α → Nat) :
    number (parties party) ≤ total parties number := by
  unfold total
  exact Finset.single_le_sum (f := fun other => number (parties other))
    (fun _ _ => Nat.zero_le _) (Finset.mem_univ party)

/-- A number that is smaller wherever a party stands has a smaller total. -/
theorem total_mono (parties : W → α) {fewer number : α → Nat}
    (smaller : ∀ place, fewer place ≤ number place) :
    total parties fewer ≤ total parties number := by
  unfold total
  exact Finset.sum_le_sum (fun party _ => smaller (parties party))

/-- The total is zero when every party stands where the number is. -/
theorem total_eq_zero {parties : W → α} {number : α → Nat}
    (none : ∀ party, number (parties party) = 0) : total parties number = 0 := by
  unfold total
  exact Finset.sum_eq_zero (fun party _ => none party)

variable [DecidableEq W]

/-- A number that is smaller wherever a party stands has a total smaller by at least what one
party's number shrinks. -/
theorem total_shrinks (parties : W → α) (party : W) {fewer number : α → Nat}
    (smaller : ∀ place, fewer place ≤ number place) :
    total parties fewer + number (parties party) ≤
      total parties number + fewer (parties party) := by
  have before := Finset.add_sum_erase Finset.univ (fun other => number (parties other))
    (Finset.mem_univ party)
  have after := Finset.add_sum_erase Finset.univ (fun other => fewer (parties other))
    (Finset.mem_univ party)
  have others : ∑ other ∈ Finset.univ.erase party, fewer (parties other) ≤
      ∑ other ∈ Finset.univ.erase party, number (parties other) :=
    Finset.sum_le_sum (fun other _ => smaller (parties other))
  unfold total
  omega

/-- Moving one party trades its number for the new one in the total. -/
theorem total_update (parties : W → α) (moved : W) (next : α) (number : α → Nat) :
    total (Function.update parties moved next) number + number (parties moved) =
      total parties number + number next := by
  have before := Finset.add_sum_erase Finset.univ (fun party => number (parties party))
    (Finset.mem_univ moved)
  have after := Finset.add_sum_erase Finset.univ
    (fun party => number (Function.update parties moved next party)) (Finset.mem_univ moved)
  have others : ∑ party ∈ Finset.univ.erase moved,
      number (Function.update parties moved next party) =
        ∑ party ∈ Finset.univ.erase moved, number (parties party) := by
    apply Finset.sum_congr rfl
    intro party member
    rw [Function.update_of_ne (Finset.ne_of_mem_erase member)]
  simp only [Function.update_self] at before after
  unfold total
  omega

end VelaFlow
