import VelaFlow.Foundation.Program

/-!
# Services that fail

A call to a remote service is answered, refused, or carried out with its answer lost. The fates of
the calls are a parameter, so what holds for all of them holds wherever the calls fail. The state
counts the calls. Where a program is to meet a single failure, the state counts the calls of one
kind, and one of these is refused.
-/
namespace VelaFlow

/-- What becomes of a call. -/
inductive Fate where
  /-- It is carried out and answered. -/
  | answered
  /-- It is not carried out. -/
  | refused
  /-- It is carried out, and the caller is told that it failed. -/
  | lost
  deriving DecidableEq

namespace Program

variable {Op : Type} {Answer : Op → Type} {ε σ : Type}
  (serve : (op : Op) → σ → Except ε (Answer op) × σ) (failure : ε) (fates : Nat → Op → Fate)

/-- A service whose calls may fail. -/
def faulty (op : Op) (state : σ × Nat) : Except ε (Answer op) × (σ × Nat) :=
  match fates state.2 op with
  | .answered => ((serve op state.1).1, ((serve op state.1).2, state.2 + 1))
  | .refused => (.error failure, (state.1, state.2 + 1))
  | .lost => (.error failure, ((serve op state.1).2, state.2 + 1))

/-- A call is carried out or not; when it is answered it is carried out. -/
theorem faulty_cases (op : Op) (state : σ × Nat) :
    (faulty serve failure fates op state =
        ((serve op state.1).1, ((serve op state.1).2, state.2 + 1)) ∧
      fates state.2 op = .answered) ∨
    (faulty serve failure fates op state = (.error failure, (state.1, state.2 + 1)) ∧
      fates state.2 op = .refused) ∨
    (faulty serve failure fates op state =
        (.error failure, ((serve op state.1).2, state.2 + 1)) ∧
      fates state.2 op = .lost) := by
  unfold faulty
  cases fates state.2 op with
  | answered => exact Or.inl ⟨rfl, rfl⟩
  | refused => exact Or.inr (Or.inl ⟨rfl, rfl⟩)
  | lost => exact Or.inr (Or.inr ⟨rfl, rfl⟩)

variable {serve failure fates}

/-- What the service keeps when it carries a call out, it keeps when the call may fail. -/
theorem faulty_keeps {invariant : σ → Prop} {op : Op}
    (keeps : ∀ state, invariant state → invariant (serve op state).2) {state : σ × Nat}
    (holds : invariant state.1) : invariant (faulty serve failure fates op state).2.1 := by
  rcases faulty_cases serve failure fates op state with ⟨is, -⟩ | ⟨is, -⟩ | ⟨is, -⟩
  · rw [is]
    exact keeps _ holds
  · rw [is]
    exact holds
  · rw [is]
    exact keeps _ holds

section Refusing

variable (serve failure) (marked : Op → Bool) (refused : Option Nat)

/-- A service that refuses one of its marked calls: the one that comes after so many others. -/
def refusing (op : Op) (state : σ × Nat) : Except ε (Answer op) × (σ × Nat) :=
  if marked op = true then
    if refused = some state.2 then (.error failure, (state.1, state.2 + 1))
    else ((serve op state.1).1, ((serve op state.1).2, state.2 + 1))
  else ((serve op state.1).1, ((serve op state.1).2, state.2))

variable {marked refused}

/-- A call that is not marked is carried out. -/
theorem refusing_unmarked {op : Op} (plain : marked op = false) (state : σ) (count : Nat) :
    refusing serve failure marked refused op (state, count) =
      ((serve op state).1, ((serve op state).2, count)) := by
  rw [refusing, if_neg (by simp [plain])]

/-- A marked call that is not the refused one is carried out. -/
theorem refusing_carried {op : Op} (mark : marked op = true) (state : σ) {count : Nat}
    (other : refused ≠ some count) :
    refusing serve failure marked refused op (state, count) =
      ((serve op state).1, ((serve op state).2, count + 1)) := by
  rw [refusing, if_pos mark, if_neg other]

/-- The refused call is not carried out. -/
theorem refusing_refused {op : Op} (mark : marked op = true) (state : σ) (count : Nat) :
    refusing serve failure marked (some count) op (state, count) =
      (.error failure, (state, count + 1)) := by
  rw [refusing, if_pos mark, if_pos rfl]

/-- A program without marked calls runs as it does when none is refused. -/
theorem run_refusing_of_only {α : Type} {program : Program Op Answer ε α}
    (plain : Only (fun op => marked op = false) program) (state : σ) (count : Nat) :
    run (refusing serve failure marked refused) program (state, count) =
      ((run serve program state).1, ((run serve program state).2, count)) := by
  induction program generalizing state with
  | done value => rfl
  | raise exception => rfl
  | perform op next ih =>
    rw [run, refusing_unmarked serve failure plain.1]
    exact ih _ (plain.2 _ trivial) _

/-- A program that begins behind the refused call runs as it does when none is refused. -/
theorem run_refusing_of_past {α : Type} (program : Program Op Answer ε α) (state : σ) {count : Nat}
    (past : ∀ index ∈ refused, index < count) :
    ∃ later, run (refusing serve failure marked refused) program (state, count) =
      ((run serve program state).1, ((run serve program state).2, later)) := by
  induction program generalizing state count with
  | done value => exact ⟨count, rfl⟩
  | raise exception => exact ⟨count, rfl⟩
  | perform op next ih =>
    cases mark : marked op with
    | false =>
      rw [run, refusing_unmarked serve failure mark]
      exact ih _ _ past
    | true =>
      have other : refused ≠ some count := fun same => Nat.lt_irrefl _ (past count same)
      rw [run, refusing_carried serve failure mark state other]
      exact ih _ _ fun index is => Nat.lt_succ_of_lt (past index is)

variable {α β : Type} (state : σ) {left : σ} (rest : α → Program Op Answer ε β)

/-- What comes behind a program without marked calls. -/
theorem run_refusing_bind {program : Program Op Answer ε α}
    (plain : Only (fun op => marked op = false) program) {value : α}
    (returns : run serve program state = (.ok value, left)) (count : Nat) :
    run (refusing serve failure marked refused) (program >>= rest) (state, count) =
      run (refusing serve failure marked refused) (rest value) (left, count) := by
  rw [run_bind, run_refusing_of_only serve failure plain, returns]

/-- A marked call, when it is the refused one and when it is not. -/
theorem run_refusing_act {op : Op} (mark : marked op = true) {value : Answer op}
    (answered : serve op state = (.ok value, left)) (count : Nat) :
    run (refusing serve failure marked refused) (act op) (state, count) =
      if refused = some count then (.error failure, (state, count + 1))
      else (.ok value, (left, count + 1)) := by
  rw [run_act]
  by_cases same : refused = some count
  · rw [if_pos same, same, refusing_refused serve failure mark]
  · rw [if_neg same, refusing_carried serve failure mark state same, answered]

end Refusing

end Program

end VelaFlow
