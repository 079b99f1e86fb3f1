import Mathlib.Logic.Function.Basic

/-!
# Programs over effects

A program either ends, with a value or an exception, or performs one action and goes on with the
answer. A responder gives each action its answer and its effect on a state. Running a program to
its end, running it one action at a time, and reasoning about it without a state are three
readings of the one program: `run`, `step` and `Safe`.
-/
namespace VelaFlow

/-- A program that performs actions from `Op`, raises `ε` and returns `α`. -/
inductive Program (Op : Type) (Answer : Op → Type) (ε α : Type) where
  /-- The program has returned. -/
  | done (value : α)
  /-- The program has raised. -/
  | raise (exception : ε)
  /-- The program performs an action; the answer may be an exception. -/
  | perform (op : Op) (next : Except ε (Answer op) → Program Op Answer ε α)

namespace Program

variable {Op : Type} {Answer : Op → Type} {ε α β : Type}

/-- Goes on with the value of a program that returns. -/
def bind : Program Op Answer ε α → (α → Program Op Answer ε β) → Program Op Answer ε β
  | done value, rest => rest value
  | raise exception, _ => raise exception
  | perform op next, rest => perform op fun answer => bind (next answer) rest

instance : Monad (Program Op Answer ε) where
  pure := done
  bind := bind

/-- `try: program except Exception as e: handler(e)`. -/
def tryCatch : Program Op Answer ε α → (ε → Program Op Answer ε α) → Program Op Answer ε α
  | done value, _ => done value
  | raise exception, handler => handler exception
  | perform op next, handler => perform op fun answer => tryCatch (next answer) handler

/-- One action; an exceptional answer is raised. -/
def act (op : Op) : Program Op Answer ε (Answer op) :=
  perform op fun answer =>
    match answer with
    | .ok value => done value
    | .error exception => raise exception

/-- A computation without actions. -/
def lift : Except ε α → Program Op Answer ε α
  | .ok value => done value
  | .error exception => raise exception

section Run

variable {σ : Type} (respond : (op : Op) → σ → Except ε (Answer op) × σ)

/-- The outcome of a program and the state it leaves. -/
def run : Program Op Answer ε α → σ → Except ε α × σ
  | done value, state => (.ok value, state)
  | raise exception, state => (.error exception, state)
  | perform op next, state => run (next (respond op state).1) (respond op state).2

/-- One action of a program that has not ended. -/
def step : Program Op Answer ε α × σ → Option (Program Op Answer ε α × σ)
  | (perform op next, state) => some (next (respond op state).1, (respond op state).2)
  | _ => none

/-- A program that has returned changes nothing. -/
@[simp] theorem run_pure (value : α) (state : σ) :
    run respond (pure value : Program Op Answer ε α) state = (.ok value, state) := rfl

/-- A program that has raised changes nothing. -/
@[simp] theorem run_raise (exception : ε) (state : σ) :
    run respond (raise exception : Program Op Answer ε α) state = (.error exception, state) := rfl

/-- A sequence runs its first part and, when that returns, the rest on what it left. -/
theorem run_bind (program : Program Op Answer ε α) (rest : α → Program Op Answer ε β)
    (state : σ) :
    run respond (program >>= rest) state =
      match run respond program state with
      | (.ok value, left) => run respond (rest value) left
      | (.error exception, left) => (.error exception, left) := by
  induction program generalizing state with
  | done value => rfl
  | raise exception => rfl
  | perform op next ih => exact ih (respond op state).1 (respond op state).2

/-- A guarded program runs its handler, when it raises, on what it left. -/
theorem run_tryCatch (program : Program Op Answer ε α) (handler : ε → Program Op Answer ε α)
    (state : σ) :
    run respond (program.tryCatch handler) state =
      match run respond program state with
      | (.ok value, left) => (.ok value, left)
      | (.error exception, left) => run respond (handler exception) left := by
  induction program generalizing state with
  | done value => rfl
  | raise exception => rfl
  | perform op next ih => exact ih (respond op state).1 (respond op state).2

/-- What follows without an action leaves the state of what came before. -/
theorem run_bind_pure (program : Program Op Answer ε α) (value : α → β) (state : σ) :
    (run respond (program >>= fun result => pure (value result)) state).2 =
      (run respond program state).2 := by
  rw [run_bind]
  cases run respond program state with
  | mk outcome left => cases outcome <;> rfl

/-- A handler without an action leaves the state of the program. -/
theorem run_tryCatch_pure (program : Program Op Answer ε α) (value : ε → α) (state : σ) :
    (run respond (program.tryCatch fun exception => pure (value exception)) state).2 =
      (run respond program state).2 := by
  rw [run_tryCatch]
  cases run respond program state with
  | mk outcome left => cases outcome <;> rfl

/-- One action gives its answer. -/
@[simp] theorem run_act (op : Op) (state : σ) : run respond (act op) state = respond op state := by
  unfold act run
  cases answered : respond op state with
  | mk answer left => cases answer <;> rfl

/-- A computation without actions leaves the state alone. -/
@[simp] theorem run_lift (computation : Except ε α) (state : σ) :
    run respond (lift computation : Program Op Answer ε α) state = (computation, state) := by
  cases computation <;> rfl

end Run

section Safe

/-- What a program may do, read off its own past: a value of `γ` records what is known of the
actions so far and of their answers. -/
structure Discipline (Op : Type) (Answer : Op → Type) (ε γ : Type) where
  /-- The actions that are allowed. -/
  allowed : γ → Op → Prop
  /-- The answers that are possible. -/
  possible : γ → (op : Op) → Except ε (Answer op) → Prop := fun _ _ _ => True
  /-- What is known after an action and its answer. -/
  advance : γ → (op : Op) → Except ε (Answer op) → γ

variable {γ : Type}

/-- Whatever the possible answers, every action of the program is allowed where it stands, and
the program ends in the postcondition. -/
def Safe (discipline : Discipline Op Answer ε γ) (post : γ → Except ε α → Prop) :
    Program Op Answer ε α → γ → Prop
  | done value, known => post known (.ok value)
  | raise exception, known => post known (.error exception)
  | perform op next, known =>
    discipline.allowed known op ∧ ∀ answer, discipline.possible known op answer →
      Safe discipline post (next answer) (discipline.advance known op answer)

variable {discipline : Discipline Op Answer ε γ}

/-- A weaker postcondition holds where a stronger one does. -/
theorem Safe.weaken {post weaker : γ → Except ε α → Prop}
    (implies : ∀ known outcome, post known outcome → weaker known outcome)
    {program : Program Op Answer ε α} {known : γ} (safe : Safe discipline post program known) :
    Safe discipline weaker program known := by
  induction program generalizing known with
  | done value => exact implies known _ safe
  | raise exception => exact implies known _ safe
  | perform op next ih => exact ⟨safe.1, fun answer real => ih answer (safe.2 answer real)⟩

/-- A sequence is safe when its first part ends where the rest is safe. -/
theorem Safe.bind {post : γ → Except ε β → Prop} {program : Program Op Answer ε α}
    {rest : α → Program Op Answer ε β} {known : γ}
    (safe : Safe discipline (fun reached outcome =>
      match outcome with
      | .ok value => Safe discipline post (rest value) reached
      | .error exception => post reached (.error exception)) program known) :
    Safe discipline post (program >>= rest) known := by
  induction program generalizing known with
  | done value => exact safe
  | raise exception => exact safe
  | perform op next ih => exact ⟨safe.1, fun answer real => ih answer (safe.2 answer real)⟩

/-- A sequence is safe when its first part ends in a condition from which the rest is safe. -/
theorem Safe.seq (middle : γ → Except ε α → Prop) {post : γ → Except ε β → Prop}
    {program : Program Op Answer ε α} {rest : α → Program Op Answer ε β} {known : γ}
    (first : Safe discipline middle program known)
    (returns : ∀ reached value, middle reached (.ok value) →
      Safe discipline post (rest value) reached)
    (raises : ∀ reached exception, middle reached (.error exception) →
      post reached (.error exception)) :
    Safe discipline post (program >>= rest) known := by
  apply Safe.bind
  apply Safe.weaken _ first
  intro reached outcome ended
  cases outcome with
  | ok value => exact returns reached value ended
  | error exception => exact raises reached exception ended

/-- A guarded program is safe when it returns in the postcondition, or raises where its handler
is safe. -/
theorem Safe.tryCatch {post : γ → Except ε α → Prop} {program : Program Op Answer ε α}
    {handler : ε → Program Op Answer ε α} {known : γ}
    (safe : Safe discipline (fun reached outcome =>
      match outcome with
      | .ok value => post reached (.ok value)
      | .error exception => Safe discipline post (handler exception) reached) program known) :
    Safe discipline post (program.tryCatch handler) known := by
  induction program generalizing known with
  | done value => exact safe
  | raise exception => exact safe
  | perform op next ih => exact ⟨safe.1, fun answer real => ih answer (safe.2 answer real)⟩

/-- One action is safe when it is allowed and each answer ends in the postcondition. -/
theorem Safe.act {op : Op} {post : γ → Except ε (Answer op) → Prop} {known : γ}
    (permitted : discipline.allowed known op)
    (ends : ∀ answer, discipline.possible known op answer →
      post (discipline.advance known op answer) answer) :
    Safe discipline post (Program.act op) known := by
  refine ⟨permitted, fun answer real => ?_⟩
  cases answer with
  | ok value => exact ends (.ok value) real
  | error exception => exact ends (.error exception) real

/-- A computation without actions is safe when its outcome is. -/
theorem Safe.lift {post : γ → Except ε α → Prop} {computation : Except ε α} {known : γ}
    (ends : post known computation) :
    Safe discipline post (Program.lift computation) known := by
  cases computation with
  | ok value => exact ends
  | error exception => exact ends

/-- Running a safe program keeps a relation between what is known and the state, when every
allowed action keeps it and has a possible answer; the program ends in its postcondition. -/
theorem Safe.run {σ : Type} {respond : (op : Op) → σ → Except ε (Answer op) × σ}
    (relation : γ → σ → Prop)
    (keeps : ∀ known op state, relation known state → discipline.allowed known op →
      discipline.possible known op (respond op state).1 ∧
        relation (discipline.advance known op (respond op state).1) (respond op state).2)
    {post : γ → Except ε α → Prop} {program : Program Op Answer ε α} {known : γ} {state : σ}
    (start : relation known state) (safe : Safe discipline post program known) :
    ∃ reached, relation reached (run respond program state).2 ∧
      post reached (run respond program state).1 := by
  induction program generalizing known state with
  | done value => exact ⟨known, start, safe⟩
  | raise exception => exact ⟨known, start, safe⟩
  | perform op next ih =>
    obtain ⟨real, kept⟩ := keeps known op state start safe.1
    exact ih (respond op state).1 kept (safe.2 _ real)

end Safe

section Only

/-- The discipline of an action at a time: what is allowed does not depend on the past. -/
def only (allowed : Op → Prop) : Discipline Op Answer ε Unit where
  allowed _ op := allowed op
  advance _ _ _ := ()

/-- Every action of the program is allowed, whatever the answers. -/
def Only (allowed : Op → Prop) (program : Program Op Answer ε α) : Prop :=
  Safe (only allowed) (fun _ _ => True) program ()

variable {allowed : Op → Prop}

/-- What is allowed may be more. -/
theorem Only.weaken {wider : Op → Prop} (implies : ∀ op, allowed op → wider op)
    {program : Program Op Answer ε α} (first : Only allowed program) : Only wider program := by
  induction program with
  | done value => trivial
  | raise exception => trivial
  | perform op next ih =>
    have later : ∀ answer, Only allowed (next answer) := fun answer => first.2 answer trivial
    exact ⟨implies op first.1, fun answer _ => ih answer (later answer)⟩

/-- A sequence performs only allowed actions when its parts do. -/
theorem Only.bind {program : Program Op Answer ε α} {rest : α → Program Op Answer ε β}
    (first : Only allowed program) (later : ∀ value, Only allowed (rest value)) :
    Only allowed (program >>= rest) :=
  Safe.seq (fun _ _ => True) first (fun _ value _ => later value) fun _ _ _ => trivial

/-- A guarded program performs only allowed actions when it and its handler do. -/
theorem Only.tryCatch {program : Program Op Answer ε α} {handler : ε → Program Op Answer ε α}
    (first : Only allowed program) (later : ∀ exception, Only allowed (handler exception)) :
    Only allowed (program.tryCatch handler) := by
  apply Safe.tryCatch
  apply Safe.weaken _ first
  intro reached outcome _
  cases outcome with
  | ok value => trivial
  | error exception => exact later exception

/-- An allowed action is only that. -/
theorem Only.act {op : Op} (permitted : allowed op) :
    Only allowed (Program.act op : Program Op Answer ε (Answer op)) :=
  Safe.act permitted fun _ _ => trivial

/-- A computation performs no action. -/
theorem Only.lift (computation : Except ε α) :
    Only allowed (Program.lift computation : Program Op Answer ε α) :=
  Safe.lift trivial

/-- A program that has returned performs no action. -/
theorem Only.pure (value : α) : Only allowed (pure value : Program Op Answer ε α) := trivial

/-- A program that has raised performs no action. -/
theorem Only.raise (exception : ε) :
    Only allowed (Program.raise exception : Program Op Answer ε α) := trivial

/-- The first part of a sequence performs only allowed actions when the whole does. -/
theorem Only.of_bind {program : Program Op Answer ε α} {rest : α → Program Op Answer ε β}
    (whole : Only allowed (program >>= rest)) : Only allowed program := by
  induction program with
  | done value => trivial
  | raise exception => trivial
  | perform op next ih => exact ⟨whole.1, fun answer real => ih answer (whole.2 answer real)⟩

/-- What a handler guards performs only allowed actions when the whole does. -/
theorem Only.of_tryCatch {program : Program Op Answer ε α}
    {handler : ε → Program Op Answer ε α} (whole : Only allowed (program.tryCatch handler)) :
    Only allowed program := by
  induction program with
  | done value => trivial
  | raise exception => trivial
  | perform op next ih => exact ⟨whole.1, fun answer real => ih answer (whole.2 answer real)⟩

/-- What every allowed action keeps, a program that performs only such actions keeps. -/
theorem Only.run {σ : Type} {respond : (op : Op) → σ → Except ε (Answer op) × σ}
    (invariant : σ → Prop)
    (keeps : ∀ op state, invariant state → allowed op → invariant (respond op state).2)
    {program : Program Op Answer ε α} (safe : Only allowed program) {state : σ}
    (start : invariant state) : invariant (run respond program state).2 := by
  induction program generalizing state with
  | done value => exact start
  | raise exception => exact start
  | perform op next ih =>
    have later : ∀ answer, Only allowed (next answer) := fun answer => safe.2 answer trivial
    exact ih _ (later _) (keeps op state start safe.1)

/-- A loop performs only allowed actions when each of its passes does. -/
theorem Only.foldlM {pass : α → β → Program Op Answer ε α} {items : List β}
    (each : ∀ item ∈ items, ∀ reached, Only allowed (pass reached item)) (start : α) :
    Only allowed (items.foldlM pass start) := by
  induction items generalizing start with
  | nil => exact Only.pure start
  | cons item rest ih =>
    rw [List.foldlM_cons]
    exact (each item List.mem_cons_self start).bind
      (ih fun next member => each next (List.mem_cons_of_mem _ member))

end Only

section Keeps

variable {σ : Type} (respond : (op : Op) → σ → Except ε (Answer op) × σ) (invariant : σ → Prop)

/-- Run from a state with an invariant, the program leaves one with it, however it ends. -/
def Keeps (program : Program Op Answer ε α) : Prop :=
  ∀ state, invariant state → invariant (run respond program state).2

variable {respond invariant}

/-- A program that has returned keeps what holds. -/
theorem Keeps.pure (value : α) :
    Keeps respond invariant (pure value : Program Op Answer ε α) := fun _ holds => holds

/-- A sequence keeps what its parts keep. -/
theorem Keeps.bind {program : Program Op Answer ε α} {rest : α → Program Op Answer ε β}
    (first : Keeps respond invariant program)
    (later : ∀ value, Keeps respond invariant (rest value)) :
    Keeps respond invariant (program >>= rest) := by
  intro state holds
  have kept := first state holds
  rw [run_bind]
  cases ran : run respond program state with
  | mk outcome left =>
    rw [ran] at kept
    cases outcome with
    | ok value => exact later value left kept
    | error exception => exact kept

/-- A guarded program keeps what it and its handler keep. -/
theorem Keeps.tryCatch {program : Program Op Answer ε α}
    {handler : ε → Program Op Answer ε α} (first : Keeps respond invariant program)
    (later : ∀ exception, Keeps respond invariant (handler exception)) :
    Keeps respond invariant (program.tryCatch handler) := by
  intro state holds
  have kept := first state holds
  rw [run_tryCatch]
  cases ran : run respond program state with
  | mk outcome left =>
    rw [ran] at kept
    cases outcome with
    | ok value => exact kept
    | error exception => exact later exception left kept

/-- A loop keeps what each of its passes keeps. -/
theorem Keeps.foldlM {pass : α → β → Program Op Answer ε α} (items : List β)
    (each : ∀ reached item, Keeps respond invariant (pass reached item)) (start : α) :
    Keeps respond invariant (items.foldlM pass start) := by
  induction items generalizing start with
  | nil => exact Keeps.pure start
  | cons item rest ih =>
    rw [List.foldlM_cons]
    exact (each start item).bind ih

end Keeps

end Program

end VelaFlow
