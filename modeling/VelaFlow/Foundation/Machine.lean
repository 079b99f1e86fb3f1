import Mathlib.Data.List.Basic
import Mathlib.Data.List.Induction

/-!
# Runs of event machines

A machine is a partial step function: an event either moves the state or is refused. A run
feeds a list of events to the machine and exists only when no event is refused, so every
prefix of a run is a run. The rules here turn what one step keeps into what a whole run
keeps, with or without a condition that every step of the run meets.
-/
namespace VelaFlow.Machine

variable {σ ε : Type*}

/-- The state after a list of events, when none of them is refused. -/
def run (step : σ → ε → Option σ) : σ → List ε → Option σ
  | state, [] => some state
  | state, event :: rest =>
    match step state event with
    | none => none
    | some next => run step next rest

/-- Every event of the run meets a condition on it and on the state it finds. -/
def Meets (step : σ → ε → Option σ) (condition : σ → ε → Prop) : σ → List ε → Prop
  | _, [] => True
  | state, event :: rest =>
    condition state event ∧ ∀ next, step state event = some next → Meets step condition next rest

variable {step : σ → ε → Option σ}

/-- No event leaves the state where it is. -/
@[simp] theorem run_nil (state : σ) : run step state [] = some state := rfl

/-- A run of one more event takes that event first. -/
@[simp] theorem run_cons (state : σ) (event : ε) (rest : List ε) :
    run step state (event :: rest) = (step state event).bind (fun next => run step next rest) := by
  cases taken : step state event with
  | none => simp [run, taken]
  | some next => simp [run, taken]

/-- A run over two lists of events is a run over the first and then over the second. -/
theorem run_append (state : σ) (first second : List ε) :
    run step state (first ++ second) =
      (run step state first).bind (fun next => run step next second) := by
  induction first generalizing state with
  | nil => rfl
  | cons event rest ih =>
    simp only [List.cons_append, run_cons, Option.bind_assoc]
    cases step state event with
    | none => rfl
    | some next => exact ih next

/-- A run of one event is one step. -/
theorem run_singleton (state : σ) (event : ε) : run step state [event] = step state event := by
  cases taken : step state event with
  | none => simp [taken]
  | some next => simp [taken]

/-- What every step keeps, every run keeps. -/
theorem run_invariant (invariant : σ → Prop)
    (keeps : ∀ state event next, invariant state → step state event = some next → invariant next)
    {state : σ} {events : List ε} {final : σ} (start : invariant state)
    (ran : run step state events = some final) : invariant final := by
  induction events generalizing state with
  | nil =>
    obtain rfl := Option.some.inj ran
    exact start
  | cons event rest ih =>
    rw [run_cons, Option.bind_eq_some_iff] at ran
    obtain ⟨next, moved, ran⟩ := ran
    exact ih (keeps state event next start moved) ran

/-- What every step that meets the condition keeps, every run of such steps keeps. -/
theorem run_invariant_of_meets (invariant : σ → Prop) {condition : σ → ε → Prop}
    (keeps : ∀ state event next, invariant state → condition state event →
      step state event = some next → invariant next)
    {state : σ} {events : List ε} {final : σ} (start : invariant state)
    (meets : Meets step condition state events) (ran : run step state events = some final) :
    invariant final := by
  induction events generalizing state with
  | nil =>
    obtain rfl := Option.some.inj ran
    exact start
  | cons event rest ih =>
    rw [run_cons, Option.bind_eq_some_iff] at ran
    obtain ⟨next, moved, ran⟩ := ran
    exact ih (keeps state event next start meets.1 moved) (meets.2 next moved) ran

/-- A condition on events alone that they all meet is met by the run. -/
theorem meets_of_forall {condition : ε → Prop} {events : List ε}
    (all : ∀ event ∈ events, condition event) (state : σ) :
    Meets step (fun _ event => condition event) state events := by
  induction events generalizing state with
  | nil => trivial
  | cons event rest ih =>
    refine ⟨all event List.mem_cons_self, fun next _ => ?_⟩
    exact ih (fun other inside => all other (List.mem_cons_of_mem _ inside)) next

/-- A run over two lists of events meets the condition when both parts do. -/
theorem meets_append_iff {condition : σ → ε → Prop} {state : σ} {first second : List ε} :
    Meets step condition state (first ++ second) ↔ Meets step condition state first ∧
      ∀ middle, run step state first = some middle → Meets step condition middle second := by
  induction first generalizing state with
  | nil => simp [Meets]
  | cons event rest ih =>
    simp only [List.cons_append, Meets, run_cons, Option.bind_eq_some_iff]
    constructor
    · rintro ⟨now, later⟩
      refine ⟨⟨now, fun next moved => (ih.mp (later next moved)).1⟩, ?_⟩
      rintro middle ⟨next, moved, ran⟩
      exact (ih.mp (later next moved)).2 middle ran
    · rintro ⟨⟨now, later⟩, after⟩
      refine ⟨now, fun next moved => ih.mpr ⟨later next moved, ?_⟩⟩
      intro middle ran
      exact after middle ⟨next, moved, ran⟩

/-- A run of steps that meet a condition meets what the condition and the invariant it keeps
imply. -/
theorem meets_of_invariant (invariant : σ → Prop) {condition other : σ → ε → Prop}
    (keeps : ∀ state event next, invariant state → condition state event →
      step state event = some next → invariant next)
    (implies : ∀ state event, invariant state → condition state event → other state event)
    {state : σ} {events : List ε} (start : invariant state)
    (meets : Meets step condition state events) : Meets step other state events := by
  induction events generalizing state with
  | nil => trivial
  | cons event rest ih =>
    refine ⟨implies state event start meets.1, fun next moved => ?_⟩
    exact ih (keeps state event next start meets.1 moved) (meets.2 next moved)

/-- Where two conditions say the same of every state that an invariant allows, a run meets the one
exactly if it meets the other. -/
theorem meets_iff_of_invariant (invariant : σ → Prop) {one other : σ → ε → Prop}
    (keeps : ∀ state event next, invariant state → step state event = some next → invariant next)
    (same : ∀ state event next, invariant state → step state event = some next →
      (one state event ↔ other state event))
    {state : σ} {events : List ε} {final : σ} (start : invariant state)
    (ran : run step state events = some final) :
    Meets step one state events ↔ Meets step other state events := by
  induction events generalizing state with
  | nil => exact Iff.rfl
  | cons event rest ih =>
    rw [run_cons, Option.bind_eq_some_iff] at ran
    obtain ⟨next, moved, ran⟩ := ran
    have here := same state event next start moved
    have later := ih (keeps state event next start moved) ran
    constructor
    · rintro ⟨now, all⟩
      refine ⟨here.mp now, fun found taken => ?_⟩
      rw [← Option.some.inj (moved.symm.trans taken)]
      exact later.mp (all next moved)
    · rintro ⟨now, all⟩
      refine ⟨here.mpr now, fun found taken => ?_⟩
      rw [← Option.some.inj (moved.symm.trans taken)]
      exact later.mpr (all next moved)

/-- Where two conditions say the same of every state that an invariant allows, and the steps that meet
them keep the invariant, a run meets the one exactly if it meets the other. -/
theorem meets_iff_of_kept (invariant : σ → Prop) {allowed : ε → Prop} {one other : σ → ε → Prop}
    (same : ∀ state event, invariant state → allowed event → (one state event ↔ other state event))
    (keeps : ∀ state event next, invariant state → allowed event → other state event →
      step state event = some next → invariant next)
    {state : σ} {events : List ε} (start : invariant state)
    (all : ∀ event ∈ events, allowed event) :
    Meets step one state events ↔ Meets step other state events := by
  induction events generalizing state with
  | nil => exact Iff.rfl
  | cons event rest ih =>
    have fine := all event List.mem_cons_self
    have later := fun next kept => @ih next kept fun after inside =>
      all after (List.mem_cons_of_mem event inside)
    unfold Meets
    rw [same state event start fine]
    refine and_congr_right fun met => forall_congr' fun next => imp_congr_right fun moved => ?_
    exact later next (keeps state event next start fine met moved)

/-- When a step keeps a property exactly if it meets the condition, a run keeps it exactly if all
its steps do. -/
theorem run_iff_meets (invariant property : σ → Prop) {condition : σ → ε → Prop}
    (keeps : ∀ state event next, invariant state → step state event = some next →
      invariant next ∧ (property next ↔ property state ∧ condition state event))
    {state : σ} {events : List ε} {final : σ} (start : invariant state)
    (ran : run step state events = some final) :
    property final ↔ property state ∧ Meets step condition state events := by
  induction events generalizing state with
  | nil =>
    obtain rfl := Option.some.inj ran
    simp [Meets]
  | cons event rest ih =>
    rw [run_cons, Option.bind_eq_some_iff] at ran
    obtain ⟨next, moved, ran⟩ := ran
    obtain ⟨kept, exact'⟩ := keeps state event next start moved
    rw [ih kept ran, exact', and_assoc]
    have rest_iff : Meets step condition next rest ↔
        ∀ other, step state event = some other → Meets step condition other rest := by
      constructor
      · intro later other taken
        rw [moved] at taken
        exact Option.some.inj taken ▸ later
      · exact fun all => all next moved
    rw [Meets, rest_iff]

/-- When every event keeps a property exactly if it is as it should be, a machine that refuses no
event keeps the property exactly if all events are. -/
theorem foldl_iff_forall {move : σ → ε → σ} (invariant property : σ → Prop) {condition : ε → Prop}
    (keeps : ∀ state event, invariant state → invariant (move state event) ∧
      (property (move state event) ↔ property state ∧ condition event))
    {state : σ} (start : invariant state) (events : List ε) :
    property (events.foldl move state) ↔ property state ∧ ∀ event ∈ events, condition event := by
  induction events generalizing state with
  | nil => simp
  | cons event rest ih =>
    have first := keeps state event start
    rw [List.foldl_cons, ih first.1, first.2, List.forall_mem_cons, and_assoc]

/-- When an event keeps a property exactly if it meets a condition on the state it finds, the property
holds all along a machine that refuses no event exactly if all events meet the condition. -/
theorem foldl_always_iff {move : σ → ε → σ} (invariant property : σ → Prop)
    {condition : σ → ε → Prop}
    (keeps : ∀ state event, invariant state → property state → invariant (move state event) ∧
      (property (move state event) ↔ condition state event))
    {state : σ} (start : invariant state) (holds : property state) (events : List ε) :
    (∀ front, front <+: events → property (front.foldl move state)) ↔
      ∀ front event, front ++ [event] <+: events → condition (front.foldl move state) event := by
  have before : ∀ {front : List ε} {event : ε}, front ++ [event] <+: events → front <+: events :=
    fun within => (List.prefix_append _ _).trans within
  constructor
  · intro always
    have stays : ∀ front, front <+: events → invariant (front.foldl move state) := by
      intro front
      induction front using List.reverseRecOn with
      | nil => exact fun _ => start
      | append_singleton front event ih =>
        intro within
        rw [List.foldl_concat]
        exact (keeps _ event (ih (before within)) (always front (before within))).1
    intro front event within
    have next := keeps _ event (stays front (before within)) (always front (before within))
    have then' := always _ within
    rw [List.foldl_concat] at then'
    exact next.2.mp then'
  · intro meets
    have both : ∀ front, front <+: events →
        invariant (front.foldl move state) ∧ property (front.foldl move state) := by
      intro front
      induction front using List.reverseRecOn with
      | nil => exact fun _ => ⟨start, holds⟩
      | append_singleton front event ih =>
        intro within
        obtain ⟨kept, held⟩ := ih (before within)
        have next := keeps _ event kept held
        rw [List.foldl_concat]
        exact ⟨next.1, next.2.mpr (meets front event within)⟩
    exact fun front within => (both front within).2

/-- What every event keeps is kept by a run. -/
theorem foldl_keeps {κ : Type} {keyOf : σ → κ} {move : σ → ε → σ}
    (keeps : ∀ state event, keyOf (move state event) = keyOf state) (events : List ε) (state : σ) :
    keyOf (events.foldl move state) = keyOf state := by
  induction events generalizing state with
  | nil => rfl
  | cons event rest ih => rw [List.foldl_cons, ih, keeps]

/-- The events of items of other keys pass by. -/
theorem foldl_flatMap_skips {ι κ : Type} {key : ι → κ} {keyOf : σ → κ} {events : ι → List ε}
    {move : σ → ε → σ}
    (skips : ∀ item state, ∀ event ∈ events item, key item ≠ keyOf state → move state event = state)
    {items : List ι} {state : σ} (apart : ∀ item ∈ items, key item ≠ keyOf state) :
    (items.flatMap events).foldl move state = state := by
  have idle : ∀ event ∈ items.flatMap events, move state event = state := by
    intro event happens
    obtain ⟨item, inside, own⟩ := List.mem_flatMap.mp happens
    exact skips item state event own (apart item inside)
  generalize items.flatMap events = all at idle
  induction all with
  | nil => rfl
  | cons event rest ih =>
    rw [List.foldl_cons, idle event List.mem_cons_self]
    exact ih fun later inside => idle later (List.mem_cons_of_mem event inside)

/-- Where the events of each item reach only what has its key, what belongs to one item is changed by
the events of that item alone. -/
theorem foldl_flatMap_of_nodup {ι κ : Type} {key : ι → κ} {keyOf : σ → κ} {events : ι → List ε}
    {move : σ → ε → σ} (keeps : ∀ state event, keyOf (move state event) = keyOf state)
    (skips : ∀ item state, ∀ event ∈ events item, key item ≠ keyOf state → move state event = state)
    {items : List ι} (distinct : (items.map key).Nodup) {item : ι} (among : item ∈ items)
    {state : σ} (own : key item = keyOf state) :
    (items.flatMap events).foldl move state = (events item).foldl move state := by
  induction items generalizing state with
  | nil => exact absurd among List.not_mem_nil
  | cons first rest ih =>
    rw [List.map_cons, List.nodup_cons] at distinct
    rw [List.flatMap_cons, List.foldl_append]
    rcases List.mem_cons.mp among with rfl | later
    · have same : keyOf ((events item).foldl move state) = keyOf state := foldl_keeps keeps _ _
      refine foldl_flatMap_skips skips fun other inside is => distinct.1 ?_
      rw [own, ← same, ← is]
      exact List.mem_map_of_mem inside
    · have apart : key first ≠ keyOf state := fun is =>
        distinct.1 ((is.trans own.symm) ▸ List.mem_map_of_mem later)
      have idle : ([first].flatMap events).foldl move state = state :=
        foldl_flatMap_skips skips (by simpa using apart)
      rw [List.flatMap_singleton] at idle
      rw [idle]
      exact ih distinct.2 later own

/-- What some events set and others clear holds after a run exactly if an event of it set it and
none cleared it since. -/
theorem holds_iff_set_since {holds : List ε → Prop} {sets : List ε → ε → Prop} {clears : ε → Prop}
    (start : ¬ holds [])
    (step : ∀ before event, holds (before ++ [event]) ↔
      sets before event ∨ holds before ∧ ¬ clears event)
    (events : List ε) :
    holds events ↔ ∃ before event after, events = before ++ event :: after ∧ sets before event ∧
      ∀ later ∈ after, ¬ clears later := by
  induction events using List.reverseRecOn with
  | nil =>
    constructor
    · exact fun held => absurd held start
    · rintro ⟨before, event, after, split, -⟩
      exact absurd split.symm (List.append_ne_nil_of_right_ne_nil _ (List.cons_ne_nil _ _))
  | append_singleton events last ih =>
    rw [step, ih]
    constructor
    · rintro (set | ⟨⟨before, event, after, split, set, since⟩, stays⟩)
      · exact ⟨events, last, [], rfl, set, fun later inside => absurd inside List.not_mem_nil⟩
      · refine ⟨before, event, after ++ [last], by simp [split], set, ?_⟩
        intro later inside
        cases List.mem_append.mp inside with
        | inl earlier => exact since later earlier
        | inr same =>
          rw [List.mem_singleton.mp same]
          exact stays
    · rintro ⟨before, event, after, split, set, since⟩
      cases after using List.reverseRecOn with
      | nil =>
        obtain ⟨rfl, same⟩ := List.append_inj' split rfl
        obtain rfl := List.singleton_inj.mp same
        exact Or.inl set
      | append_singleton after final _ =>
        rw [← List.cons_append, ← List.append_assoc] at split
        obtain ⟨rfl, same⟩ := List.append_inj' split rfl
        obtain rfl := List.singleton_inj.mp same
        refine Or.inr ⟨⟨before, event, after, rfl, set, fun later inside => ?_⟩, ?_⟩
        · exact since later (List.mem_append_left _ inside)
        · exact since last (List.mem_append_right _ List.mem_cons_self)

/-- What is seen of a state after a run is what is seen after the visible events of it alone, when
the other events do not change what is seen, and the visible ones change it by what is seen. -/
theorem foldl_filter_of_unwinding {ω : Type*} {view : σ → ω} {visible : ε → Bool}
    {move : σ → ε → σ}
    (hidden : ∀ state event, visible event = false → view (move state event) = view state)
    (consistent : ∀ state other event, visible event = true → view state = view other →
      view (move state event) = view (move other event))
    (events : List ε) {state other : σ} (same : view state = view other) :
    view (events.foldl move state) = view ((events.filter visible).foldl move other) := by
  induction events generalizing state other with
  | nil => exact same
  | cons event rest ih =>
    cases seen : visible event with
    | false =>
      rw [List.filter_cons_of_neg (by simp [seen]), List.foldl_cons]
      exact ih ((hidden state event seen).trans same)
    | true =>
      rw [List.filter_cons_of_pos seen, List.foldl_cons, List.foldl_cons]
      exact ih (consistent state other event seen same)

/-- A cell that steps leave idle or write holds what the last step wrote that was not idle, or what
it held before when all were. -/
def LastWrite {α : Type*} (idle : ε → Prop) (writes : ε → α → Prop) (steps : List ε)
    (before after : α) : Prop :=
  (after = before ∧ ∀ step ∈ steps, idle step) ∨
    ∃ earlier step later, steps = earlier ++ step :: later ∧ writes step after ∧
      ∀ other ∈ later, idle other

namespace LastWrite

variable {α β : Type*} {idle : ε → Prop} {writes : ε → α → Prop} {rest : List ε} {event : ε}
  {before middle after : α}

/-- No step leaves the cell as it is. -/
theorem nil : LastWrite idle writes [] before before :=
  Or.inl ⟨rfl, fun _ nothing => absurd nothing List.not_mem_nil⟩

/-- A first step that is idle passes by. -/
theorem skip (passes : idle event) (then' : LastWrite idle writes rest before after) :
    LastWrite idle writes (event :: rest) before after := by
  cases then' with
  | inl still => exact Or.inl ⟨still.1, List.forall_mem_cons.mpr ⟨passes, still.2⟩⟩
  | inr wrote =>
    have ⟨earlier, step, later, split, written, since⟩ := wrote
    exact Or.inr ⟨event :: earlier, step, later, by rw [split, List.cons_append], written, since⟩

/-- What a first step writes stays until another one writes. -/
theorem write (written : writes event middle) (then' : LastWrite idle writes rest middle after) :
    LastWrite idle writes (event :: rest) before after := by
  cases then' with
  | inl still => exact Or.inr ⟨[], event, rest, rfl, still.1 ▸ written, still.2⟩
  | inr wrote =>
    have ⟨earlier, step, later, split, last, since⟩ := wrote
    exact Or.inr ⟨event :: earlier, step, later, by rw [split, List.cons_append], last, since⟩

/-- What is read from a cell is what is read from its last write. -/
theorem map {reads : ε → β → Prop} (read : α → β)
    (keeps : ∀ step ∈ rest, ∀ value, writes step value → reads step (read value))
    (cell : LastWrite idle writes rest before after) :
    LastWrite idle reads rest (read before) (read after) := by
  cases cell with
  | inl still => exact Or.inl ⟨congrArg read still.1, still.2⟩
  | inr wrote =>
    have ⟨earlier, step, later, split, written, since⟩ := wrote
    have among : step ∈ rest := split ▸ List.mem_append_right _ List.mem_cons_self
    exact Or.inr ⟨earlier, step, later, split, keeps step among after written, since⟩

end LastWrite

end VelaFlow.Machine
