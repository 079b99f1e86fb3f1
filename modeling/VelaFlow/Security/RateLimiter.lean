import Mathlib.Algebra.Order.Ring.Rat
import Mathlib.Data.List.Induction
import Mathlib.Logic.Function.Basic
import Mathlib.Tactic.Linarith

/-!
# The rate limiter of `security/resilience.py`

A sliding window of request times for each key. Both methods hold the lock for their whole body.
Readings of `time.monotonic()` are rational seconds, and a key without requests has none.

The limiter forgets requests that have left their window, and now and then whole keys. The history
of its admissions forgets nothing. Both have the same requests in every window that is still to
come, so each answer can be read off the history of its own key alone: neither a sweep nor the
traffic of another key has a part in it.
-/
namespace VelaFlow.Security

/-- The fields of a `RateLimiter`. -/
structure RateLimiter where
  /-- `_max_requests`. -/
  maxRequests : Nat
  /-- `_window`. -/
  window : ℚ
  /-- `_requests`. -/
  requests : String → List ℚ := fun _ => []
  /-- `_last_prune`. -/
  lastPrune : ℚ := 0

namespace RateLimiter

/-- `_prune_interval`. -/
def pruneInterval (limiter : RateLimiter) : ℚ := limiter.window * 5

/-- `_prune_idle_keys`. -/
def pruneIdleKeys (limiter : RateLimiter) (now : ℚ) : RateLimiter :=
  if now - limiter.lastPrune < limiter.pruneInterval then limiter
  else
    { limiter with
      lastPrune := now
      requests := fun key =>
        match (limiter.requests key).getLast? with
        | none => []
        | some last =>
          if last ≤ now - limiter.window then [] else limiter.requests key }

/-- The requests of a key in the window that ends now. -/
def active (limiter : RateLimiter) (key : String) (now : ℚ) : List ℚ :=
  (limiter.requests key).filter fun time => decide (now - limiter.window < time)

/-- `allow`. -/
def allow (limiter : RateLimiter) (key : String) (now : ℚ) : Bool × RateLimiter :=
  let limiter := limiter.pruneIdleKeys now
  let kept := limiter.active key now
  if limiter.maxRequests ≤ kept.length then
    (false, { limiter with requests := Function.update limiter.requests key kept })
  else
    (true, { limiter with requests := Function.update limiter.requests key (kept ++ [now]) })

/-- `remaining`. -/
def remaining (limiter : RateLimiter) (key : String) (now : ℚ) : Nat :=
  limiter.maxRequests - (limiter.active key now).length

/-- A call of a public method. -/
inductive Call where
  /-- `allow(key)`. -/
  | allow (key : String)
  /-- `remaining(key)`. -/
  | remaining (key : String)
  deriving DecidableEq, Repr

/-- The key of a call. -/
def Call.key : Call → String
  | allow key | remaining key => key

/-- What a call returns. -/
inductive Answer where
  /-- What `allow` returns. -/
  | allowed (permitted : Bool)
  /-- What `remaining` returns. -/
  | left (count : Nat)
  deriving DecidableEq, Repr

/-- A limiter with the times at which it has admitted a request of each key. -/
structure Watched where
  /-- The limiter. -/
  limiter : RateLimiter
  /-- The times at which `allow` returned `True` for a key, in order. -/
  admitted : String → List ℚ := fun _ => []

namespace Watched

/-- What a call at a time returns. -/
def answer (watched : Watched) (now : ℚ) : Call → Answer
  | .allow key => .allowed (watched.limiter.allow key now).1
  | .remaining key => .left (watched.limiter.remaining key now)

/-- What a call at a time leaves. -/
def step (watched : Watched) (event : Call × ℚ) : Watched :=
  match event.1 with
  | .allow key =>
    { limiter := (watched.limiter.allow key event.2).2
      admitted :=
        if (watched.limiter.allow key event.2).1 then
          Function.update watched.admitted key (watched.admitted key ++ [event.2])
        else watched.admitted }
  | .remaining _ => watched

/-- What calls leave, one after the other. -/
def after (watched : Watched) (events : List (Call × ℚ)) : Watched := events.foldl step watched

/-- One more call. -/
theorem after_concat (watched : Watched) (events : List (Call × ℚ)) (event : Call × ℚ) :
    watched.after (events ++ [event]) = (watched.after events).step event := by
  simp [after]

end Watched

/-- A new limiter, but for the time of its last sweep. -/
def fresh (maxRequests : Nat) (window lastPrune : ℚ) : Watched :=
  { limiter := { maxRequests, window, lastPrune } }

/-- The times of a list that lie in the window that ends at a time. -/
def inWindow (window : ℚ) (times : List ℚ) (now : ℚ) : List ℚ :=
  times.filter fun time => decide (now - window < time ∧ time ≤ now)

/-- What a call is to return when the key has been admitted at these times. -/
def expected (maxRequests : Nat) (window : ℚ) (times : List ℚ) (now : ℚ) : Call → Answer
  | .allow _ => .allowed (decide ((inWindow window times now).length < maxRequests))
  | .remaining _ => .left (maxRequests - (inWindow window times now).length)

/-- Events do not go back in time. -/
def Ordered (events : List (Call × ℚ)) : Prop :=
  events.Pairwise fun earlier later => earlier.2 ≤ later.2

section Windows

variable {window : ℚ}

/-- Of what is already there, a later window has what is left of an earlier one. -/
theorem inWindow_later {times : List ℚ} {now later : ℚ} (past : ∀ time ∈ times, time ≤ now)
    (order : now ≤ later) :
    inWindow window times later =
      (inWindow window times now).filter fun time => decide (later - window < time) := by
  unfold inWindow
  rw [List.filter_filter]
  apply List.filter_congr
  intro time inside
  have before : time ≤ now := past time inside
  have same : (later - window < time ∧ time ≤ later) ↔
      (later - window < time ∧ now - window < time ∧ time ≤ now) := by
    constructor
    · rintro ⟨recent, -⟩
      exact ⟨recent, by linarith, before⟩
    · rintro ⟨recent, -, -⟩
      exact ⟨recent, by linarith⟩
  simp only [same, Bool.decide_and]

/-- A later window has no more of what is already there. -/
theorem inWindow_length_le {times : List ℚ} {now later : ℚ} (past : ∀ time ∈ times, time ≤ now)
    (order : now ≤ later) :
    (inWindow window times later).length ≤ (inWindow window times now).length := by
  rw [inWindow_later past order]
  exact List.length_filter_le _ _

/-- Nothing of what has left a window is in a later one. -/
theorem inWindow_eq_nil {times : List ℚ} {now later : ℚ}
    (expired : ∀ time ∈ times, time ≤ now - window) (order : now ≤ later) :
    inWindow window times later = [] := by
  unfold inWindow
  rw [List.filter_eq_nil_iff]
  intro time inside
  have before : time ≤ now - window := expired time inside
  have out : ¬ (later - window < time ∧ time ≤ later) := by
    rintro ⟨recent, -⟩
    linarith
  simp [out]

/-- A window of what comes to an end is a window of both parts. -/
theorem inWindow_append (first second : List ℚ) (now : ℚ) :
    inWindow window (first ++ second) now =
      inWindow window first now ++ inWindow window second now := List.filter_append ..

end Windows

/-- What relates a limiter to the history of its admissions, at a time. -/
structure Kept (maxRequests : Nat) (window : ℚ) (watched : Watched) (now : ℚ) : Prop where
  /-- The limit is the one it was made with. -/
  limit : watched.limiter.maxRequests = maxRequests
  /-- So is the window. -/
  width : watched.limiter.window = window
  /-- From now on every window has the same requests as the history. -/
  same : ∀ key later, now ≤ later →
    inWindow window (watched.limiter.requests key) later =
      inWindow window (watched.admitted key) later
  /-- The requests of a key are in order. -/
  ordered : ∀ key, (watched.limiter.requests key).Pairwise (· ≤ ·)
  /-- The requests are past. -/
  recent : ∀ key, ∀ time ∈ watched.limiter.requests key, time ≤ now
  /-- The admissions are past. -/
  past : ∀ key, ∀ time ∈ watched.admitted key, time ≤ now
  /-- No window has more admissions than are allowed. -/
  bounded : ∀ key last, (inWindow window (watched.admitted key) last).length ≤ maxRequests

section Steps

variable {maxRequests : Nat} {window : ℚ} {watched : Watched} {now time : ℚ}

/-- A new limiter has admitted nothing. -/
theorem kept_fresh (maxRequests : Nat) (window lastPrune now : ℚ) :
    Kept maxRequests window (fresh maxRequests window lastPrune) now where
  limit := rfl
  width := rfl
  same := fun _ _ _ => rfl
  ordered := fun _ => List.Pairwise.nil
  recent := fun _ _ inside => absurd inside List.not_mem_nil
  past := fun _ _ inside => absurd inside List.not_mem_nil
  bounded := fun _ _ => Nat.zero_le _

/-- Time passes. -/
theorem Kept.later (kept : Kept maxRequests window watched now) (order : now ≤ time) :
    Kept maxRequests window watched time where
  limit := kept.limit
  width := kept.width
  same := fun key later after => kept.same key later (order.trans after)
  ordered := kept.ordered
  recent := fun key one inside => (kept.recent key one inside).trans order
  past := fun key one inside => (kept.past key one inside).trans order
  bounded := kept.bounded

/-- What a sweep leaves of a key: nothing when its last request has left the window. -/
theorem requests_pruneIdleKeys (limiter : RateLimiter) (now : ℚ) (key : String) :
    (limiter.pruneIdleKeys now).requests key = limiter.requests key ∨
      (limiter.pruneIdleKeys now).requests key = [] ∧
        ∀ last ∈ (limiter.requests key).getLast?, last ≤ now - limiter.window := by
  unfold pruneIdleKeys
  by_cases soon : now - limiter.lastPrune < limiter.pruneInterval
  · rw [if_pos soon]
    exact Or.inl rfl
  · rw [if_neg soon]
    cases final : (limiter.requests key).getLast? with
    | none => exact Or.inr ⟨by simp [final], fun last inside => nomatch inside⟩
    | some last =>
      by_cases expired : last ≤ now - limiter.window
      · refine Or.inr ⟨by simp [final, expired], fun one inside => ?_⟩
        rw [← Option.some.inj inside]
        exact expired
      · exact Or.inl (by simp [final, expired])

/-- A sweep takes no request of a window that is still to come. -/
theorem Kept.prune (kept : Kept maxRequests window watched now) :
    Kept maxRequests window { watched with limiter := watched.limiter.pruneIdleKeys now } now := by
  have limits : (watched.limiter.pruneIdleKeys now).maxRequests = maxRequests ∧
      (watched.limiter.pruneIdleKeys now).window = window := by
    unfold pruneIdleKeys
    by_cases soon : now - watched.limiter.lastPrune < watched.limiter.pruneInterval
    · rw [if_pos soon]
      exact ⟨kept.limit, kept.width⟩
    · rw [if_neg soon]
      exact ⟨kept.limit, kept.width⟩
  have each : ∀ key, (watched.limiter.pruneIdleKeys now).requests key =
      watched.limiter.requests key ∨
      (watched.limiter.pruneIdleKeys now).requests key = [] ∧
        ∀ one ∈ watched.limiter.requests key, one ≤ now - window := by
    intro key
    rcases requests_pruneIdleKeys watched.limiter now key with same | ⟨empty, idle⟩
    · exact Or.inl same
    · refine Or.inr ⟨empty, fun one inside => ?_⟩
      rw [kept.width] at idle
      cases final : (watched.limiter.requests key).getLast? with
      | none =>
        rw [List.getLast?_eq_none_iff] at final
        rw [final] at inside
        exact absurd inside List.not_mem_nil
      | some last =>
        have expired : last ≤ now - window := idle last final
        have order := kept.ordered key
        obtain ⟨before, shape⟩ := List.getLast?_eq_some_iff.mp final
        rw [shape, List.pairwise_append] at order
        rw [shape, List.mem_append] at inside
        rcases inside with earlier | is
        · exact (order.2.2 one earlier last List.mem_cons_self).trans expired
        · rw [List.mem_singleton.mp is]
          exact expired
  refine ⟨limits.1, limits.2, ?_, ?_, ?_, kept.past, kept.bounded⟩
  · intro key later after
    rw [← kept.same key later after]
    rcases each key with same | ⟨empty, expired⟩
    · dsimp only
      rw [same]
    · dsimp only
      rw [empty, inWindow_eq_nil expired after]
      rfl
  · intro key
    rcases each key with same | ⟨empty, -⟩
    · dsimp only
      rw [same]
      exact kept.ordered key
    · dsimp only
      rw [empty]
      exact List.Pairwise.nil
  · intro key one inside
    dsimp only at inside
    rcases each key with same | ⟨empty, -⟩
    · rw [same] at inside
      exact kept.recent key one inside
    · rw [empty] at inside
      exact absurd inside List.not_mem_nil

/-- The requests that a call counts are the admissions in the window that ends then. -/
theorem Kept.active (kept : Kept maxRequests window watched now) (key : String) :
    watched.limiter.active key now = inWindow window (watched.admitted key) now := by
  rw [← kept.same key now le_rfl]
  unfold RateLimiter.active inWindow
  rw [kept.width]
  apply List.filter_congr
  intro time inside
  simp [kept.recent key time inside]

/-- A window of a window is what the later one has. -/
theorem inWindow_inWindow {times : List ℚ} {now later : ℚ} (past : ∀ time ∈ times, time ≤ now)
    (order : now ≤ later) :
    inWindow window (inWindow window times now) later = inWindow window times later := by
  have still : ∀ time ∈ inWindow window times now, time ≤ now := by
    intro time inside
    exact past time (List.mem_filter.mp inside).1
  have twice : inWindow window (inWindow window times now) now = inWindow window times now := by
    unfold inWindow
    rw [List.filter_filter]
    simp
  rw [inWindow_later still order, twice, ← inWindow_later past order]

/-- A call keeps what it counts of its key, and what it admits is also entered in the history. -/
theorem Kept.record (kept : Kept maxRequests window watched now) (key : String) {more : List ℚ}
    (here : ∀ one ∈ more, one = now)
    (room : (inWindow window (watched.admitted key) now).length + more.length ≤ maxRequests) :
    Kept maxRequests window
      { limiter := { watched.limiter with
          requests := Function.update watched.limiter.requests key
            (watched.limiter.active key now ++ more) }
        admitted := Function.update watched.admitted key (watched.admitted key ++ more) } now := by
  have counted := kept.active key
  have sub : (watched.limiter.active key now).Sublist (watched.limiter.requests key) :=
    List.filter_sublist
  have atNow : ∀ one ∈ more, one ≤ now := fun one inside => le_of_eq (here one inside)
  refine ⟨kept.limit, kept.width, ?_, ?_, ?_, ?_, ?_⟩
  · intro other later after
    by_cases same : other = key
    · subst same
      dsimp only
      rw [Function.update_self, Function.update_self, inWindow_append, inWindow_append, counted,
        inWindow_inWindow (kept.past other) after]
    · dsimp only
      rw [Function.update_of_ne same, Function.update_of_ne same]
      exact kept.same other later after
  · intro other
    by_cases same : other = key
    · subst same
      dsimp only
      rw [Function.update_self, List.pairwise_append]
      refine ⟨(kept.ordered other).sublist sub, ?_, ?_⟩
      · apply List.pairwise_of_forall_mem_list
        intro one first two second
        rw [here one first, here two second]
      · intro one first two second
        rw [here two second]
        exact kept.recent other one (sub.subset first)
    · dsimp only
      rw [Function.update_of_ne same]
      exact kept.ordered other
  · intro other one inside
    by_cases same : other = key
    · subst same
      dsimp only at inside
      rw [Function.update_self, List.mem_append] at inside
      exact inside.elim (fun first => kept.recent other one (sub.subset first)) (atNow one)
    · dsimp only at inside
      rw [Function.update_of_ne same] at inside
      exact kept.recent other one inside
  · intro other one inside
    by_cases same : other = key
    · subst same
      dsimp only at inside
      rw [Function.update_self, List.mem_append] at inside
      exact inside.elim (kept.past other one) (atNow one)
    · dsimp only at inside
      rw [Function.update_of_ne same] at inside
      exact kept.past other one inside
  · intro other last
    by_cases same : other = key
    · subst same
      dsimp only
      rw [Function.update_self, inWindow_append, List.length_append]
      have before := kept.bounded other last
      by_cases reached : now ≤ last
      · have fewer : (inWindow window (watched.admitted other) last).length ≤
            (inWindow window (watched.admitted other) now).length :=
          inWindow_length_le (kept.past other) reached
        have part : (inWindow window more last).length ≤ more.length := List.length_filter_le _ _
        omega
      · have none : inWindow window more last = [] := by
          unfold inWindow
          rw [List.filter_eq_nil_iff]
          intro one inside
          simp [here one inside, reached]
        rw [none]
        exact before
    · dsimp only
      rw [Function.update_of_ne same]
      exact kept.bounded other last

/-- What `allow` answers, and what it leaves. -/
theorem Kept.allow (kept : Kept maxRequests window watched now) (order : now ≤ time)
    (key : String) :
    (watched.limiter.allow key time).1 =
        decide ((inWindow window (watched.admitted key) time).length < maxRequests) ∧
      Kept maxRequests window (watched.step (.allow key, time)) time := by
  have swept := (kept.later order).prune
  have counted := swept.active key
  have limit := swept.limit
  dsimp only at counted limit
  by_cases full : maxRequests ≤ (inWindow window (watched.admitted key) time).length
  · have refused : watched.limiter.allow key time = (false,
        { watched.limiter.pruneIdleKeys time with
          requests := Function.update (watched.limiter.pruneIdleKeys time).requests key
            ((watched.limiter.pruneIdleKeys time).active key time) }) := by
      unfold RateLimiter.allow
      dsimp only
      rw [if_pos (by rw [limit, counted]; exact full)]
    refine ⟨by simp [refused, full], ?_⟩
    have nothing : ∀ one ∈ ([] : List ℚ), one = time := by simp
    have records := swept.record key nothing (by simpa using swept.bounded key time)
    simp only [List.append_nil, Function.update_eq_self] at records
    unfold Watched.step
    simp only [refused, Bool.false_eq_true, if_false]
    exact records
  · have admitted : watched.limiter.allow key time = (true,
        { watched.limiter.pruneIdleKeys time with
          requests := Function.update (watched.limiter.pruneIdleKeys time).requests key
            ((watched.limiter.pruneIdleKeys time).active key time ++ [time]) }) := by
      unfold RateLimiter.allow
      dsimp only
      rw [if_neg (by rw [limit, counted]; exact full)]
    have room : (inWindow window (watched.admitted key) time).length + [time].length ≤
        maxRequests := by
      simp only [List.length_singleton]
      omega
    refine ⟨by simp [admitted, not_le.mp full], ?_⟩
    have records := swept.record key (fun one inside => List.mem_singleton.mp inside) room
    unfold Watched.step
    simp only [admitted, if_true]
    exact records

/-- Every call answers by the history, and keeps the limiter and the history together. -/
theorem Kept.step (kept : Kept maxRequests window watched now) (order : now ≤ time)
    (call : Call) :
    watched.answer time call =
        expected maxRequests window (watched.admitted call.key) time call ∧
      Kept maxRequests window (watched.step (call, time)) time := by
  cases call with
  | allow key =>
    have allows := kept.allow order key
    exact ⟨congrArg Answer.allowed allows.1, allows.2⟩
  | remaining key =>
    have later := kept.later order
    refine ⟨?_, later⟩
    show Answer.left _ = Answer.left _
    unfold RateLimiter.remaining
    rw [later.active key, later.limit]
    rfl

end Steps

section Runs

variable {maxRequests : Nat} {window lastPrune : ℚ}

/-- A run keeps the limiter and the history together. -/
theorem kept_after (events : List (Call × ℚ)) (ordered : Ordered events) {now : ℚ}
    (past : ∀ event ∈ events, event.2 ≤ now) :
    Kept maxRequests window ((fresh maxRequests window lastPrune).after events) now := by
  induction events using List.reverseRecOn generalizing now with
  | nil => exact kept_fresh maxRequests window lastPrune now
  | append_singleton earlier event ih =>
    have parts := List.pairwise_append.mp ordered
    have before : ∀ one ∈ earlier, one.2 ≤ event.2 :=
      fun one inside => parts.2.2 one inside event List.mem_cons_self
    have kept := ih parts.1 before
    rw [Watched.after_concat]
    have stepped := (kept.step le_rfl event.1).2
    exact stepped.later (past event (List.mem_append_right _ List.mem_cons_self))

/-- A call of another key leaves the history of a key alone. -/
theorem Watched.admitted_step_of_ne (watched : Watched) (event : Call × ℚ) {key : String}
    (other : event.1.key ≠ key) : (watched.step event).admitted key = watched.admitted key := by
  obtain ⟨call, time⟩ := event
  cases call with
  | remaining one => rfl
  | allow one =>
    have apart : key ≠ one := fun same => other same.symm
    unfold Watched.step
    by_cases permitted : (watched.limiter.allow one time).1 = true
    · simp only [permitted, if_true]
      exact Function.update_of_ne apart _ _
    · simp only [permitted, Bool.false_eq_true, if_false]

/-- A call of a key does the same to two histories of the key that are the same. -/
theorem Kept.admitted_step {watched other : Watched} {now : ℚ}
    (kept : Kept maxRequests window watched now) (keptOther : Kept maxRequests window other now)
    (call : Call) (same : watched.admitted call.key = other.admitted call.key) :
    (watched.step (call, now)).admitted call.key = (other.step (call, now)).admitted call.key := by
  cases call with
  | remaining key => exact same
  | allow key =>
    have here : watched.admitted key = other.admitted key := same
    have one := (kept.allow le_rfl key).1
    have two := (keptOther.allow le_rfl key).1
    have alike : (watched.limiter.allow key now).1 = (other.limiter.allow key now).1 := by
      rw [one, two, here]
    unfold Watched.step Call.key
    dsimp only
    rw [alike]
    by_cases permitted : (other.limiter.allow key now).1 = true
    · rw [if_pos permitted, if_pos permitted, Function.update_self, Function.update_self, here]
    · rw [if_neg permitted, if_neg permitted]
      exact here

/-- The history of a key is that of its own calls, whenever the limiter was last swept. -/
theorem admitted_after (events : List (Call × ℚ)) (ordered : Ordered events) (key : String)
    (other : ℚ) :
    ((fresh maxRequests window lastPrune).after events).admitted key =
      ((fresh maxRequests window other).after
        (events.filter fun event => decide (event.1.key = key))).admitted key := by
  induction events using List.reverseRecOn with
  | nil => rfl
  | append_singleton earlier event ih =>
    have parts := List.pairwise_append.mp ordered
    have before : ∀ one ∈ earlier, one.2 ≤ event.2 :=
      fun one inside => parts.2.2 one inside event List.mem_cons_self
    have same := ih parts.1
    rw [Watched.after_concat, List.filter_append]
    by_cases own : event.1.key = key
    · subst own
      have kept := @kept_after maxRequests window lastPrune earlier parts.1 event.2 before
      have keptOther := @kept_after maxRequests window other
        (earlier.filter fun one => decide (one.1.key = event.1.key))
        (parts.1.sublist List.filter_sublist) event.2
        (fun one inside => before one (List.mem_filter.mp inside).1)
      simp only [List.filter_cons, decide_true, if_true, List.filter_nil]
      rw [Watched.after_concat]
      exact kept.admitted_step keptOther event.1 same
    · simp only [List.filter_cons, own, decide_false, Bool.false_eq_true, if_false,
        List.filter_nil, List.append_nil]
      rw [Watched.admitted_step_of_ne _ event own]
      exact same

/-- In every run of calls, each call answers by the admissions of its key in the window that ends
then, no window has more of them than are allowed, and the answer is the one that the calls of the
key would get alone, however the limiter is swept. -/
theorem answers_exact (events : List (Call × ℚ)) (call : Call) (now : ℚ)
    (ordered : Ordered (events ++ [(call, now)])) :
    let watched := (fresh maxRequests window 0).after events
    watched.answer now call =
        expected maxRequests window (watched.admitted call.key) now call ∧
      (∀ key last, (inWindow window (watched.admitted key) last).length ≤ maxRequests) ∧
      ∀ swept, watched.answer now call =
        ((fresh maxRequests window swept).after
          (events.filter fun event => decide (event.1.key = call.key))).answer now call := by
  intro watched
  have parts := List.pairwise_append.mp ordered
  have before : ∀ one ∈ events, one.2 ≤ now :=
    fun one inside => parts.2.2 one inside (call, now) List.mem_cons_self
  have kept : Kept maxRequests window watched now := kept_after events parts.1 before
  have answered := (kept.step le_rfl call).1
  refine ⟨answered, kept.bounded, fun swept => ?_⟩
  have keptAlone := @kept_after maxRequests window swept
    (events.filter fun event => decide (event.1.key = call.key))
    (parts.1.sublist List.filter_sublist) now
    (fun one inside => before one (List.mem_filter.mp inside).1)
  have same := @admitted_after maxRequests window 0 events parts.1 call.key swept
  rw [answered, (keptAlone.step le_rfl call).1]
  exact congrArg (fun times => expected maxRequests window times now call) same

/-- Two requests are admitted of a key in a minute, and one more a minute after the first. -/
theorem answers_exact_third :
    let events := [(Call.allow "a", (0 : ℚ)), (.allow "b", 1), (.allow "a", 1), (.allow "a", 2)]
    let watched := (fresh 2 60 0).after events
    watched.answer 60 (.allow "a") = expected 2 60 (watched.admitted "a") 60 (.allow "a") ∧
      (∀ key last, (inWindow 60 (watched.admitted key) last).length ≤ 2) ∧
      ∀ swept, watched.answer 60 (.allow "a") =
        ((fresh 2 60 swept).after
          (events.filter fun event => decide (event.1.key = "a"))).answer 60 (.allow "a") :=
  answers_exact _ _ 60 (by simp [Ordered]; norm_num)

end Runs

end RateLimiter

end VelaFlow.Security
