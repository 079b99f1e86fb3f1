import VelaFlow.Foundation.Machine
import VelaFlow.Security.CircuitBreaker

/-!
# The circuit breaker of `security/resilience.py`

`call` holds the lock while it admits a call and again while it records what became of it, but not
while the function runs. So a call is two steps, and the steps of several calls interleave. A call
that was admitted before the circuit opened may still succeed while it is open. Such a success
clears the count of failures and leaves the circuit open, and the next half-open failure then finds
a count that is too small to open the circuit again.
-/
namespace VelaFlow.Security.Resilience

/-- The fields of a `CircuitBreaker`. The states are those of the other breaker. -/
structure CircuitBreaker where
  /-- `failure_threshold`. -/
  failureThreshold : Nat := 3
  /-- `reset_timeout`. -/
  resetTimeout : ℚ := 60
  /-- `_state`. -/
  state : CircuitState := .closed
  /-- `_failure_count`. -/
  failureCount : Nat := 0
  /-- `_last_failure_time`. -/
  lastFailureTime : ℚ := 0
  deriving DecidableEq, Repr

namespace CircuitBreaker

/-- The part of `call` before the function: whether the function is started. Otherwise the call
raises `CircuitOpenError`. -/
def enter (now : ℚ) (breaker : CircuitBreaker) : Bool × CircuitBreaker :=
  if breaker.state = .opened then
    if breaker.resetTimeout ≤ now - breaker.lastFailureTime then
      (true, { breaker with state := .halfOpen })
    else (false, breaker)
  else (true, breaker)

/-- `_record_failure`. -/
def recordFailure (now : ℚ) (breaker : CircuitBreaker) : CircuitBreaker :=
  let breaker := { breaker with failureCount := breaker.failureCount + 1, lastFailureTime := now }
  if breaker.failureThreshold ≤ breaker.failureCount then { breaker with state := .opened }
  else breaker

/-- `_record_success`. -/
def recordSuccess (breaker : CircuitBreaker) : CircuitBreaker :=
  let breaker := { breaker with failureCount := 0 }
  if breaker.state = .halfOpen then { breaker with state := .closed } else breaker

/-- A failure is counted, and opens the circuit when the count reaches the threshold. -/
theorem state_recordFailure (now : ℚ) (breaker : CircuitBreaker) :
    (breaker.recordFailure now).state =
      if breaker.failureThreshold ≤ breaker.failureCount + 1 then .opened else breaker.state := by
  unfold recordFailure
  by_cases reached : breaker.failureThreshold ≤ breaker.failureCount + 1
  · simp [reached]
  · simp [reached]

/-- A failure is counted and its time is kept. -/
theorem fields_recordFailure (now : ℚ) (breaker : CircuitBreaker) :
    (breaker.recordFailure now).failureCount = breaker.failureCount + 1 ∧
      (breaker.recordFailure now).lastFailureTime = now ∧
      (breaker.recordFailure now).failureThreshold = breaker.failureThreshold ∧
      (breaker.recordFailure now).resetTimeout = breaker.resetTimeout := by
  unfold recordFailure
  by_cases reached : breaker.failureThreshold ≤ breaker.failureCount + 1
  · simp [reached]
  · simp [reached]

/-- A success clears the count, and closes the circuit only when it is half-open. -/
theorem state_recordSuccess (breaker : CircuitBreaker) :
    breaker.recordSuccess.state =
      if breaker.state = .halfOpen then .closed else breaker.state := by
  unfold recordSuccess
  by_cases probing : breaker.state = .halfOpen
  · simp [probing]
  · simp [probing]

/-- A success clears the count and leaves the time of the last failure. -/
theorem fields_recordSuccess (breaker : CircuitBreaker) :
    breaker.recordSuccess.failureCount = 0 ∧
      breaker.recordSuccess.lastFailureTime = breaker.lastFailureTime ∧
      breaker.recordSuccess.failureThreshold = breaker.failureThreshold ∧
      breaker.recordSuccess.resetTimeout = breaker.resetTimeout := by
  unfold recordSuccess
  by_cases probing : breaker.state = .halfOpen
  · simp [probing]
  · simp [probing]

/-- Asking for a call changes at most the state. -/
theorem fields_admit (now : ℚ) (breaker : CircuitBreaker) :
    (breaker.enter now).2.failureCount = breaker.failureCount ∧
      (breaker.enter now).2.lastFailureTime = breaker.lastFailureTime ∧
      (breaker.enter now).2.failureThreshold = breaker.failureThreshold ∧
      (breaker.enter now).2.resetTimeout = breaker.resetTimeout := by
  unfold enter
  by_cases isOpen : breaker.state = .opened
  · by_cases elapsed : breaker.resetTimeout ≤ now - breaker.lastFailureTime
    · simp [isOpen, elapsed]
    · simp [isOpen, elapsed]
  · simp [isOpen]

/-- A call is started when the circuit is not open or the timeout has passed, and the circuit is
then not open. -/
theorem admit_cases (now : ℚ) (breaker : CircuitBreaker) :
    ((breaker.enter now).1 = true ∧ (breaker.enter now).2.state ≠ .opened ∧
      (breaker.state = .opened → breaker.resetTimeout ≤ now - breaker.lastFailureTime ∧
        (breaker.enter now).2.state = .halfOpen) ∧
      (breaker.state ≠ .opened → (breaker.enter now).2.state = breaker.state)) ∨
    ((breaker.enter now).1 = false ∧ breaker.state = .opened ∧ (breaker.enter now).2 = breaker) := by
  unfold enter
  by_cases isOpen : breaker.state = .opened
  · by_cases elapsed : breaker.resetTimeout ≤ now - breaker.lastFailureTime
    · simp [isOpen, elapsed]
    · simp [isOpen, elapsed]
  · simp [isOpen]

end CircuitBreaker

/-- A breaker with the calls whose functions are running, the last reading of the clock, and what
has been recorded: how many failures since the last success, and when the last failure was. -/
structure Session where
  /-- The breaker. -/
  breaker : CircuitBreaker
  /-- The functions that were started and have not ended. -/
  running : Nat := 0
  /-- The last reading of the clock. -/
  now : ℚ
  /-- The failures recorded since the last success. -/
  failures : Nat := 0
  /-- When a failure was last recorded, if one was. -/
  lastFailure : Option ℚ := none
  deriving DecidableEq, Repr

/-- A step of a call, with the reading of the clock it takes. -/
inductive Step where
  /-- A call asks to be admitted. -/
  | admission (time : ℚ)
  /-- The function of a call has raised. -/
  | failure (time : ℚ)
  /-- The function of a call has returned. -/
  | success (time : ℚ)
  deriving DecidableEq, Repr

/-- A new breaker. -/
def Session.initial (failureThreshold : Nat) (resetTimeout start : ℚ) : Session :=
  { breaker := { failureThreshold, resetTimeout }, now := start }

/-- One step of a call. The clock does not go back, and a function ends that was started. -/
def Session.step (session : Session) : Step → Option Session
  | .admission time =>
    if session.now ≤ time then
      some { session with
        breaker := (session.breaker.enter time).2
        running := if (session.breaker.enter time).1 then session.running + 1 else session.running
        now := time }
    else none
  | .failure time =>
    if session.now ≤ time ∧ 0 < session.running then
      some { session with
        breaker := session.breaker.recordFailure time
        running := session.running - 1
        now := time
        failures := session.failures + 1
        lastFailure := some time }
    else none
  | .success time =>
    if session.now ≤ time ∧ 0 < session.running then
      some { session with
        breaker := session.breaker.recordSuccess
        running := session.running - 1
        now := time
        failures := 0 }
    else none

/-- What is promised of a step: a failure of the half-open circuit opens it, and no function is
started while the circuit is open and its timeout since the last failure has not passed. -/
def Sound (session : Session) : Step → Prop
  | .admission time =>
    (session.breaker.enter time).1 = true →
      (session.breaker.enter time).2.state ≠ .opened ∧
      (session.breaker.state = .opened →
        ∀ last ∈ session.lastFailure, session.breaker.resetTimeout ≤ time - last)
  | .failure time =>
    session.breaker.state = .halfOpen → (session.breaker.recordFailure time).state = .opened
  | .success _ => True

/-- A failure of the half-open circuit is at least the threshold-th since the last success. -/
def Counted (session : Session) : Step → Prop
  | .failure _ =>
    session.breaker.state = .halfOpen → session.breaker.failureThreshold ≤ session.failures + 1
  | _ => True

/-- No function returns while the circuit is open. -/
def Prompt (session : Session) : Step → Prop
  | .success _ => session.breaker.state ≠ .opened
  | _ => True

/-- What relates the breaker to what has been recorded. -/
structure Accounted (session : Session) : Prop where
  /-- The breaker counts the failures since the last success. -/
  counted : session.breaker.failureCount = session.failures
  /-- The breaker keeps the time of the last failure. -/
  timed : ∀ last ∈ session.lastFailure, session.breaker.lastFailureTime = last

/-- A new breaker has counted nothing. -/
theorem accounted_initial (failureThreshold : Nat) (resetTimeout start : ℚ) :
    Accounted (.initial failureThreshold resetTimeout start) :=
  ⟨rfl, fun _ none => nomatch none⟩

/-- What a step leaves. -/
theorem step_cases {session next : Session} {event : Step}
    (moved : session.step event = some next) :
    (∃ time, event = .admission time ∧ next.breaker = (session.breaker.enter time).2 ∧
      next.failures = session.failures ∧ next.lastFailure = session.lastFailure) ∨
    (∃ time, event = .failure time ∧ next.breaker = session.breaker.recordFailure time ∧
      next.failures = session.failures + 1 ∧ next.lastFailure = some time) ∨
    ∃ time, event = .success time ∧ next.breaker = session.breaker.recordSuccess ∧
      next.failures = 0 ∧ next.lastFailure = session.lastFailure := by
  cases event with
  | admission time =>
    simp only [Session.step] at moved
    by_cases order : session.now ≤ time
    · rw [if_pos order] at moved
      rw [← Option.some.inj moved]
      exact Or.inl ⟨time, rfl, rfl, rfl, rfl⟩
    · rw [if_neg order] at moved
      cases moved
  | failure time =>
    simp only [Session.step] at moved
    by_cases real : session.now ≤ time ∧ 0 < session.running
    · rw [if_pos real] at moved
      rw [← Option.some.inj moved]
      exact Or.inr (Or.inl ⟨time, rfl, rfl, rfl, rfl⟩)
    · rw [if_neg real] at moved
      cases moved
  | success time =>
    simp only [Session.step] at moved
    by_cases real : session.now ≤ time ∧ 0 < session.running
    · rw [if_pos real] at moved
      rw [← Option.some.inj moved]
      exact Or.inr (Or.inr ⟨time, rfl, rfl, rfl, rfl⟩)
    · rw [if_neg real] at moved
      cases moved

/-- Every step keeps the account. -/
theorem Accounted.step {session next : Session} {event : Step} (accounted : Accounted session)
    (moved : session.step event = some next) : Accounted next := by
  have counted := accounted.counted
  rcases step_cases moved with ⟨time, -, breaker, failures, last⟩ |
    ⟨time, -, breaker, failures, last⟩ | ⟨time, -, breaker, failures, last⟩
  · have fields := session.breaker.fields_admit time
    refine ⟨by rw [breaker, failures, fields.1, counted], fun one inside => ?_⟩
    rw [breaker, fields.2.1]
    exact accounted.timed one (last ▸ inside)
  · have fields := session.breaker.fields_recordFailure time
    refine ⟨by rw [breaker, failures, fields.1, counted], fun one inside => ?_⟩
    rw [last] at inside
    rw [breaker, fields.2.1]
    exact Option.some.inj inside
  · have fields := session.breaker.fields_recordSuccess
    refine ⟨by rw [breaker, failures, fields.1], fun one inside => ?_⟩
    rw [breaker, fields.2.1]
    exact accounted.timed one (last ▸ inside)

/-- A step is as promised exactly when a half-open failure is counted far enough. -/
theorem sound_iff_counted {session : Session} (accounted : Accounted session) (event : Step) :
    Sound session event ↔ Counted session event := by
  cases event with
  | admission time =>
    refine iff_of_true ?_ trivial
    intro started
    rcases session.breaker.admit_cases time with ⟨-, shut, waited, -⟩ | ⟨refused, -, -⟩
    · refine ⟨shut, fun isOpen last inside => ?_⟩
      rw [← accounted.timed last inside]
      exact (waited isOpen).1
    · rw [refused] at started
      cases started
  | failure time =>
    simp only [Sound, Counted]
    have opens := session.breaker.state_recordFailure time
    rw [accounted.counted] at opens
    rw [opens]
    by_cases enough : session.breaker.failureThreshold ≤ session.failures + 1
    · simp [enough]
    · rw [if_neg enough]
      constructor
      · intro still probing
        have isOpen := still probing
        rw [probing] at isOpen
        cases isOpen
      · intro far probing
        exact absurd (far probing) enough
  | success time => exact Iff.rfl

/-- A circuit that is not closed has counted as many failures as the threshold. -/
def Armed (session : Session) : Prop :=
  session.breaker.state ≠ .closed → session.breaker.failureThreshold ≤ session.breaker.failureCount

/-- A circuit stays armed while no function returns when it is open. -/
theorem Armed.step {session next : Session} {event : Step} (armed : Armed session)
    (prompt : Prompt session event) (moved : session.step event = some next) : Armed next := by
  rcases step_cases moved with ⟨time, -, breaker, -, -⟩ | ⟨time, -, breaker, -, -⟩ |
    ⟨time, rfl, breaker, -, -⟩
  · have fields := session.breaker.fields_admit time
    unfold Armed
    rw [breaker, fields.1, fields.2.2.1]
    intro other
    apply armed
    intro closed
    rcases session.breaker.admit_cases time with ⟨-, -, -, same⟩ | ⟨-, isOpen, -⟩
    · exact other ((same (by simp [closed])).trans closed)
    · rw [isOpen] at closed
      cases closed
  · have fields := session.breaker.fields_recordFailure time
    have opens := session.breaker.state_recordFailure time
    unfold Armed
    rw [breaker, fields.1, fields.2.2.1, opens]
    intro other
    by_cases reached : session.breaker.failureThreshold ≤ session.breaker.failureCount + 1
    · exact reached
    · rw [if_neg reached] at other
      have before := armed other
      omega
  · have fields := session.breaker.fields_recordSuccess
    have closes := session.breaker.state_recordSuccess
    unfold Armed
    rw [breaker, closes]
    intro other
    refine absurd ?_ other
    cases state : session.breaker.state with
    | closed => rfl
    | opened => exact absurd state prompt
    | halfOpen => rfl

/-- However the steps of the calls interleave, they are all as promised exactly when every half-open
failure is at least the threshold-th since the last success. -/
theorem sound_run_iff (failureThreshold : Nat) (resetTimeout start : ℚ) (events : List Step)
    (final : Session)
    (ran : Machine.run Session.step (.initial failureThreshold resetTimeout start) events =
      some final) :
    Machine.Meets Session.step Sound (.initial failureThreshold resetTimeout start) events ↔
      Machine.Meets Session.step Counted (.initial failureThreshold resetTimeout start) events := by
  have keeps : ∀ session event next, Accounted session → Session.step session event = some next →
      Accounted next := fun session event next accounted moved => accounted.step moved
  have same : ∀ session event next, Accounted session → Session.step session event = some next →
      (Sound session event ↔ Counted session event) :=
    fun session event next accounted _ => sound_iff_counted accounted event
  exact Machine.meets_iff_of_invariant Accounted keeps same
    (accounted_initial failureThreshold resetTimeout start) ran

/-- In particular they are when no function returns while the circuit is open, as when there is only
one call at a time. -/
theorem sound_of_prompt {failureThreshold : Nat} {resetTimeout start : ℚ} {events : List Step}
    (prompt : Machine.Meets Session.step Prompt (.initial failureThreshold resetTimeout start)
      events) :
    Machine.Meets Session.step Sound (.initial failureThreshold resetTimeout start) events := by
  apply Machine.meets_of_invariant (fun session => Accounted session ∧ Armed session) _ _ _ prompt
  · rintro session event next ⟨accounted, armed⟩ still moved
    exact ⟨accounted.step moved, armed.step still moved⟩
  · rintro session event ⟨accounted, armed⟩ -
    rw [sound_iff_counted accounted]
    cases event with
    | failure time =>
      intro probing
      have enough := armed (by simp [probing])
      rw [accounted.counted] at enough
      omega
    | _ => trivial
  · exact ⟨accounted_initial _ _ _, fun other => absurd rfl other⟩

section Sample

/-- Two calls fail, a third that was admitted with them returns, and a probe is admitted after the
timeout. -/
def lateReturn : List Step :=
  [.admission 0, .admission 0, .admission 0, .failure 1, .failure 2, .success 3, .admission 12]

/-- What that leaves of a breaker that opens at the second failure for ten seconds. -/
def probing : Session :=
  { breaker :=
      { failureThreshold := 2, resetTimeout := 10, state := .halfOpen, failureCount := 0
        lastFailureTime := 2 }
    running := 1, now := 12, lastFailure := some 2 }

/-- The steps leave it so. -/
theorem run_lateReturn : Machine.run Session.step (.initial 2 10 0) lateReturn = some probing := by
  decide +kernel

/-- When the probe fails the circuit stays half-open. -/
theorem probe_failure_ignored :
    (∃ final, Machine.run Session.step (.initial 2 10 0) (lateReturn ++ [.failure 13]) =
        some final ∧ final.breaker.state = .halfOpen) ∧
      ¬ Machine.Meets Session.step Sound (.initial 2 10 0) (lateReturn ++ [.failure 13]) := by
  constructor
  · rw [Machine.run_append, run_lateReturn]
    exact ⟨_, rfl, by decide +kernel⟩
  · rw [Machine.meets_append_iff]
    rintro ⟨-, last⟩
    have sound : Sound probing (.failure 13) := (last probing run_lateReturn).1
    exact absurd (sound rfl) (by decide +kernel)

/-- The equivalence of a breaker that two failures open and a probe reopens. -/
theorem sound_run_iff_reopened :
    let events := [Step.admission 0, .admission 0, .failure 1, .failure 2, .admission 12,
      .failure 13]
    Machine.Meets Session.step Sound (.initial 2 10 0) events ↔
      Machine.Meets Session.step Counted (.initial 2 10 0) events :=
  sound_run_iff 2 10 0 _
    { breaker :=
        { failureThreshold := 2, resetTimeout := 10, state := .opened, failureCount := 3
          lastFailureTime := 13 }
      now := 13, failures := 3, lastFailure := some 13 } (by decide +kernel)

end Sample

end VelaFlow.Security.Resilience
