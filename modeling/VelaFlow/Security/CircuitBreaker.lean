import Mathlib.Data.Rat.Defs
import Mathlib.Algebra.Order.Ring.Rat
import Mathlib.Tactic.Linarith

/-!
# The circuit breaker of `security/circuit_breaker.py`

Every method of the breaker holds its lock for its whole body, so each is one function of the
breaker's fields and of the reading of `time.monotonic()` it takes. Readings are rational
seconds. The step lemmas at the end say what each method can do to the three states; the
protocol and its clients use these and never unfold a method.
-/
namespace VelaFlow.Security

/-- `CircuitState`. -/
inductive CircuitState where
  /-- Normal operation. -/
  | closed
  /-- Failures exceeded the threshold, calls are rejected. -/
  | opened
  /-- Testing whether the service recovered. -/
  | halfOpen
  deriving DecidableEq, Repr

/-- `CircuitBreakerConfig`, with the shipped defaults. -/
structure CircuitBreakerConfig where
  /-- Failures before opening. -/
  failureThreshold : Nat := 5
  /-- Seconds before trying half-open. -/
  recoveryTimeout : ℚ := 60
  /-- Calls allowed in the half-open state. -/
  halfOpenMaxCalls : Nat := 1
  /-- Successes to close from half-open. -/
  successThreshold : Nat := 2
  deriving DecidableEq, Repr

/-- The mutable fields of a `CircuitBreaker`, as its constructor sets them. -/
structure CircuitBreaker where
  /-- `_state`. -/
  state : CircuitState := .closed
  /-- `_failure_count`. -/
  failureCount : Nat := 0
  /-- `_success_count`. -/
  successCount : Nat := 0
  /-- `_last_failure_time`. -/
  lastFailureTime : ℚ := 0
  /-- `_half_open_calls`. -/
  halfOpenCalls : Nat := 0
  deriving DecidableEq, Repr

namespace CircuitBreaker

variable (config : CircuitBreakerConfig)

/-- `_check_recovery`: an open breaker whose timeout has elapsed becomes half-open. -/
def checkRecovery (now : ℚ) (breaker : CircuitBreaker) : CircuitBreaker :=
  if breaker.state ≠ .opened then breaker
  else if config.recoveryTimeout ≤ now - breaker.lastFailureTime then
    { breaker with state := .halfOpen, halfOpenCalls := 0, successCount := 0 }
  else breaker

/-- `can_execute`: whether a call should be attempted. -/
def canExecute (now : ℚ) (breaker : CircuitBreaker) : Bool × CircuitBreaker :=
  let breaker := checkRecovery config now breaker
  match breaker.state with
  | .closed => (true, breaker)
  | .halfOpen =>
    if breaker.halfOpenCalls < config.halfOpenMaxCalls then
      (true, { breaker with halfOpenCalls := breaker.halfOpenCalls + 1 })
    else (false, breaker)
  | .opened => (false, breaker)

/-- `record_success`. -/
def recordSuccess (breaker : CircuitBreaker) : CircuitBreaker :=
  if breaker.state = .halfOpen then
    let breaker := { breaker with successCount := breaker.successCount + 1 }
    if config.successThreshold ≤ breaker.successCount then
      { breaker with state := .closed, failureCount := 0, successCount := 0 }
    else breaker
  else { breaker with failureCount := 0 }

/-- `record_failure`. -/
def recordFailure (now : ℚ) (breaker : CircuitBreaker) : CircuitBreaker :=
  let breaker := { breaker with failureCount := breaker.failureCount + 1, lastFailureTime := now }
  if breaker.state = .halfOpen then
    { breaker with state := .opened, halfOpenCalls := 0, successCount := 0 }
  else if config.failureThreshold ≤ breaker.failureCount then { breaker with state := .opened }
  else breaker

/-- The `state` property; `get_status` touches the breaker in the same way. -/
def readState (now : ℚ) (breaker : CircuitBreaker) : CircuitState × CircuitBreaker :=
  let breaker := checkRecovery config now breaker
  (breaker.state, breaker)

variable {config}

/-- Only an open breaker is changed by a recovery check. -/
theorem checkRecovery_of_ne_opened {now : ℚ} {breaker : CircuitBreaker}
    (other : breaker.state ≠ .opened) : checkRecovery config now breaker = breaker :=
  if_pos other

/-- An open breaker whose timeout has elapsed starts a fresh half-open phase. -/
theorem checkRecovery_of_elapsed {now : ℚ} {breaker : CircuitBreaker}
    (isOpen : breaker.state = .opened)
    (elapsed : config.recoveryTimeout ≤ now - breaker.lastFailureTime) :
    checkRecovery config now breaker =
      { breaker with state := .halfOpen, halfOpenCalls := 0, successCount := 0 } := by
  simp [checkRecovery, isOpen, elapsed]

/-- An open breaker whose timeout runs is left alone. -/
theorem checkRecovery_of_waiting {now : ℚ} {breaker : CircuitBreaker}
    (waiting : now - breaker.lastFailureTime < config.recoveryTimeout) :
    checkRecovery config now breaker = breaker := by
  simp [checkRecovery, not_le.mpr waiting]

/-- A closed breaker permits every call and keeps no count of it. -/
theorem canExecute_closed {breaker : CircuitBreaker} (now : ℚ) (isClosed : breaker.state = .closed) :
    canExecute config now breaker = (true, breaker) := by
  simp [canExecute, checkRecovery, isClosed]

/-- A half-open breaker permits a probe, and counts it, while it has probes left. -/
theorem canExecute_halfOpen {breaker : CircuitBreaker} (now : ℚ)
    (probing : breaker.state = .halfOpen) :
    canExecute config now breaker =
      if breaker.halfOpenCalls < config.halfOpenMaxCalls then
        (true, { breaker with halfOpenCalls := breaker.halfOpenCalls + 1 })
      else (false, breaker) := by
  simp [canExecute, checkRecovery, probing]

/-- An open breaker whose timeout runs refuses and does not move. -/
theorem canExecute_waiting {breaker : CircuitBreaker} {now : ℚ} (isOpen : breaker.state = .opened)
    (waiting : now - breaker.lastFailureTime < config.recoveryTimeout) :
    canExecute config now breaker = (false, breaker) := by
  simp [canExecute, checkRecovery_of_waiting waiting, isOpen]

/-- An open breaker whose timeout has elapsed permits the first probe of a half-open phase. -/
theorem canExecute_elapsed {breaker : CircuitBreaker} {now : ℚ} (isOpen : breaker.state = .opened)
    (elapsed : config.recoveryTimeout ≤ now - breaker.lastFailureTime)
    (probes : 0 < config.halfOpenMaxCalls) :
    canExecute config now breaker =
      (true, { breaker with state := .halfOpen, halfOpenCalls := 1, successCount := 0 }) := by
  simp [canExecute, checkRecovery_of_elapsed isOpen elapsed, probes]

/-- Outside the half-open state a success only clears the failure count. -/
theorem recordSuccess_of_ne_halfOpen {breaker : CircuitBreaker} (other : breaker.state ≠ .halfOpen) :
    recordSuccess config breaker = { breaker with failureCount := 0 } :=
  if_neg other

/-- In the half-open state a success is counted, and the last one needed closes the breaker. -/
theorem recordSuccess_halfOpen {breaker : CircuitBreaker} (probing : breaker.state = .halfOpen) :
    recordSuccess config breaker =
      if config.successThreshold ≤ breaker.successCount + 1 then
        { breaker with state := .closed, failureCount := 0, successCount := 0 }
      else { breaker with successCount := breaker.successCount + 1 } := by
  simp [recordSuccess, probing]

/-- A failure never leaves a breaker half-open. -/
theorem recordFailure_ne_halfOpen (now : ℚ) (breaker : CircuitBreaker) :
    (recordFailure config now breaker).state ≠ .halfOpen := by
  by_cases probing : breaker.state = .halfOpen
  · simp [recordFailure, probing]
  · simp only [recordFailure, probing, ↓reduceIte]
    split
    · simp
    · exact probing

/-- A failure stores the reading of the clock it took. -/
@[simp] theorem recordFailure_lastFailureTime (now : ℚ) (breaker : CircuitBreaker) :
    (recordFailure config now breaker).lastFailureTime = now := by
  simp only [recordFailure]
  split
  · rfl
  · split <;> rfl

/-- A failure of a closed breaker opens it exactly when it reaches the threshold. -/
theorem recordFailure_closed {breaker : CircuitBreaker} (now : ℚ)
    (isClosed : breaker.state = .closed) :
    recordFailure config now breaker =
      { breaker with
        failureCount := breaker.failureCount + 1
        lastFailureTime := now
        state := if config.failureThreshold ≤ breaker.failureCount + 1 then .opened
          else .closed } := by
  simp only [recordFailure, isClosed, reduceCtorEq, ↓reduceIte]
  split <;> simp

end CircuitBreaker

end VelaFlow.Security
