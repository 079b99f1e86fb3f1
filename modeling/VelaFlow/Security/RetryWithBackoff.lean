import VelaFlow.Security.CircuitBreakerRecovery

/-!
# Retries through a circuit breaker

`retry_with_backoff` of `security/circuit_breaker.py` asks its breaker before each attempt and
reports each attempt's result. Its calls therefore form a session of the breaker that leaves
no permitted call outstanding, whatever the attempted function does.
-/
namespace VelaFlow.Security

open CircuitBreaker

/-- What one attempt meets: the clock when the breaker is asked, how the function ends, and the
clock when its failure is recorded. -/
structure Attempt (T E : Type) where
  /-- The reading `can_execute` takes. -/
  asked : ℚ
  /-- The value the function returns, or the exception it raises. -/
  outcome : Except E T
  /-- The reading `record_failure` takes. -/
  reported : ℚ

/-- How the attempts end: the value returned or the last error captured, the breaker after
them, and the delays slept between them. -/
structure Attempts (T E : Type) where
  /-- The value, or `last_error`. -/
  result : Except (Option E) T
  /-- The breaker after the last call of it. -/
  breaker : Option CircuitBreaker
  /-- The arguments of `time.sleep`, in order. -/
  sleeps : List ℚ

/-- What `retry_with_backoff` raises. -/
inductive RetryError (E : Type) where
  /-- The last error of the function. -/
  | last (error : E)
  /-- `RuntimeError("All retries exhausted with no error captured")`. -/
  | noErrorCaptured
  deriving DecidableEq, Repr

/-- `min(base_delay * (2 ** attempt), max_delay)`. -/
def backoffDelay (baseDelay maxDelay : ℚ) (attempt : Nat) : ℚ :=
  min (baseDelay * 2 ^ attempt) maxDelay

variable {T E : Type} (config : CircuitBreakerConfig)

/-- The loop of `retry_with_backoff`, with `remaining` attempts of `maxRetries + 1` left. -/
def attemptAll (maxRetries : Nat) (baseDelay maxDelay : ℚ) (attempts : Nat → Attempt T E) :
    Nat → Option E → Option CircuitBreaker → Attempts T E
  | 0, lastError, breaker => ⟨.error lastError, breaker, []⟩
  | remaining + 1, lastError, breaker =>
    let attempt := maxRetries - remaining
    let faced := attempts attempt
    let asked := breaker.map (canExecute config faced.asked)
    if asked.any (fun answer => !answer.1) then ⟨.error lastError, asked.map (·.2), []⟩
    else match faced.outcome with
      | .ok value => ⟨.ok value, asked.map (fun answer => recordSuccess config answer.2), []⟩
      | .error error =>
        let rest := attemptAll maxRetries baseDelay maxDelay attempts remaining (some error)
          (asked.map (fun answer => recordFailure config faced.reported answer.2))
        if attempt < maxRetries then
          { rest with sleeps := backoffDelay baseDelay maxDelay attempt :: rest.sleeps }
        else rest

/-- `retry_with_backoff`: the first value an attempt returns, else the fallback's, else the last
error. -/
def retryWithBackoff (maxRetries : Nat) (baseDelay maxDelay : ℚ) (attempts : Nat → Attempt T E)
    (breaker : Option CircuitBreaker) (fallback : Option T) :
    Except (RetryError E) T × Option CircuitBreaker :=
  let ended := attemptAll config maxRetries baseDelay maxDelay attempts (maxRetries + 1) none
    breaker
  match ended.result, fallback with
  | .ok value, _ => (.ok value, ended.breaker)
  | .error _, some value => (.ok value, ended.breaker)
  | .error (some error), none => (.error (.last error), ended.breaker)
  | .error none, none => (.error .noErrorCaptured, ended.breaker)

/-- The clock does not go back over the attempts. -/
def Ordered (start : ℚ) (attempts : Nat → Attempt T E) : Prop :=
  start ≤ (attempts 0).asked ∧
    ∀ attempt, (attempts attempt).asked ≤ (attempts attempt).reported ∧
      (attempts attempt).reported ≤ (attempts (attempt + 1)).asked

variable {config}

/-- The breaker calls of the loop are a session that ends with as many outstanding calls as it
started with. -/
theorem attemptAll_session (config : CircuitBreakerConfig) (maxRetries : Nat) (baseDelay maxDelay : ℚ)
    (attempts : Nat → Attempt T E)
    (forward : ∀ attempt, (attempts attempt).asked ≤ (attempts attempt).reported ∧
      (attempts attempt).reported ≤ (attempts (attempt + 1)).asked)
    (remaining : Nat) (within : remaining ≤ maxRetries + 1) (lastError : Option E)
    (session : Session)
    (past : 0 < remaining → session.now ≤ (attempts (maxRetries + 1 - remaining)).asked) :
    ∃ events later, Machine.run (Session.step config) session events = some later ∧
      later.outstanding = session.outstanding ∧
      (attemptAll config maxRetries baseDelay maxDelay attempts remaining lastError
        (some session.breaker)).breaker = some later.breaker := by
  induction remaining generalizing lastError session with
  | zero => exact ⟨[], session, rfl, rfl, rfl⟩
  | succ remaining ih =>
    have index : maxRetries + 1 - (remaining + 1) = maxRetries - remaining := by omega
    have early := past (Nat.succ_pos _)
    rw [index] at early
    obtain ⟨reported, following⟩ := forward (maxRetries - remaining)
    generalize faced : attempts (maxRetries - remaining) = attempt at early reported following
    cases answer : canExecute config attempt.asked session.breaker with
    | mk permitted breaker =>
      cases permitted with
      | false =>
        refine ⟨[.canExecute attempt.asked],
          { session with breaker := breaker, now := attempt.asked }, ?_, rfl, ?_⟩
        · rw [Machine.run_singleton]
          simp [Session.step, early, answer]
        · simp [attemptAll, faced, answer]
      | true =>
        have asked : session.step config (.canExecute attempt.asked) = some { session with
            breaker := breaker
            outstanding := session.outstanding + 1
            now := attempt.asked } := by
          simp [Session.step, early, answer]
        cases ended : attempt.outcome with
        | ok value =>
          refine ⟨[.canExecute attempt.asked, .recordSuccess attempt.asked], { session with
            breaker := recordSuccess config breaker, now := attempt.asked }, ?_, rfl, ?_⟩
          · rw [Machine.run_cons, asked, Option.bind_some, Machine.run_singleton]
            simp [Session.step]
          · simp [attemptAll, faced, answer, ended]
        | error error =>
          obtain ⟨events, later, ran, same, reached⟩ := ih (by omega) (some error)
            ⟨recordFailure config attempt.reported breaker, session.outstanding,
              attempt.reported, some attempt.reported⟩
            (fun more => by
              rw [show maxRetries + 1 - remaining = maxRetries - remaining + 1 by omega]
              exact following)
          refine ⟨.canExecute attempt.asked :: .recordFailure attempt.reported :: events, later,
            ?_, same, ?_⟩
          · rw [Machine.run_cons, asked, Option.bind_some, Machine.run_cons, ← ran]
            simp [Session.step, reported]
          · simp only [attemptAll, faced, answer, ended, Option.map_some, Option.any_some,
              Bool.not_true, Bool.false_eq_true, ↓reduceIte]
            split <;> exact reached

/-- **Retrying keeps to the breaker's protocol.** Every permission `retry_with_backoff` gets is
followed by exactly one recorded result before it returns or raises. -/
theorem retryWithBackoff_session (maxRetries : Nat) (baseDelay maxDelay : ℚ)
    (attempts : Nat → Attempt T E) (session : Session) (ordered : Ordered session.now attempts)
    (fallback : Option T) :
    ∃ events later, Machine.run (Session.step config) session events = some later ∧
      later.outstanding = session.outstanding ∧
      (retryWithBackoff config maxRetries baseDelay maxDelay attempts (some session.breaker)
        fallback).2 = some later.breaker := by
  obtain ⟨events, later, ran, same, reached⟩ :=
    attemptAll_session config maxRetries baseDelay maxDelay attempts ordered.2
      (maxRetries + 1) (le_refl _) none session
      (fun _ => by rw [Nat.sub_self]; exact ordered.1)
  refine ⟨events, later, ran, same, ?_⟩
  rw [← reached]
  simp only [retryWithBackoff]
  split <;> rfl

end VelaFlow.Security
