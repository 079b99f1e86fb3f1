import VelaFlow.Foundation.Machine
import VelaFlow.Security.CircuitBreaker

/-!
# Whether the circuit breaker recovers

A session is a breaker together with the calls it permitted that have not reported yet. Its
events are the breaker's public methods, each at a reading of a clock that never goes back; a
result may be recorded only for a permitted call that is still out. The half-open phase counts
probes and successes against two separate limits. Every probe that came back came back as a
success, so the breaker can leave the phase only when the limit on probes is not below the
limit on successes.
-/
namespace VelaFlow.Security.CircuitBreaker

/-- A breaker, the permitted calls that have not reported yet, the last reading of the clock,
and when a failure was last recorded. -/
structure Session where
  /-- The breaker itself. -/
  breaker : CircuitBreaker
  /-- Calls that were permitted and have not recorded their result. -/
  outstanding : Nat
  /-- The last reading of the clock. -/
  now : ℚ
  /-- When a failure was last recorded, if one was. -/
  lastFailure : Option ℚ
  deriving DecidableEq, Repr

/-- One call of a public method, with the reading of the clock it takes. -/
inductive Event where
  /-- `can_execute()`. -/
  | canExecute (time : ℚ)
  /-- `record_success()` of an outstanding call. -/
  | recordSuccess (time : ℚ)
  /-- `record_failure()` of an outstanding call. -/
  | recordFailure (time : ℚ)
  /-- `state` or `get_status()`. -/
  | readState (time : ℚ)
  deriving DecidableEq, Repr

/-- A new breaker, at some reading of the clock. -/
def Session.initial (start : ℚ) : Session := ⟨{}, 0, start, none⟩

variable (config : CircuitBreakerConfig)

/-- One event of a session. The clock does not go back, and a result is recorded only for a
permitted call that has not recorded one. -/
def Session.step (session : Session) : Event → Option Session
  | .canExecute time =>
    if session.now ≤ time then
      let (permitted, breaker) := canExecute config time session.breaker
      some { session with
        breaker
        outstanding := if permitted then session.outstanding + 1 else session.outstanding
        now := time }
    else none
  | .recordSuccess time =>
    if session.now ≤ time ∧ 0 < session.outstanding then
      some { session with
        breaker := recordSuccess config session.breaker
        outstanding := session.outstanding - 1
        now := time }
    else none
  | .recordFailure time =>
    if session.now ≤ time ∧ 0 < session.outstanding then
      some ⟨recordFailure config time session.breaker, session.outstanding - 1, time, some time⟩
    else none
  | .readState time =>
    if session.now ≤ time then
      some { session with breaker := (readState config time session.breaker).2, now := time }
    else none

/-- The recovery timeout has elapsed since the last recorded failure. -/
def Session.Elapsed (session : Session) (time : ℚ) : Prop :=
  ∀ failure, session.lastFailure = some failure → failure + config.recoveryTimeout ≤ time

/-- With no permitted call outstanding and the timeout elapsed since the last failure, the
breaker of every reachable session permits a call. -/
def Recovers : Prop :=
  ∀ (start : ℚ) (events : List Event) (session : Session) (time : ℚ),
    Machine.run (Session.step config) (.initial start) events = some session →
    session.outstanding = 0 → session.now ≤ time → session.Elapsed config time →
    (canExecute config time session.breaker).1 = true

/-- From every reachable session some continuation reaches a breaker that permits a call. -/
def NeverStuck : Prop :=
  ∀ (start : ℚ) (events : List Event) (session : Session),
    Machine.run (Session.step config) (.initial start) events = some session →
    ∃ more later time, Machine.run (Session.step config) session more = some later ∧
      later.now ≤ time ∧ (canExecute config time later.breaker).1 = true

/-- The breaker always can recover. -/
def AlwaysRecovers : Prop := Recovers config ∧ NeverStuck config

variable {config}

/-! ## The invariant of the half-open phase -/

/-- What relates the two counters of the half-open phase to the outstanding calls: a probe is
outstanding or was recorded as a success of this phase, and the successes have not yet closed
the breaker. An open breaker remembers the last failure. -/
structure Accounted (config : CircuitBreakerConfig) (session : Session) : Prop where
  /-- Every probe of the phase is outstanding or succeeded. -/
  probes : session.breaker.state = .halfOpen →
    session.breaker.halfOpenCalls ≤ session.breaker.successCount + session.outstanding
  /-- The successes of the phase are still too few. -/
  unfinished : session.breaker.state = .halfOpen →
    session.breaker.successCount < config.successThreshold
  /-- An open breaker stores the time of the last failure. -/
  failed : session.breaker.state = .opened →
    session.lastFailure = some session.breaker.lastFailureTime

/-- A new session is accounted for. -/
theorem accounted_initial (start : ℚ) : Accounted config (.initial start) :=
  ⟨by simp [Session.initial], by simp [Session.initial], by simp [Session.initial]⟩

/-- A recovery check keeps the accounting, and starts a phase with both counters clear. -/
theorem accounted_checkRecovery {session : Session} (positive : 1 ≤ config.successThreshold)
    (accounted : Accounted config session) (time now : ℚ) :
    Accounted config { session with
      breaker := checkRecovery config time session.breaker, now := now } := by
  unfold checkRecovery
  split
  · exact ⟨accounted.probes, accounted.unfinished, accounted.failed⟩
  · split
    · exact ⟨by simp, fun _ => positive, by simp⟩
    · exact ⟨accounted.probes, accounted.unfinished, accounted.failed⟩

/-- A permission adds one probe and one outstanding call; a refusal adds neither. -/
theorem accounted_canExecute {session : Session} (positive : 1 ≤ config.successThreshold)
    (accounted : Accounted config session) (time : ℚ) :
    Accounted config { session with
      breaker := (canExecute config time session.breaker).2
      outstanding := if (canExecute config time session.breaker).1 then session.outstanding + 1
        else session.outstanding
      now := time } := by
  obtain ⟨probes, unfinished, failed⟩ :=
    accounted_checkRecovery positive accounted time time
  cases phase : (checkRecovery config time session.breaker).state with
  | closed =>
    simp only [canExecute, phase]
    exact ⟨by simp [phase], by simp [phase], by simp [phase]⟩
  | opened =>
    simp only [canExecute, phase]
    exact ⟨probes, unfinished, failed⟩
  | halfOpen =>
    simp only [canExecute, phase]
    split
    · refine ⟨fun _ => ?_, fun _ => unfinished phase, by simp⟩
      have spent := probes phase
      simp only [↓reduceIte] at spent ⊢
      omega
    · exact ⟨probes, unfinished, failed⟩

/-- A success moves one outstanding call to the successes of the phase, or ends the phase. -/
theorem accounted_recordSuccess {session : Session} (accounted : Accounted config session)
    (time : ℚ) : Accounted config { session with
      breaker := recordSuccess config session.breaker
      outstanding := session.outstanding - 1
      now := time } := by
  by_cases probing : session.breaker.state = .halfOpen
  · rw [recordSuccess_halfOpen probing]
    split
    · exact ⟨by simp, by simp, by simp⟩
    · rename_i more
      have spent := accounted.probes probing
      refine ⟨fun _ => ?_, fun _ => ?_, by simp [probing]⟩
      · simp only
        omega
      · simp only
        omega
  · rw [recordSuccess_of_ne_halfOpen probing]
    exact ⟨fun halfOpen => absurd halfOpen probing, fun halfOpen => absurd halfOpen probing,
      accounted.failed⟩

/-- A failure ends every half-open phase. -/
theorem accounted_recordFailure (session : Session) (time : ℚ) (outstanding : Nat) :
    Accounted config
      ⟨recordFailure config time session.breaker, outstanding, time, some time⟩ :=
  ⟨fun probing => absurd probing (recordFailure_ne_halfOpen time session.breaker),
    fun probing => absurd probing (recordFailure_ne_halfOpen time session.breaker),
    fun _ => by simp⟩

/-- Every event keeps the accounting. -/
theorem accounted_step (positive : 1 ≤ config.successThreshold) (session : Session)
    (event : Event) (next : Session) (accounted : Accounted config session)
    (moved : session.step config event = some next) : Accounted config next := by
  cases event with
  | canExecute time =>
    simp only [Session.step, Option.ite_none_right_eq_some, Option.some.injEq] at moved
    obtain ⟨-, rfl⟩ := moved
    exact accounted_canExecute positive accounted time
  | recordSuccess time =>
    simp only [Session.step, Option.ite_none_right_eq_some, Option.some.injEq] at moved
    obtain ⟨-, rfl⟩ := moved
    exact accounted_recordSuccess accounted time
  | recordFailure time =>
    simp only [Session.step, Option.ite_none_right_eq_some, Option.some.injEq] at moved
    obtain ⟨-, rfl⟩ := moved
    exact accounted_recordFailure session time _
  | readState time =>
    simp only [Session.step, Option.ite_none_right_eq_some, Option.some.injEq] at moved
    obtain ⟨-, rfl⟩ := moved
    exact accounted_checkRecovery positive accounted time time

/-- Every reachable session is accounted for. -/
theorem accounted_run (positive : 1 ≤ config.successThreshold) {start : ℚ} {events : List Event}
    {session : Session}
    (ran : Machine.run (Session.step config) (.initial start) events = some session) :
    Accounted config session :=
  Machine.run_invariant _ (accounted_step positive) (accounted_initial start) ran

/-! ## Enough probes -/

/-- An accounted session with nothing outstanding and the timeout elapsed permits a call, when
the breaker allows as many probes as it needs successes. -/
theorem permits_of_accounted {session : Session} (positive : 1 ≤ config.successThreshold)
    (enough : config.successThreshold ≤ config.halfOpenMaxCalls)
    (accounted : Accounted config session) (settled : session.outstanding = 0) {time : ℚ}
    (elapsed : session.Elapsed config time) :
    (canExecute config time session.breaker).1 = true := by
  cases phase : session.breaker.state with
  | closed => rw [canExecute_closed time phase]
  | halfOpen =>
    have spent := accounted.probes phase
    have needed := accounted.unfinished phase
    have left : session.breaker.halfOpenCalls < config.halfOpenMaxCalls := by omega
    rw [canExecute_halfOpen time phase, if_pos left]
  | opened =>
    have waited := elapsed _ (accounted.failed phase)
    rw [canExecute_elapsed phase (by linarith) (by omega)]

/-- Recording a success for every outstanding call leaves a session with none. -/
theorem settle (config : CircuitBreakerConfig) (count : Nat) (session : Session) (outstanding : session.outstanding = count) :
    ∃ settled, Machine.run (Session.step config) session
        (List.replicate count (.recordSuccess session.now)) = some settled ∧
      settled.outstanding = 0 ∧ settled.now = session.now := by
  induction count generalizing session with
  | zero => exact ⟨session, rfl, outstanding, rfl⟩
  | succ count ih =>
    obtain ⟨settled, ran, none, same⟩ := ih
      { session with
        breaker := recordSuccess config session.breaker
        outstanding := session.outstanding - 1 } (by simp [outstanding])
    refine ⟨settled, ?_, none, same⟩
    rw [List.replicate_succ, Machine.run_cons, Session.step,
      if_pos ⟨le_refl _, by omega⟩]
    exact ran

/-- Enough probes let every reachable session recover. -/
theorem recovers_of_enough (positive : 1 ≤ config.successThreshold)
    (enough : config.successThreshold ≤ config.halfOpenMaxCalls) : Recovers config :=
  fun _ _ _ _ ran settled _ elapsed =>
    permits_of_accounted positive enough (accounted_run positive ran) settled elapsed

/-- When the breaker recovers with nothing outstanding, no session is stuck: its outstanding
calls report, the timeout passes, and the next call is permitted. -/
theorem neverStuck_of_recovers (recovers : Recovers config) : NeverStuck config := by
  intro start events session ran
  obtain ⟨settled, more, none, -⟩ := settle config session.outstanding session rfl
  have whole : Machine.run (Session.step config) (.initial start)
      (events ++ List.replicate session.outstanding (.recordSuccess session.now)) =
        some settled := by
    rw [Machine.run_append, ran]
    exact more
  cases failure : settled.lastFailure with
  | none =>
    refine ⟨_, settled, settled.now, more, le_refl _, ?_⟩
    exact recovers start _ settled _ whole none (le_refl _) (by simp [Session.Elapsed, failure])
  | some failed =>
    refine ⟨_, settled, max settled.now (failed + config.recoveryTimeout), more,
      le_max_left _ _, ?_⟩
    refine recovers start _ settled _ whole none (le_max_left _ _) ?_
    intro time same
    rw [failure] at same
    obtain rfl := Option.some.inj same
    exact le_max_right _ _

/-! ## Too few probes -/

/-- A permitted call that fails at once, a number of times. -/
def failures (time : ℚ) (count : Nat) : List Event :=
  (List.replicate count [.canExecute time, .recordFailure time]).flatten

/-- A permitted call that succeeds at once, a number of times. -/
def successes (time : ℚ) (count : Nat) : List Event :=
  (List.replicate count [.canExecute time, .recordSuccess time]).flatten

/-- A half-open session that has used `count` probes, each of them a success. -/
def probed (breaker : CircuitBreaker) (lastFailure : Option ℚ) (time : ℚ) (count : Nat) : Session :=
  ⟨{ breaker with state := .halfOpen, halfOpenCalls := count, successCount := count }, 0, time,
    lastFailure⟩

/-- Failures short of the threshold leave a closed breaker closed and are counted. -/
theorem run_failures (config : CircuitBreakerConfig) (time : ℚ) (count : Nat) (session : Session)
    (isClosed : session.breaker.state = .closed) (settled : session.outstanding = 0)
    (past : session.now ≤ time)
    (below : session.breaker.failureCount + count < config.failureThreshold) :
    ∃ failed, Machine.run (Session.step config) session (failures time count) = some failed ∧
      failed.breaker.state = .closed ∧ failed.outstanding = 0 ∧ failed.now ≤ time ∧
      failed.breaker.failureCount = session.breaker.failureCount + count := by
  induction count generalizing session with
  | zero => exact ⟨session, rfl, isClosed, settled, past, rfl⟩
  | succ count ih =>
    obtain ⟨failed, ran, stays, none, late, counted⟩ := ih
      ⟨{ session.breaker with
          failureCount := session.breaker.failureCount + 1, lastFailureTime := time },
        0, time, some time⟩ isClosed rfl (le_refl _) (by simp only; omega)
    refine ⟨failed, ?_, stays, none, late, by rw [counted]; simp only; omega⟩
    have notYet : ¬ config.failureThreshold ≤ session.breaker.failureCount + 1 := by omega
    have first : session.step config (.canExecute time) =
        some { session with outstanding := 1, now := time } := by
      simp [Session.step, past, canExecute_closed time isClosed, settled]
    have second : Session.step config { session with outstanding := 1, now := time }
        (.recordFailure time) = some
          ⟨{ session.breaker with
              failureCount := session.breaker.failureCount + 1, lastFailureTime := time },
            0, time, some time⟩ := by
      simp [Session.step, recordFailure_closed time isClosed, notYet, isClosed]
    rw [failures, List.replicate_succ, List.flatten_cons, Machine.run_append, Machine.run_cons,
      first, Option.bind_some, Machine.run_singleton, second]
    exact ran

/-- As many failures as the threshold open a new breaker. -/
theorem run_open (config : CircuitBreakerConfig) (start : ℚ)
    (positive : 1 ≤ config.failureThreshold) :
    ∃ session, Machine.run (Session.step config) (.initial start)
        (failures start config.failureThreshold) = some session ∧
      session.breaker.state = .opened ∧ session.outstanding = 0 ∧ session.now = start ∧
      session.lastFailure = some start ∧ session.breaker.lastFailureTime = start := by
  obtain ⟨session, ran, isClosed, settled, past, counted⟩ :=
    run_failures config start (config.failureThreshold - 1) (.initial start) rfl rfl
      (le_refl _) (by simp only [Session.initial]; omega)
  have reached : config.failureThreshold ≤ session.breaker.failureCount + 1 := by
    simp only [Session.initial] at counted
    omega
  refine ⟨⟨recordFailure config start session.breaker, 0, start, some start⟩, ?_, ?_, rfl, rfl,
    rfl, by simp⟩
  · have split : failures start config.failureThreshold =
        failures start (config.failureThreshold - 1) ++
          [.canExecute start, .recordFailure start] := by
      obtain ⟨below, same⟩ := Nat.exists_eq_add_of_le' positive
      rw [same, Nat.add_sub_cancel, failures, List.replicate_succ', List.flatten_append]
      rfl
    rw [split, Machine.run_append, ran, Option.bind_some, Machine.run_cons, Session.step,
      if_pos past, canExecute_closed start isClosed, Option.bind_some, Machine.run_singleton]
    simp [Session.step, settled]
  · rw [recordFailure_closed start isClosed, if_pos reached]

/-- Probes within the limit that succeed, but too few to close the breaker, are only counted. -/
theorem run_successes (breaker : CircuitBreaker) (lastFailure : Option ℚ) (time : ℚ)
    (used count : Nat) (within : used + count ≤ config.halfOpenMaxCalls)
    (few : used + count < config.successThreshold) :
    Machine.run (Session.step config) (probed breaker lastFailure time used)
      (successes time count) = some (probed breaker lastFailure time (used + count)) := by
  induction count generalizing used with
  | zero => rfl
  | succ count ih =>
    have left : used < config.halfOpenMaxCalls := by omega
    have more : ¬ config.successThreshold ≤ used + 1 := by omega
    have first : (probed breaker lastFailure time used).step config (.canExecute time) =
        some ⟨{ breaker with
          state := .halfOpen, halfOpenCalls := used + 1, successCount := used }, 1, time,
          lastFailure⟩ := by
      simp [Session.step, probed, canExecute_halfOpen, left]
    have second : Session.step config ⟨{ breaker with
          state := .halfOpen, halfOpenCalls := used + 1, successCount := used }, 1, time,
          lastFailure⟩ (.recordSuccess time) =
        some (probed breaker lastFailure time (used + 1)) := by
      simp [Session.step, probed, recordSuccess_halfOpen, more]
    rw [successes, List.replicate_succ, List.flatten_cons, Machine.run_append, Machine.run_cons,
      first, Option.bind_some, Machine.run_singleton, second, Option.bind_some,
      show used + (count + 1) = used + 1 + count by omega]
    exact ih (used + 1) (by omega) (by omega)

/-- A half-open breaker that has used up its probes refuses every further call. -/
theorem canExecute_exhausted {breaker : CircuitBreaker} (time : ℚ)
    (probing : breaker.state = .halfOpen)
    (used : config.halfOpenMaxCalls ≤ breaker.halfOpenCalls) :
    canExecute config time breaker = (false, breaker) := by
  rw [canExecute_halfOpen time probing, if_neg (by omega)]

/-- A session without outstanding calls whose half-open breaker has used up its probes never
changes its breaker again, and so refuses every call of every continuation. -/
theorem stuck_forever {session later : Session} {events : List Event}
    (probing : session.breaker.state = .halfOpen) (settled : session.outstanding = 0)
    (used : config.halfOpenMaxCalls ≤ session.breaker.halfOpenCalls)
    (ran : Machine.run (Session.step config) session events = some later) :
    later.breaker = session.breaker ∧ later.outstanding = 0 := by
  apply Machine.run_invariant (fun reached : Session =>
    reached.breaker = session.breaker ∧ reached.outstanding = 0) _ ⟨rfl, settled⟩ ran
  rintro reached event next ⟨same, none⟩ moved
  cases event with
  | canExecute time =>
    rw [← same] at probing used
    simp only [Session.step, canExecute_exhausted time probing used,
      Option.ite_none_right_eq_some, Option.some.injEq] at moved
    obtain ⟨-, rfl⟩ := moved
    exact ⟨same, by simpa using none⟩
  | recordSuccess time => simp [Session.step, none] at moved
  | recordFailure time => simp [Session.step, none] at moved
  | readState time =>
    rw [← same] at probing
    simp only [Session.step, readState, Option.ite_none_right_eq_some, Option.some.injEq,
      checkRecovery_of_ne_opened (show reached.breaker.state ≠ .opened by simp [probing])] at moved
    obtain ⟨-, rfl⟩ := moved
    exact ⟨same, none⟩

/-- With fewer probes than needed successes a session gets stuck: the breaker opens, waits, and
spends every probe on a success. -/
theorem run_stuck (config : CircuitBreakerConfig) (start : ℚ)
    (opens : 1 ≤ config.failureThreshold) (few : config.halfOpenMaxCalls < config.successThreshold) :
    ∃ events session, Machine.run (Session.step config) (.initial start) events = some session ∧
      session.outstanding = 0 ∧ session.breaker.state = .halfOpen ∧
      session.breaker.halfOpenCalls = config.halfOpenMaxCalls ∧
      session.Elapsed config session.now := by
  obtain ⟨tripped, ran, isOpen, settled, at_start, failed, stored⟩ :=
    run_open config start opens
  have waited : start ≤ max start (start + config.recoveryTimeout) := le_max_left _ _
  have elapsed : start + config.recoveryTimeout ≤ max start (start + config.recoveryTimeout) :=
    le_max_right _ _
  have ready : config.recoveryTimeout ≤
      max start (start + config.recoveryTimeout) - tripped.breaker.lastFailureTime := by
    rw [stored]
    linarith
  generalize max start (start + config.recoveryTimeout) = time at waited elapsed ready
  have readied : tripped.step config (.readState time) =
      some (probed tripped.breaker (some start) time 0) := by
    simp [Session.step, readState, at_start, waited, checkRecovery_of_elapsed isOpen ready, probed,
      settled, failed]
  refine ⟨failures start config.failureThreshold ++ .readState time ::
    successes time config.halfOpenMaxCalls,
    probed tripped.breaker (some start) time config.halfOpenMaxCalls, ?_, rfl, rfl, rfl, ?_⟩
  · rw [Machine.run_append, ran, Option.bind_some, Machine.run_cons, readied, Option.bind_some,
      run_successes _ _ _ 0 _ (by omega) (by omega), Nat.zero_add]
  · intro failure same
    obtain rfl := Option.some.inj same
    exact elapsed

/-! ## When the breaker always recovers -/

/-- **A breaker always can recover exactly when it allows as many probes as it needs
successes.** Below that, a half-open phase whose probes all succeed ends with neither a probe
left nor enough successes, and every later call is refused. -/
theorem alwaysRecovers_iff (opens : 1 ≤ config.failureThreshold)
    (closes : 1 ≤ config.successThreshold) :
    AlwaysRecovers config ↔ config.successThreshold ≤ config.halfOpenMaxCalls := by
  constructor
  · rintro ⟨recovers, -⟩
    by_contra few
    obtain ⟨events, session, ran, settled, probing, used, elapsed⟩ :=
      run_stuck config 0 opens (by omega)
    have permitted := recovers 0 events session session.now ran settled (le_refl _) elapsed
    rw [canExecute_exhausted session.now probing (by omega)] at permitted
    cases permitted
  · intro enough
    have recovers := recovers_of_enough closes enough
    exact ⟨recovers, neverStuck_of_recovers recovers⟩

/-- The equivalence at a breaker with two probes for two successes. -/
theorem alwaysRecovers_iff_twoProbes :
    AlwaysRecovers { halfOpenMaxCalls := 2 } ↔ (2 : Nat) ≤ 2 :=
  alwaysRecovers_iff (by decide) (by decide)

/-- The calls that get a breaker with the shipped configuration stuck: five failures, a wait of
one minute, and one successful probe. -/
def defaultStuckEvents : List Event :=
  failures 0 5 ++ successes 60 1

/-- A breaker with the shipped configuration does not always recover: after one successful probe
it refuses the next call, with nothing outstanding and the timeout elapsed. -/
theorem default_not_alwaysRecovers : ¬ AlwaysRecovers {} := by
  rintro ⟨recovers, -⟩
  have permitted := recovers 0 defaultStuckEvents
    ⟨{ state := .halfOpen, failureCount := 5, successCount := 1, lastFailureTime := 0,
       halfOpenCalls := 1 }, 0, 60, some 0⟩ 1000 (by decide +kernel) rfl (by norm_num)
    (by intro failure same; obtain rfl := Option.some.inj same; norm_num)
  revert permitted
  decide +kernel

end VelaFlow.Security.CircuitBreaker
