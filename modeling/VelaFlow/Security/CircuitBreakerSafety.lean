import VelaFlow.Foundation.Machine
import VelaFlow.Security.CircuitBreaker

/-!
# What the circuit breaker lets through

Any number of callers use one breaker. Its lock makes each call of a method one step, so whatever
the callers do is a list of calls at readings of a clock that does not go back, and a result may
come long after the call it is of was admitted. The log says of each call whether it was admitted
and what state it found and left.
-/
namespace VelaFlow.Security.CircuitBreaker

/-- A call of a public method. -/
inductive Call where
  /-- `can_execute()`. -/
  | canExecute
  /-- `record_success()`. -/
  | recordSuccess
  /-- `record_failure()`. -/
  | recordFailure
  /-- `state`. -/
  | state
  /-- `get_status()`. -/
  | getStatus
  deriving DecidableEq, Repr

/-- Whether a call admits, and the breaker after it. -/
def Call.perform (config : CircuitBreakerConfig) (time : ℚ) (breaker : CircuitBreaker) :
    Call → Bool × CircuitBreaker
  | canExecute => CircuitBreaker.canExecute config time breaker
  | recordSuccess => (false, CircuitBreaker.recordSuccess config breaker)
  | recordFailure => (false, CircuitBreaker.recordFailure config time breaker)
  | state | getStatus => (false, (readState config time breaker).2)

/-- What the log says of a call. -/
structure Record where
  /-- The method. -/
  call : Call
  /-- The reading of the clock. -/
  time : ℚ
  /-- Whether the call was admitted. -/
  admitted : Bool
  /-- The state before it. -/
  before : CircuitState
  /-- The state after it. -/
  after : CircuitState
  deriving DecidableEq, Repr

/-- A failure is recorded. -/
def Record.fails (record : Record) : Bool := record.call == .recordFailure

/-- A success is recorded, or the circuit closes. -/
def Record.Resets (record : Record) : Prop :=
  record.call = .recordSuccess ∨ record.before ≠ .closed ∧ record.after = .closed

/-- A breaker with the last reading of the clock and the log of the calls so far. -/
structure Watched where
  /-- The breaker. -/
  breaker : CircuitBreaker
  /-- The last reading. -/
  now : ℚ
  /-- The calls, the earliest first. -/
  log : List Record
  deriving DecidableEq, Repr

/-- A new breaker. -/
def Watched.initial (start : ℚ) : Watched := ⟨{}, start, []⟩

/-- One call, at a reading that is not before the last. -/
def Watched.step (config : CircuitBreakerConfig) (watched : Watched) (event : Call × ℚ) :
    Option Watched :=
  if watched.now ≤ event.2 then
    let (admitted, breaker) := event.1.perform config event.2 watched.breaker
    some ⟨breaker, event.2, watched.log ++
      [⟨event.1, event.2, admitted, watched.breaker.state, breaker.state⟩]⟩
  else none

/-- What the breaker promises of a log. -/
structure Safe (config : CircuitBreakerConfig) (watched : Watched) : Prop where
  /-- No call is admitted before the timeout has passed since a failure that left the circuit
  open. -/
  waits : watched.log.Pairwise fun failure admission =>
    failure.fails = true → failure.after = .opened → admission.admitted = true →
      failure.time + config.recoveryTimeout ≤ admission.time
  /-- No more calls than allowed are admitted while the circuit stays half-open. -/
  probes : ∀ period, period <:+: watched.log → (∀ record ∈ period, record.after = .halfOpen) →
    period.countP Record.admitted ≤ config.halfOpenMaxCalls
  /-- A failure in the half-open state opens the circuit. -/
  opens : ∀ record ∈ watched.log, record.fails = true → record.before = .halfOpen →
    record.after = .opened
  /-- While the circuit is closed, fewer failures than the threshold came since the last success or
  closing. -/
  counts : watched.breaker.state = .closed → ∀ since, since <:+ watched.log →
    (∀ record ∈ since, ¬ record.Resets) → since.countP Record.fails < config.failureThreshold

variable {config : CircuitBreakerConfig} {call : Call} {time : ℚ} {breaker : CircuitBreaker}

namespace Call

/-- What any call does to the four fields that the log is compared with. -/
structure Moves (config : CircuitBreakerConfig) (call : Call) (time : ℚ)
    (breaker next : CircuitBreaker) (admitted : Bool) : Prop where
  /-- An open circuit admits nothing. -/
  refuses : admitted = true → next.state ≠ .opened
  /-- The circuit leaves the open state after the timeout. -/
  waits : breaker.state = .opened → next.state ≠ .opened →
    breaker.lastFailureTime + config.recoveryTimeout ≤ time
  /-- A failure is noted with its time, and nothing else is. -/
  noted : next.lastFailureTime = if call = .recordFailure then time else breaker.lastFailureTime
  /-- Only a failure opens the circuit. -/
  opened : next.state = .opened → breaker.state = .opened ∨ call = .recordFailure
  /-- A failure does not leave the open state. -/
  stays : call = .recordFailure → breaker.state ≠ .closed → next.state = .opened
  /-- A half-open circuit counts the calls it admits, from none when it becomes half-open. -/
  probes : next.state = .halfOpen → next.halfOpenCalls =
    (if breaker.state = .halfOpen then breaker.halfOpenCalls else 0) + if admitted then 1 else 0
  /-- A half-open circuit admits a call when there are some left. -/
  limit : next.state = .halfOpen → admitted = true → next.halfOpenCalls ≤ config.halfOpenMaxCalls
  /-- Failures are counted up to a success. -/
  counts : call ≠ .recordSuccess →
    next.failureCount = breaker.failureCount + if call = .recordFailure then 1 else 0
  /-- A closed circuit counts fewer failures than the threshold. -/
  closed : next.state = .closed → next.failureCount = 0 ∨
    breaker.state = .closed ∧ (call = .recordFailure ∨ next.failureCount = breaker.failureCount)
  /-- A failure that reaches the threshold opens the circuit. -/
  below : call = .recordFailure → next.state = .closed → next.failureCount < config.failureThreshold

/-- A recovery check moves the breaker so. -/
theorem moves_checkRecovery (failure : call ≠ .recordFailure) :
    Moves config call time breaker (checkRecovery config time breaker) false := by
  by_cases isOpen : breaker.state = .opened
  · by_cases elapsed : config.recoveryTimeout ≤ time - breaker.lastFailureTime
    · rw [checkRecovery_of_elapsed isOpen elapsed]
      have waited : breaker.lastFailureTime + config.recoveryTimeout ≤ time := by linarith
      constructor <;> simp [failure, isOpen, waited]
    · rw [checkRecovery_of_waiting (not_le.mp elapsed)]
      constructor <;> simp [failure, isOpen]
  · rw [checkRecovery_of_ne_opened isOpen]
    constructor <;> simp +contextual [failure, isOpen]

/-- Asking for a call moves the breaker so. -/
theorem moves_canExecute : Moves config .canExecute time breaker
    (CircuitBreaker.canExecute config time breaker).2
    (CircuitBreaker.canExecute config time breaker).1 := by
  have checked : Moves config .canExecute time breaker (checkRecovery config time breaker) false :=
    moves_checkRecovery (by decide)
  cases phase : (checkRecovery config time breaker).state with
  | closed =>
    simp only [CircuitBreaker.canExecute, phase]
    exact { checked with
      refuses := fun _ => by simp [phase]
      probes := fun probing => by simp [phase] at probing
      limit := fun probing => by simp [phase] at probing }
  | opened =>
    simp only [CircuitBreaker.canExecute, phase]
    exact checked
  | halfOpen =>
    simp only [CircuitBreaker.canExecute, phase]
    split
    · next left =>
      have counted := checked.probes phase
      exact {
        refuses := fun _ => by simp
        waits := fun isOpen _ => checked.waits isOpen (by simp [phase])
        noted := checked.noted
        opened := fun isOpen => by simp at isOpen
        stays := fun failure => by cases failure
        probes := fun _ => by simpa using counted
        limit := fun _ _ => left
        counts := checked.counts
        closed := fun isClosed => by simp at isClosed
        below := fun failure => by cases failure }
    · exact checked

/-- A success moves the breaker so. -/
theorem moves_recordSuccess : Moves config .recordSuccess time breaker
    (CircuitBreaker.recordSuccess config breaker) false := by
  by_cases probing : breaker.state = .halfOpen
  · rw [recordSuccess_halfOpen probing]
    split
    · constructor <;> simp [probing]
    · constructor <;> simp [probing]
  · rw [recordSuccess_of_ne_halfOpen probing]
    constructor <;> simp +contextual [probing]

/-- A failure moves the breaker so. -/
theorem moves_recordFailure : Moves config .recordFailure time breaker
    (CircuitBreaker.recordFailure config time breaker) false := by
  cases phase : breaker.state with
  | closed =>
    rw [recordFailure_closed time phase]
    by_cases reached : config.failureThreshold ≤ breaker.failureCount + 1
    · rw [if_pos reached]
      constructor <;> simp [phase]
    · rw [if_neg reached]
      constructor <;> simp [phase, not_le.mp reached]
  | opened =>
    constructor <;> simp [CircuitBreaker.recordFailure, phase]
  | halfOpen =>
    constructor <;> simp [CircuitBreaker.recordFailure, phase]

/-- Every call moves the breaker so. -/
theorem moves_perform (call : Call) (time : ℚ) (breaker : CircuitBreaker) :
    Moves config call time breaker (call.perform config time breaker).2
      (call.perform config time breaker).1 := by
  cases call with
  | canExecute => exact moves_canExecute
  | recordSuccess => exact moves_recordSuccess
  | recordFailure => exact moves_recordFailure
  | state => exact moves_checkRecovery (by decide)
  | getStatus => exact moves_checkRecovery (by decide)

end Call

/-- What relates the breaker to the log. -/
structure Kept (config : CircuitBreakerConfig) (watched : Watched) : Prop where
  /-- The breaker keeps its promises. -/
  safe : Safe config watched
  /-- No call came later than the last reading. -/
  timed : ∀ record ∈ watched.log, record.time ≤ watched.now
  /-- The last call left the state there is. -/
  last : ∀ record ∈ watched.log.getLast?, record.after = watched.breaker.state
  /-- The time stored is one that was read. -/
  stored : watched.breaker.state = .opened → watched.breaker.lastFailureTime ≤ watched.now
  /-- An open circuit stores the time of the last failure. -/
  waiting : watched.breaker.state = .opened → ∀ record ∈ watched.log, record.fails = true →
    record.time ≤ watched.breaker.lastFailureTime
  /-- When the circuit is not open, the timeout has passed since every failure that left it open. -/
  waited : watched.breaker.state ≠ .opened → ∀ record ∈ watched.log, record.fails = true →
    record.after = .opened → record.time + config.recoveryTimeout ≤ watched.now
  /-- The calls admitted in a half-open period are counted. -/
  counted : ∀ period, period <:+ watched.log → (∀ record ∈ period, record.after = .halfOpen) →
    period.countP Record.admitted ≤ watched.breaker.halfOpenCalls
  /-- No more are counted than are allowed. -/
  limited : watched.breaker.state = .halfOpen →
    watched.breaker.halfOpenCalls ≤ config.halfOpenMaxCalls
  /-- The failures since the last success are counted. -/
  failures : ∀ since, since <:+ watched.log → (∀ record ∈ since, ¬ record.Resets) →
    since.countP Record.fails ≤ watched.breaker.failureCount
  /-- A closed circuit counts fewer than the threshold. -/
  below : watched.breaker.state = .closed →
    watched.breaker.failureCount < config.failureThreshold

/-- A new breaker keeps its promises. -/
theorem kept_initial (limits : 1 ≤ config.failureThreshold) (start : ℚ) :
    Kept config (.initial start) := by
  have none : ∀ {part : List Record}, part <:+ [] → ∀ kind : Record → Bool,
      part.countP kind = 0 := by
    intro part suffix kind
    rw [List.suffix_nil.mp suffix, List.countP_nil]
  exact {
    safe := {
      waits := List.Pairwise.nil
      probes := fun period inside _ => by
        rw [List.infix_nil.mp inside, List.countP_nil]
        exact Nat.zero_le _
      opens := fun record member => nomatch member
      counts := fun _ since suffix _ => by
        rw [none suffix]
        exact limits }
    timed := fun record member => nomatch member
    last := fun record member => nomatch member
    stored := fun isOpen => nomatch isOpen
    waiting := fun isOpen => nomatch isOpen
    waited := fun _ record member => nomatch member
    counted := fun period suffix _ => (none suffix _).le
    limited := fun probing => nomatch probing
    failures := fun since suffix _ => (none suffix _).le
    below := fun _ => limits }

section Step

variable {watched : Watched} {call : Call} {time : ℚ} {next : CircuitBreaker} {admitted : Bool}

/-- Once the circuit is not open, the timeout has passed since every failure that left it open. -/
theorem Kept.passed (kept : Kept config watched) (past : watched.now ≤ time)
    (moves : call.Moves config time watched.breaker next admitted)
    (notOpen : next.state ≠ .opened) {record : Record} (member : record ∈ watched.log)
    (fails : record.fails = true) (after : record.after = .opened) :
    record.time + config.recoveryTimeout ≤ time := by
  by_cases isOpen : watched.breaker.state = .opened
  · have stored := kept.waiting isOpen record member fails
    have waited := moves.waits isOpen notOpen
    linarith
  · have waited := kept.waited isOpen record member fails after
    linarith

/-- The calls of a half-open period are counted with one more. -/
theorem Kept.counted_next (kept : Kept config watched)
    (moves : call.Moves config time watched.breaker next admitted) {period : List Record}
    (suffix : period <:+ watched.log ++ [⟨call, time, admitted, watched.breaker.state, next.state⟩])
    (all : ∀ record ∈ period, record.after = .halfOpen) :
    period.countP Record.admitted ≤ next.halfOpenCalls := by
  cases List.suffix_concat_iff.mp suffix with
  | inl empty =>
    rw [empty, List.countP_nil]
    exact Nat.zero_le _
  | inr more =>
    obtain ⟨earlier, split, before⟩ := more
    subst split
    have probing : next.state = .halfOpen :=
      all _ (List.mem_append_right _ List.mem_cons_self)
    have stillAll : ∀ record ∈ earlier, record.after = .halfOpen :=
      fun record member => all record (List.mem_append_left _ member)
    rw [List.countP_append, List.countP_singleton, moves.probes probing]
    apply Nat.add_le_add_right
    cases isLast : earlier.getLast? with
    | none =>
      rw [List.getLast?_eq_none_iff.mp isLast, List.countP_nil]
      exact Nat.zero_le _
    | some record =>
      have inLog : watched.log.getLast? = some record := by
        obtain ⟨front, whole⟩ := before
        rw [← whole, List.getLast?_append, isLast, Option.some_or]
      have same : watched.breaker.state = .halfOpen :=
        (kept.last record inLog).symm.trans (stillAll record (List.mem_of_getLast? isLast))
      rw [if_pos same]
      exact kept.counted earlier before stillAll

/-- No more calls are counted than are allowed, with one more. -/
theorem Kept.limited_next (kept : Kept config watched)
    (moves : call.Moves config time watched.breaker next admitted)
    (probing : next.state = .halfOpen) : next.halfOpenCalls ≤ config.halfOpenMaxCalls := by
  cases admission : admitted with
  | true => exact moves.limit probing admission
  | false =>
    have counted := moves.probes probing
    rw [admission] at counted
    by_cases same : watched.breaker.state = .halfOpen
    · rw [counted, if_pos same]
      exact kept.limited same
    · rw [counted, if_neg same]
      exact Nat.zero_le _

/-- The failures since the last success are counted with one more call. -/
theorem Kept.failures_next (kept : Kept config watched)
    (moves : call.Moves config time watched.breaker next admitted) {since : List Record}
    (suffix : since <:+ watched.log ++ [⟨call, time, admitted, watched.breaker.state, next.state⟩])
    (none : ∀ record ∈ since, ¬ record.Resets) :
    since.countP Record.fails ≤ next.failureCount := by
  cases List.suffix_concat_iff.mp suffix with
  | inl empty =>
    rw [empty, List.countP_nil]
    exact Nat.zero_le _
  | inr more =>
    obtain ⟨earlier, split, before⟩ := more
    subst split
    have other : call ≠ .recordSuccess :=
      fun is => none _ (List.mem_append_right _ List.mem_cons_self) (Or.inl is)
    have counted := kept.failures earlier before
      fun record member => none record (List.mem_append_left _ member)
    rw [List.countP_append, List.countP_singleton, moves.counts other]
    apply Nat.add_le_add counted
    simp only [Record.fails, beq_iff_eq]
    exact le_refl _

/-- A closed circuit counts fewer than the threshold, with one more call. -/
theorem Kept.below_next (limits : 1 ≤ config.failureThreshold) (kept : Kept config watched)
    (moves : call.Moves config time watched.breaker next admitted)
    (isClosed : next.state = .closed) : next.failureCount < config.failureThreshold := by
  cases moves.closed isClosed with
  | inl zero => omega
  | inr still =>
    obtain ⟨was, failed | same⟩ := still
    · exact moves.below failed isClosed
    · rw [same]
      exact kept.below was

/-- A call that moves the breaker keeps the promises. -/
theorem Kept.keeps (limits : 1 ≤ config.failureThreshold) (kept : Kept config watched)
    (past : watched.now ≤ time)
    (moves : call.Moves config time watched.breaker next admitted) :
    Kept config ⟨next, time,
      watched.log ++ [⟨call, time, admitted, watched.breaker.state, next.state⟩]⟩ := by
  have cases' : ∀ {record : Record}, record ∈ watched.log ++
      [⟨call, time, admitted, watched.breaker.state, next.state⟩] →
        record ∈ watched.log ∨ record = ⟨call, time, admitted, watched.breaker.state, next.state⟩ :=
    fun member => (List.mem_append.mp member).imp_right List.mem_singleton.mp
  refine ⟨⟨?_, ?_, ?_, ?_⟩, ?_, ?_, ?_, ?_, ?_, ?_, ?_, ?_, ?_⟩
  · refine List.pairwise_append.mpr ⟨kept.safe.waits, List.pairwise_singleton _ _, ?_⟩
    intro failure member admission is fails after granted
    rw [List.mem_singleton] at is
    subst is
    exact kept.passed past moves (moves.refuses granted) member fails after
  · intro period inside all
    cases List.infix_concat_iff.mp inside with
    | inr earlier => exact kept.safe.probes period earlier all
    | inl suffix =>
      have counted := kept.counted_next moves suffix all
      cases List.suffix_concat_iff.mp suffix with
      | inl empty =>
        rw [empty, List.countP_nil]
        exact Nat.zero_le _
      | inr more =>
        obtain ⟨earlier, split, -⟩ := more
        subst split
        have probing : next.state = .halfOpen :=
          all _ (List.mem_append_right _ List.mem_cons_self)
        exact counted.trans (kept.limited_next moves probing)
  · intro record member fails before
    cases cases' member with
    | inl earlier => exact kept.safe.opens record earlier fails before
    | inr is =>
      subst is
      have failure : call = .recordFailure := by simpa [Record.fails] using fails
      refine moves.stays failure fun isClosed => ?_
      rw [isClosed] at before
      cases before
  · intro isClosed since suffix none
    exact lt_of_le_of_lt (kept.failures_next moves suffix none)
      (kept.below_next limits moves isClosed)
  · intro record member
    cases cases' member with
    | inl earlier => exact (kept.timed record earlier).trans past
    | inr is =>
      subst is
      exact le_refl _
  · intro record isLast
    rw [List.getLast?_concat] at isLast
    cases isLast
    rfl
  · intro isOpen
    rw [moves.noted]
    split
    · exact le_refl _
    · next other =>
      exact (kept.stored ((moves.opened isOpen).resolve_right other)).trans past
  · intro isOpen record member fails
    rw [moves.noted]
    split
    · cases cases' member with
      | inl earlier => exact (kept.timed record earlier).trans past
      | inr is =>
        subst is
        exact le_refl _
    · next other =>
      cases cases' member with
      | inl earlier =>
        exact kept.waiting ((moves.opened isOpen).resolve_right other) record earlier fails
      | inr is =>
        subst is
        exact absurd (by simpa [Record.fails] using fails) other
  · intro notOpen record member fails after
    cases cases' member with
    | inl earlier => exact kept.passed past moves notOpen earlier fails after
    | inr is =>
      subst is
      exact absurd after notOpen
  · exact fun period suffix all => kept.counted_next moves suffix all
  · exact kept.limited_next moves
  · exact fun since suffix none => kept.failures_next moves suffix none
  · exact kept.below_next limits moves

end Step

/-- Every call keeps the promises. -/
theorem kept_step (limits : 1 ≤ config.failureThreshold) {watched : Watched}
    (kept : Kept config watched) {event : Call × ℚ} {next : Watched}
    (moved : watched.step config event = some next) : Kept config next := by
  unfold Watched.step at moved
  split at moved
  · next past =>
    cases moved
    exact kept.keeps limits past (event.1.moves_perform event.2 watched.breaker)
  · cases moved

/-- Whatever the callers do, the breaker keeps its promises. -/
theorem safe_of_run (limits : 1 ≤ config.failureThreshold) {start : ℚ}
    {events : List (Call × ℚ)} {watched : Watched}
    (ran : Machine.run (Watched.step config) (.initial start) events = some watched) :
    Safe config watched :=
  (Machine.run_invariant (Kept config) (fun _ _ _ kept moved => kept_step limits kept moved)
    (kept_initial limits start) ran).safe

section Sample

/-- A circuit that opens at the first failure and tries again a minute later. -/
def hastyConfig : CircuitBreakerConfig := { failureThreshold := 1 }

/-- A call fails, and another is admitted a minute later. -/
def failAndRetry : List (Call × ℚ) :=
  [(.canExecute, 0), (.recordFailure, 1), (.canExecute, 2), (.canExecute, 61)]

/-- What is left of them. -/
def retried : Watched :=
  ⟨{ state := .halfOpen, failureCount := 1, lastFailureTime := 1, halfOpenCalls := 1 }, 61,
    [⟨.canExecute, 0, true, .closed, .closed⟩, ⟨.recordFailure, 1, false, .closed, .opened⟩,
      ⟨.canExecute, 2, false, .opened, .opened⟩, ⟨.canExecute, 61, true, .opened, .halfOpen⟩]⟩

/-- The breaker keeps its promises of them. -/
theorem safe_retried : Safe hastyConfig retried := by
  have ran : Machine.run (Watched.step hastyConfig) (.initial 0) failAndRetry = some retried := by
    decide +kernel
  exact safe_of_run (by decide) ran

end Sample

end VelaFlow.Security.CircuitBreaker
