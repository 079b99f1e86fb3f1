import Mathlib.Algebra.Order.Ring.Rat
import Mathlib.Tactic.Linarith
import VelaFlow.Security.Ban

/-!
# When failures lead to a ban

A key with enough failures since its last success or removal should be banned for the seconds of
the rule they meet. The record remembers the stage it has reached and not that the ban of the stage
has run out, so failures that only meet rules of stages reached before ban nothing.
-/
namespace VelaFlow.Security

namespace BanManager

/-- The manager after a run of calls. -/
def run (manager : BanManager) (events : List BanEvent) : BanManager :=
  events.foldl BanEvent.perform manager

/-- What a call does to the failures counted for a key. -/
def countFailure (key : String) (failures : List ℚ) (event : BanEvent) : List ℚ :=
  match event.call with
  | .recordFailure other => if other = key then failures ++ [(event.now : ℚ)] else failures
  | .recordSuccess other | .unban other => if other = key then [] else failures
  | _ => failures

/-- The failures of a key since its last success or removal. -/
def failuresSince (key : String) (events : List BanEvent) : List ℚ :=
  events.foldl (countFailure key) []

/-- A key is banned for ever. -/
def IsPermanent (manager : BanManager) (key : String) : Prop :=
  (manager.permanentBans.get? key).isSome = true ∨
    ∃ record, manager.records key = some record ∧ record.isPermanent = true

/-- A ban of the stage of a rule is running. -/
def Runs (manager : BanManager) (rule : EscalationRule) (key : String) (now : ℚ) : Prop :=
  ∃ record, manager.records key = some record ∧ record.stage = rule.stage ∧ now < record.bannedUntil

/-- A key is banned as a rule asks: for the seconds of the rule from now on, or by an earlier ban
of the stage that is still running. -/
def Bans (manager : BanManager) (rule : EscalationRule) (key : String) (now : ℚ) : Prop :=
  manager.isBanned key now = true ∧
    ((rule.banSeconds : WithTop ℚ) ≤ manager.getBanRemaining key now ∨ manager.Runs rule key now)

/-- After each failure of a run, the key is banned as every rule asks that its failures meet. -/
def Escalates (manager : BanManager) (events : List BanEvent) : Prop :=
  ∀ before event key, before ++ [event] <+: events → event.call = .recordFailure key →
    ∀ rule ∈ escalationRules, rule.Met (failuresSince key (before ++ [event])) event.now →
      (manager.run (before ++ [event])).Bans rule key event.now

/-- A failure of a key meets no rules, or one of a stage that its record has not reached, or rules
for which the ban of the stage reached is long enough; or the key is banned for ever. -/
def Renews (manager : BanManager) (failures : List ℚ) (key : String) (now : ℚ) : Prop :=
  manager.IsPermanent key ∨
    (∃ rule ∈ escalationRules, rule.Met failures now ∧
      ((manager.records key).getD {}).stage.value < rule.stage.value) ∨
    ∀ rule ∈ escalationRules, rule.Met failures now →
      ((manager.records key).getD {}).stage = rule.stage ∧
          now < ((manager.records key).getD {}).bannedUntil ∨
        now + rule.banSeconds ≤ ((manager.records key).getD {}).bannedUntil

/-- Every failure of a run finds the key so. -/
def Renewed (manager : BanManager) (events : List BanEvent) : Prop :=
  ∀ before event key, before ++ [event] <+: events → event.call = .recordFailure key →
    (manager.run before).Renews (failuresSince key (before ++ [event])) key event.now

variable {manager : BanManager} {key : String} {now : ℚ} {written : Bool}

/-- A key stays banned for ever when its record stays and its place in the map does. -/
theorem IsPermanent.mono {next : BanManager} (permanent : manager.IsPermanent key)
    (listed : (manager.permanentBans.get? key).isSome = true →
      (next.permanentBans.get? key).isSome = true)
    (records : next.records key = manager.records key) : next.IsPermanent key :=
  permanent.imp listed fun ⟨record, recorded, forever⟩ =>
    ⟨record, records.trans recorded, forever⟩

/-- A key that is banned for ever is banned. -/
theorem isBanned_of_isPermanent (permanent : manager.IsPermanent key) :
    manager.isBanned key now = true := by
  unfold isBanned
  by_cases listed : (manager.permanentBans.get? key).isSome = true
  · rw [if_pos listed]
  · obtain ⟨record, recorded, isPermanent⟩ := permanent.resolve_left listed
    rw [if_neg listed, recorded]
    simp [isPermanent]

/-- It remains banned for ever. -/
theorem getBanRemaining_of_isPermanent (permanent : manager.IsPermanent key) :
    manager.getBanRemaining key now = ⊤ := by
  unfold getBanRemaining
  by_cases listed : (manager.permanentBans.get? key).isSome = true
  · rw [if_pos listed]
  · obtain ⟨record, recorded, isPermanent⟩ := permanent.resolve_left listed
    rw [if_neg listed, recorded]
    simp [isPermanent]

/-- It is banned as every rule asks. -/
theorem bans_of_isPermanent (permanent : manager.IsPermanent key) (rule : EscalationRule) :
    manager.Bans rule key now :=
  ⟨isBanned_of_isPermanent permanent, Or.inl (by
    rw [getBanRemaining_of_isPermanent permanent]
    exact le_top)⟩

/-- Another key is banned as its record says. -/
theorem bans_iff_of_record {record : BanRecord} {rule : EscalationRule}
    (temporary : ¬ manager.IsPermanent key) (recorded : manager.records key = some record)
    (reading : 0 ≤ now) (positive : 0 < rule.banSeconds) :
    manager.Bans rule key now ↔ record.stage = rule.stage ∧ now < record.bannedUntil ∨
      now + rule.banSeconds ≤ record.bannedUntil := by
  have unlisted : ¬ (manager.permanentBans.get? key).isSome = true := fun listed =>
    temporary (Or.inl listed)
  have timed : record.isPermanent = false := by
    cases isPermanent : record.isPermanent with
    | true => exact absurd (Or.inr ⟨record, recorded, isPermanent⟩) temporary
    | false => rfl
  have banned : manager.isBanned key now = true ↔ now < record.bannedUntil := by
    unfold isBanned
    rw [if_neg unlisted, recorded]
    simp only [timed, Bool.false_or, decide_eq_true_iff]
    exact ⟨And.right, fun running => ⟨lt_of_le_of_lt reading running, running⟩⟩
  have remaining : (rule.banSeconds : WithTop ℚ) ≤ manager.getBanRemaining key now ↔
      now + rule.banSeconds ≤ record.bannedUntil := by
    unfold getBanRemaining
    rw [if_neg unlisted, recorded]
    simp only [timed, Bool.false_eq_true, if_false, WithTop.coe_le_coe, le_max_iff]
    constructor
    · intro enough
      have left := enough.resolve_left (not_le.mpr positive)
      linarith
    · intro enough
      right
      linarith
  have runs : manager.Runs rule key now ↔ record.stage = rule.stage ∧ now < record.bannedUntil := by
    unfold Runs
    rw [recorded]
    simp
  unfold Bans
  rw [banned, remaining, runs]
  constructor
  · rintro ⟨-, enough | running⟩
    · exact Or.inr enough
    · exact Or.inl running
  · rintro (running | enough)
    · exact ⟨running.2, Or.inr running⟩
    · exact ⟨by linarith, Or.inl enough⟩

/-- The rules have rising stages, and a ban of a higher stage is not shorter. -/
theorem escalationRules_rising :
    escalationRules.Pairwise fun first second => first.stage.value < second.stage.value := by
  decide

/-- A ban of a higher stage is not shorter. -/
theorem banSeconds_mono {first second : EscalationRule} (one : first ∈ escalationRules)
    (two : second ∈ escalationRules) (below : first.stage.value ≤ second.stage.value) :
    first.banSeconds ≤ second.banSeconds := by
  have all : ∀ first ∈ escalationRules, ∀ second ∈ escalationRules,
      first.stage.value ≤ second.stage.value → first.banSeconds ≤ second.banSeconds := by
    decide
  exact all first one second two below

/-- Every ban takes some time. -/
theorem banSeconds_pos {rule : EscalationRule} (inside : rule ∈ escalationRules) :
    0 < rule.banSeconds := by
  have all : ∀ rule ∈ escalationRules, 0 < rule.banSeconds := by
    decide
  exact all rule inside

/-- A failure that no rule raises the key for is only noted. -/
theorem recordFailure_of_not_raises
    (quiet : ∀ rule ∈ escalationRules, ¬ Raises (manager.failed key now) now rule) :
    manager.recordFailure key now written =
      { manager with
        records := Function.update manager.records key (some (manager.failed key now)) } := by
  have none : (escalationRules.filter fun rule =>
      decide (Raises (manager.failed key now) now rule)) = [] := by
    rw [List.filter_eq_nil_iff]
    exact fun rule inside raised => quiet rule inside (of_decide_eq_true raised)
  unfold recordFailure evaluateEscalation
  rw [foldl_escalate _ _ escalationRules_rising]
  simp only [none, List.getLast?_nil]

/-- Any other failure raises the key by the highest of the rules that it meets. -/
theorem recordFailure_of_raises {rule : EscalationRule} (inside : rule ∈ escalationRules)
    (raised : Raises (manager.failed key now) now rule) :
    ∃ highest ∈ escalationRules, Raises (manager.failed key now) now highest ∧
      (∀ other ∈ escalationRules, other.Met (manager.failed key now).failures now →
        other.stage.value ≤ highest.stage.value) ∧
      manager.recordFailure key now written =
        { (raise key now written (manager, manager.failed key now) highest).1 with
          records := Function.update manager.records key
            (some (raise key now written (manager, manager.failed key now) highest).2) } := by
  have filtered : ∀ {other : EscalationRule}, other ∈ escalationRules →
      Raises (manager.failed key now) now other →
      other ∈ escalationRules.filter fun rule =>
        decide (Raises (manager.failed key now) now rule) := fun among above =>
    List.mem_filter.mpr ⟨among, decide_eq_true above⟩
  obtain ⟨highest, last⟩ := Option.ne_none_iff_exists'.mp
    (mt List.getLast?_eq_none_iff.mp (List.ne_nil_of_mem (filtered inside raised)))
  have member := List.mem_filter.mp (List.mem_of_getLast? last)
  have raises : Raises (manager.failed key now) now highest := of_decide_eq_true member.2
  refine ⟨highest, member.1, raises, ?_, ?_⟩
  · intro other among met
    by_cases above : Raises (manager.failed key now) now other
    · obtain ⟨lower, split⟩ := List.getLast?_eq_some_iff.mp last
      have ordered := escalationRules_rising.filter fun rule =>
        decide (Raises (manager.failed key now) now rule)
      have one := filtered among above
      rw [split] at ordered one
      cases List.mem_append.mp one with
      | inl before =>
        exact le_of_lt ((List.pairwise_append.mp ordered).2.2 other before highest
          List.mem_cons_self)
      | inr same =>
        rw [List.mem_singleton.mp same]
    · have reached : ¬ (manager.failed key now).stage.value < other.stage.value := fun below =>
        above ⟨below, met⟩
      have below := raises.1
      omega
  · unfold recordFailure evaluateEscalation
    rw [foldl_escalate _ _ escalationRules_rising]
    simp only [last, raise_records]

/-- The highest rule that raises a key bans it, and so as every lower rule asks. -/
theorem bans_of_raises {rule other : EscalationRule} (reading : 0 ≤ now)
    (inside : rule ∈ escalationRules) (among : other ∈ escalationRules)
    (raised : Raises (manager.failed key now) now rule)
    (met : other.Met (manager.failed key now).failures now) :
    (manager.recordFailure key now written).Bans other key now := by
  obtain ⟨highest, member, -, above, is⟩ := recordFailure_of_raises inside raised
  rw [is]
  by_cases forever : highest.stage = .hard ∧ manager.permanentStage3 = true
  · apply bans_of_isPermanent
    right
    exact ⟨_, Function.update_self .., by simp [raise, forever]⟩
  · have longer := banSeconds_mono among member (above other among met)
    by_cases already : IsPermanent { (raise key now written (manager, manager.failed key now)
        highest).1 with
          records := Function.update manager.records key
            (some (raise key now written (manager, manager.failed key now) highest).2) } key
    · exact bans_of_isPermanent already other
    · apply (bans_iff_of_record already (Function.update_self ..) reading
        (banSeconds_pos among)).mpr
      right
      unfold raise
      rw [if_neg forever]
      show now + other.banSeconds ≤ now + highest.banSeconds
      linarith

/-- A failure changes the record of its key only, and adds the failure to it. -/
theorem records_recordFailure : ∃ record,
    (manager.recordFailure key now written).records =
        Function.update manager.records key (some record) ∧
      record.failures = (manager.failed key now).failures ∧
      ((manager.failed key now).isPermanent = true → record.isPermanent = true) := by
  by_cases raised : ∃ rule ∈ escalationRules, Raises (manager.failed key now) now rule
  · obtain ⟨rule, inside, raises⟩ := raised
    obtain ⟨highest, -, -, -, is⟩ := recordFailure_of_raises inside raises
    refine ⟨_, congrArg records is, raise_failures highest, fun forever => ?_⟩
    exact raise_isPermanent highest forever
  · have quiet : ∀ rule ∈ escalationRules, ¬ Raises (manager.failed key now) now rule :=
      fun rule inside raises => raised ⟨rule, inside, raises⟩
    exact ⟨_, congrArg records (recordFailure_of_not_raises quiet), rfl, id⟩

/-- A failure takes no permanent ban away. -/
theorem isSome_permanentBans_recordFailure {other : String}
    (listed : (manager.permanentBans.get? key).isSome = true) :
    ((manager.recordFailure other now written).permanentBans.get? key).isSome = true := by
  by_cases raised : ∃ rule ∈ escalationRules, Raises (manager.failed other now) now rule
  · obtain ⟨rule, inside, raises⟩ := raised
    obtain ⟨highest, -, -, -, is⟩ := recordFailure_of_raises inside raises
    rw [is]
    show ((raise other now written (manager, manager.failed other now) highest).1.permanentBans.get?
      key).isSome = true
    rw [raise_permanentBans]
    split
    · exact isSome_get?_set listed
    · exact listed
  · have quiet : ∀ rule ∈ escalationRules, ¬ Raises (manager.failed other now) now rule :=
      fun rule inside raises => raised ⟨rule, inside, raises⟩
    rw [recordFailure_of_not_raises quiet]
    exact listed

/-- A key that is banned for ever stays so when some key fails. -/
theorem isPermanent_recordFailure {other : String} (permanent : manager.IsPermanent key) :
    (manager.recordFailure other now written).IsPermanent key := by
  cases permanent with
  | inl listed => exact Or.inl (isSome_permanentBans_recordFailure listed)
  | inr recorded =>
    obtain ⟨record, is, forever⟩ := recorded
    obtain ⟨next, after, -, keeps⟩ := @records_recordFailure manager other now written
    right
    rw [after]
    by_cases same : key = other
    · subst same
      refine ⟨next, Function.update_self .., keeps ?_⟩
      unfold failed
      rw [is]
      exact forever
    · exact ⟨record, by rw [Function.update_of_ne same, is], forever⟩

/-- What a failure leads to, by what it finds. -/
theorem bans_recordFailure_iff {failures : List ℚ} (reading : 0 ≤ now)
    (counted : ¬ manager.IsPermanent key →
      (manager.failed key now).failures = failures) :
    (∀ rule ∈ escalationRules, rule.Met failures now →
        (manager.recordFailure key now written).Bans rule key now) ↔
      manager.Renews failures key now := by
  by_cases permanent : manager.IsPermanent key
  · constructor
    · intro _
      exact Or.inl permanent
    · intro _ rule _ _
      exact bans_of_isPermanent (isPermanent_recordFailure permanent) rule
  · have noted := counted permanent
    by_cases raised : ∃ rule ∈ escalationRules, Raises (manager.failed key now) now rule
    · obtain ⟨rule, inside, raises⟩ := raised
      constructor
      · intro _
        right
        left
        exact ⟨rule, inside, noted ▸ raises.2, raises.1⟩
      · intro _ other among met
        rw [← noted] at met
        exact bans_of_raises reading inside among raises met
    · have quiet : ∀ rule ∈ escalationRules, ¬ Raises (manager.failed key now) now rule :=
        fun rule inside raises => raised ⟨rule, inside, raises⟩
      have temporary : ¬ IsPermanent { manager with
          records := Function.update manager.records key (some (manager.failed key now)) } key := by
        rintro (listed | ⟨record, recorded, forever⟩)
        · exact permanent (Or.inl listed)
        · obtain rfl : manager.failed key now = record :=
            Option.some.inj ((Function.update_self key _ manager.records).symm.trans recorded)
          cases found : manager.records key with
          | none =>
            unfold failed at forever
            rw [found] at forever
            cases forever
          | some record =>
            unfold failed at forever
            rw [found] at forever
            exact permanent (Or.inr ⟨record, found, forever⟩)
      rw [recordFailure_of_not_raises quiet]
      constructor
      · intro bans
        right
        right
        intro rule inside met
        exact (bans_iff_of_record temporary (Function.update_self ..) reading
          (banSeconds_pos inside)).mp (bans rule inside met)
      · intro renews rule inside met
        apply (bans_iff_of_record temporary (Function.update_self ..) reading
          (banSeconds_pos inside)).mpr
        cases renews with
        | inl forever => exact absurd forever permanent
        | inr either =>
          cases either with
          | inl raises =>
            obtain ⟨above, among, met, below⟩ := raises
            exact absurd ⟨below, noted.symm ▸ met⟩ (quiet above among)
          | inr lasting => exact lasting rule inside met

/-- Unless a key is banned for ever, its record holds the failures counted for it. -/
def Counts (manager : BanManager) (events : List BanEvent) : Prop :=
  ∀ key, ¬ manager.IsPermanent key →
    ((manager.records key).getD {}).failures = failuresSince key events

/-- Each call keeps the count. -/
theorem counts_perform {events : List BanEvent} (counts : manager.Counts events)
    (event : BanEvent) : (event.perform manager).Counts (events ++ [event]) := by
  intro key temporary
  have since : failuresSince key (events ++ [event]) =
      countFailure key (failuresSince key events) event := by
    unfold failuresSince
    rw [List.foldl_append]
    rfl
  rw [since]
  obtain ⟨call, now, written⟩ := event
  cases call with
  | isBanned other => exact counts key temporary
  | getBanRemaining other => exact counts key temporary
  | listBans => exact counts key temporary
  | recordFailure other =>
    have before := counts key fun permanent => temporary (isPermanent_recordFailure permanent)
    obtain ⟨record, after, failures, -⟩ := @records_recordFailure manager other now written
    show (((manager.recordFailure other now written).records key).getD {}).failures =
      if other = key then failuresSince key events ++ [(now : ℚ)] else failuresSince key events
    rw [after]
    by_cases same : other = key
    · subst same
      rw [Function.update_self, if_pos rfl, ← before]
      exact failures
    · rw [Function.update_of_ne (Ne.symm same), if_neg same]
      exact before
  | recordSuccess other =>
    show (((manager.recordSuccess other).records key).getD {}).failures =
      if other = key then [] else failuresSince key events
    have records := @recordSuccess_records manager key other
    by_cases same : key = other
    · subst same
      rw [if_pos rfl] at records ⊢
      cases kept : (manager.records key).filter BanRecord.isPermanent with
      | none =>
        rw [records, kept]
        rfl
      | some record =>
        have forever := (Option.filter_eq_some_iff.mp kept).2
        exact absurd (Or.inr ⟨record, records.trans kept, forever⟩) temporary
    · rw [if_neg same] at records
      rw [if_neg (Ne.symm same), records]
      exact counts key fun permanent => temporary (permanent.mono (fun listed => by
        show ((manager.recordSuccess other).permanentBans.get? key).isSome = true
        rw [recordSuccess_permanentBans]
        exact listed) records)
  | banPermanent other reason =>
    have records : (manager.banPermanent other reason written).records = manager.records :=
      savePersistentBans_records
    show (((manager.banPermanent other reason written).records key).getD {}).failures =
      failuresSince key events
    rw [records]
    apply counts key
    intro permanent
    apply temporary
    apply permanent.mono _ (congrFun records key)
    intro listed
    show ((manager.banPermanent other reason written).permanentBans.get? key).isSome = true
    unfold banPermanent
    rw [savePersistentBans_permanentBans]
    exact isSome_get?_set listed
  | unban other =>
    show (((manager.unban other written).2.records key).getD {}).failures =
      if other = key then [] else failuresSince key events
    have records := @unban_records manager key other written
    by_cases same : key = other
    · rw [if_pos same] at records
      rw [if_pos same.symm, records]
      rfl
    · rw [if_neg same] at records
      rw [if_neg (Ne.symm same), records]
      apply counts key
      intro permanent
      apply temporary
      apply permanent.mono _ records
      intro listed
      show ((manager.unban other written).2.permanentBans.get? key).isSome = true
      rw [unban_permanentBans, if_neg same]
      exact listed

/-- A new manager has counted no failures. -/
theorem counts_new (permanentStage3 persists : Bool) (file : Option Json) :
    (new permanentStage3 persists file).Counts [] := by
  intro key _
  unfold new loadPersistentBans
  split <;> rfl

/-- Runs keep the count. -/
theorem counts_run (counts : manager.Counts []) (events : List BanEvent) :
    (manager.run events).Counts events := by
  induction events using List.reverseRecOn with
  | nil => exact counts
  | append_singleton before event ih =>
    unfold run at ih ⊢
    rw [List.foldl_append]
    exact counts_perform ih event

/-- From a new manager on, whatever it is told and whenever: every failure bans its key as the
rules ask exactly when each finds its key so that one of the rules renews the ban or the ban lasts
long enough. -/
theorem escalates_iff (permanentStage3 persists : Bool) (file : Option Json)
    (events : List BanEvent) :
    (new permanentStage3 persists file).Escalates events ↔
      (new permanentStage3 persists file).Renewed events := by
  have each : ∀ (before : List BanEvent) (event : BanEvent) (key : String),
      event.call = .recordFailure key →
      ((∀ rule ∈ escalationRules,
          rule.Met (failuresSince key (before ++ [event])) event.now →
          ((new permanentStage3 persists file).run (before ++ [event])).Bans rule key event.now) ↔
        ((new permanentStage3 persists file).run before).Renews
          (failuresSince key (before ++ [event])) key event.now) := by
    intro before event key call
    have after : (new permanentStage3 persists file).run (before ++ [event]) =
        ((new permanentStage3 persists file).run before).recordFailure key event.now
          event.written := by
      unfold run
      rw [List.foldl_append]
      show BanEvent.perform _ event = _
      unfold BanEvent.perform
      rw [call]
    have since : failuresSince key (before ++ [event]) =
        failuresSince key before ++ [(event.now : ℚ)] := by
      unfold failuresSince
      rw [List.foldl_append]
      show countFailure key _ event = _
      unfold countFailure
      rw [call]
      exact if_pos rfl
    rw [after, since]
    apply bans_recordFailure_iff event.now.2
    intro temporary
    rw [← counts_run (counts_new permanentStage3 persists file) before key temporary]
    rfl
  constructor
  · intro escalates before event key inside call
    exact (each before event key call).mp (escalates before event key inside call)
  · intro renewed before event key inside call
    exact (each before event key call).mpr (renewed before event key inside call)

/-- Five failures of one address in five seconds, from some second on. -/
def fiveFailures (start : ℚ≥0) : List BanEvent :=
  [0, 1, 2, 3, 4].map fun second =>
    { call := .recordFailure "203.0.113.7", now := start + second }

/-- An address that fails five times again after its ban is not banned again. -/
theorem expired_ban_not_renewed :
    ¬ (new false false none).Escalates (fiveFailures 0 ++ fiveFailures 1000) := by
  intro escalates
  have bans := escalates (fiveFailures 0 ++ (fiveFailures 1000).take 4)
    { call := .recordFailure "203.0.113.7", now := 1004 } "203.0.113.7" (by decide +kernel) rfl
    ⟨.soft, 5, 300, 300⟩ (by decide) (by decide +kernel)
  have free : ((new false false none).run (fiveFailures 0 ++ (fiveFailures 1000).take 4 ++
      [{ call := .recordFailure "203.0.113.7", now := 1004 }])).isBanned "203.0.113.7"
        (1004 : ℚ≥0) = false := by
    decide +kernel
  exact Bool.eq_false_iff.mp free bans.1

end BanManager

end VelaFlow.Security
