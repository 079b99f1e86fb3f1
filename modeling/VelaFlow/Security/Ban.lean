import Mathlib.Data.NNRat.Defs
import Mathlib.Algebra.Order.Ring.Rat
import Mathlib.Data.List.Induction
import Mathlib.Logic.Function.Basic
import Mathlib.Order.WithBot
import VelaFlow.Foundation.Json

/-!
# The ban manager of `security/ban.py`

Failed attempts of a key raise it through three stages of bans. A record holds the attempts, the
stage and the end of the ban; permanent bans are kept beside the records in a map that is saved to
a file. Each method holds the lock for its whole body, so it is one step. Readings of
`time.monotonic()` are never negative, and a write of the file that fails leaves it as it was.
-/
namespace VelaFlow.Security

/-- `BanStage`. -/
inductive BanStage where
  /-- No ban. -/
  | none
  /-- Five minutes. -/
  | soft
  /-- Thirty minutes. -/
  | medium
  /-- A day, or for ever if so configured. -/
  | hard
  deriving DecidableEq, Repr

/-- The value of a member of the enumeration. -/
def BanStage.value : BanStage → Nat
  | none => 0
  | soft => 1
  | medium => 2
  | hard => 3

/-- `stage.name`. -/
def BanStage.name : BanStage → String
  | none => "NONE"
  | soft => "SOFT"
  | medium => "MEDIUM"
  | hard => "HARD"

/-- An entry of `_ESCALATION_RULES`, with the stage of its place. -/
structure EscalationRule where
  /-- The stage it raises to. -/
  stage : BanStage
  /-- How many failures it takes. -/
  threshold : Nat
  /-- The seconds they lie in. -/
  window : ℚ
  /-- The seconds of the ban. -/
  banSeconds : ℚ
  deriving DecidableEq, Repr

/-- `_ESCALATION_RULES`. -/
def escalationRules : List EscalationRule :=
  [⟨.soft, 5, 300, 300⟩, ⟨.medium, 10, 900, 1800⟩, ⟨.hard, 20, 3600, 86400⟩]

/-- Enough failures lie in the window of a rule that ends now. -/
def EscalationRule.Met (rule : EscalationRule) (failures : List ℚ) (now : ℚ) : Prop :=
  rule.threshold ≤ (failures.filter fun time => decide (now - rule.window < time)).length

instance (rule : EscalationRule) (failures : List ℚ) (now : ℚ) :
    Decidable (rule.Met failures now) :=
  inferInstanceAs (Decidable (_ ≤ _))

/-- `_BanRecord`. -/
structure BanRecord where
  /-- The times of the failures, the earliest first. -/
  failures : List ℚ := []
  /-- The end of the ban. -/
  bannedUntil : ℚ := 0
  /-- The stage reached. -/
  stage : BanStage := .none
  /-- The key is banned for ever. -/
  isPermanent : Bool := false
  deriving DecidableEq, Repr

/-- The fields of a `BanManager`, with its file. -/
structure BanManager where
  /-- `_records`. -/
  records : String → Option BanRecord := fun _ => Option.none
  /-- `_permanent_stage3`. -/
  permanentStage3 : Bool := false
  /-- `_permanent_bans`: the reason for each key. -/
  permanentBans : Dict := []
  /-- There is a `_persist_path`. -/
  persists : Bool := false
  /-- What the file there holds, if it is there and parses. -/
  file : Option Json := Option.none

/-- What `list_bans` says of a key. -/
inductive BanEntry where
  /-- Of type "permanent". -/
  | permanent (reason : Json) (remaining : WithTop ℚ)
  /-- Of type "temporary". -/
  | temporary (stage : String) (remaining : WithTop ℚ) (failureCount : Nat)

namespace BanManager

/-- `del d[key]`. -/
def without (dict : Dict) (key : String) : Dict := dict.filter fun pair => pair.1 != key

/-- `_load_persistent_bans`. -/
def loadPersistentBans (manager : BanManager) : BanManager :=
  match manager.persists, manager.file with
  | true, some (.obj data) =>
    { manager with
      permanentBans := data.foldl (fun bans pair => bans.set pair.1 pair.2) manager.permanentBans }
  | _, _ => manager

/-- `_save_persistent_bans`, with whether the file can be written. -/
def savePersistentBans (written : Bool) (manager : BanManager) : BanManager :=
  if manager.persists && written then { manager with file := some (.obj manager.permanentBans) }
  else manager

/-- `BanManager(permanent_stage3, persist_path)`, with what the file holds. -/
def new (permanentStage3 persists : Bool) (file : Option Json) : BanManager :=
  loadPersistentBans { permanentStage3, persists, file }

/-- A new `BanManager` on the same path. -/
def restart (manager : BanManager) : BanManager :=
  new manager.permanentStage3 manager.persists manager.file

/-- `is_banned`. -/
def isBanned (manager : BanManager) (key : String) (now : ℚ) : Bool :=
  if (manager.permanentBans.get? key).isSome then true
  else
    match manager.records key with
    | Option.none => false
    | some record =>
      record.isPermanent || decide (0 < record.bannedUntil ∧ now < record.bannedUntil)

/-- `get_ban_remaining`. -/
def getBanRemaining (manager : BanManager) (key : String) (now : ℚ) : WithTop ℚ :=
  if (manager.permanentBans.get? key).isSome then ⊤
  else
    match manager.records key with
    | Option.none => ((0 : ℚ) : WithTop ℚ)
    | some record =>
      if record.isPermanent then ⊤ else ((max 0 (record.bannedUntil - now) : ℚ) : WithTop ℚ)

/-- What a rule does when it raises a key. -/
def raise (key : String) (now : ℚ) (written : Bool) (state : BanManager × BanRecord)
    (rule : EscalationRule) : BanManager × BanRecord :=
  if rule.stage = .hard ∧ state.1.permanentStage3 then
    (savePersistentBans written { state.1 with
        permanentBans := state.1.permanentBans.set key (.str "Stage 3 auto-escalation") },
      { state.2 with stage := rule.stage, isPermanent := true, bannedUntil := 0 })
  else
    (state.1, { state.2 with stage := rule.stage, bannedUntil := now + rule.banSeconds })

/-- A rule raises a record that has not reached its stage and has the failures for it. -/
def Raises (record : BanRecord) (now : ℚ) (rule : EscalationRule) : Prop :=
  record.stage.value < rule.stage.value ∧ rule.Met record.failures now

instance (record : BanRecord) (now : ℚ) (rule : EscalationRule) :
    Decidable (Raises record now rule) :=
  inferInstanceAs (Decidable (_ ∧ _))

/-- One turn of the loop of `_evaluate_escalation`. -/
def escalate (key : String) (now : ℚ) (written : Bool) (state : BanManager × BanRecord)
    (rule : EscalationRule) : BanManager × BanRecord :=
  if Raises state.2 now rule then raise key now written state rule else state

/-- `_evaluate_escalation`. -/
def evaluateEscalation (manager : BanManager) (key : String) (record : BanRecord) (now : ℚ)
    (written : Bool) : BanManager × BanRecord :=
  escalationRules.foldl (escalate key now written) (manager, record)

/-- The record of a key with one more failure. -/
def failed (manager : BanManager) (key : String) (now : ℚ) : BanRecord :=
  let record := (manager.records key).getD {}
  { record with failures := record.failures ++ [now] }

/-- `record_failure`. -/
def recordFailure (manager : BanManager) (key : String) (now : ℚ) (written : Bool) : BanManager :=
  let (manager, record) := evaluateEscalation manager key (manager.failed key now) now written
  { manager with records := Function.update manager.records key (some record) }

/-- `record_success`. -/
def recordSuccess (manager : BanManager) (key : String) : BanManager :=
  match manager.records key with
  | some record =>
    if record.isPermanent then manager
    else { manager with records := Function.update manager.records key Option.none }
  | Option.none => manager

/-- `ban_permanent`. -/
def banPermanent (manager : BanManager) (key reason : String) (written : Bool) : BanManager :=
  savePersistentBans written { manager with
    permanentBans := manager.permanentBans.set key
      (.str (if reason = "" then "Manual admin ban" else reason)) }

/-- `unban`: whether a ban was removed, and the manager after it. -/
def unban (manager : BanManager) (key : String) (written : Bool) : Bool × BanManager :=
  let (removed, manager) :=
    if (manager.permanentBans.get? key).isSome then
      (true, savePersistentBans written
        { manager with permanentBans := without manager.permanentBans key })
    else (false, manager)
  if (manager.records key).isSome then
    (true, { manager with records := Function.update manager.records key Option.none })
  else (removed, manager)

/-- `list_bans`: the entry of each key that has one. -/
def listBans (manager : BanManager) (now : ℚ) (key : String) : Option BanEntry :=
  match manager.permanentBans.get? key with
  | some reason => some (.permanent reason ⊤)
  | Option.none =>
    match manager.records key with
    | Option.none => Option.none
    | some record =>
      if record.isPermanent ∨ 0 < record.bannedUntil ∧ now < record.bannedUntil then
        some (.temporary record.stage.name
          (if record.isPermanent then ⊤ else ((record.bannedUntil - now : ℚ) : WithTop ℚ))
          record.failures.length)
      else Option.none

end BanManager

/-- A call of a public method of the ban manager. -/
inductive BanCall where
  /-- `is_banned(key)`. -/
  | isBanned (key : String)
  /-- `get_ban_remaining(key)`. -/
  | getBanRemaining (key : String)
  /-- `record_failure(key)`. -/
  | recordFailure (key : String)
  /-- `record_success(key)`. -/
  | recordSuccess (key : String)
  /-- `ban_permanent(key, reason)`. -/
  | banPermanent (key reason : String)
  /-- `unban(key)`. -/
  | unban (key : String)
  /-- `list_bans()`. -/
  | listBans
  deriving DecidableEq, Repr

/-- A call with the reading of the clock and whether the file can be written then. -/
structure BanEvent where
  /-- The call. -/
  call : BanCall
  /-- The reading of the clock. -/
  now : ℚ≥0
  /-- The file can be written. -/
  written : Bool := true
  deriving DecidableEq

/-- The manager after a call. -/
def BanEvent.perform (manager : BanManager) (event : BanEvent) : BanManager :=
  match event.call with
  | .recordFailure key => manager.recordFailure key event.now event.written
  | .recordSuccess key => manager.recordSuccess key
  | .banPermanent key reason => manager.banPermanent key reason event.written
  | .unban key => (manager.unban key event.written).2
  | .isBanned _ | .getBanRemaining _ | .listBans => manager

namespace BanManager

variable {manager : BanManager} {key other : String} {now : ℚ} {written : Bool}
  {state : BanManager × BanRecord} {first second : EscalationRule}

/-- Saving the permanent bans changes the file only. -/
@[simp] theorem savePersistentBans_records :
    (savePersistentBans written manager).records = manager.records := by
  unfold savePersistentBans
  split <;> rfl

/-- Saving keeps the map that it saves. -/
@[simp] theorem savePersistentBans_permanentBans :
    (savePersistentBans written manager).permanentBans = manager.permanentBans := by
  unfold savePersistentBans
  split <;> rfl

/-- A deleted key is gone, and no other is. -/
theorem get?_without (dict : Dict) :
    (without dict other).get? key = if key = other then none else dict.get? key := by
  induction dict with
  | nil => simp [without]
  | cons pair rest ih =>
    obtain ⟨first, value⟩ := pair
    unfold without at ih ⊢
    by_cases gone : first = other
    · subst gone
      by_cases same : key = first
      · subst same
        simpa using ih
      · simp [ih, same, Ne.symm same]
    · by_cases same : key = other
      · subst same
        simp [ih, gone]
      · simp [ih, gone, same]

/-- A key that is set and those that were there are in a dictionary. -/
theorem isSome_get?_set {dict : Dict} {value : Json} (listed : (dict.get? key).isSome = true) :
    ((dict.set other value).get? key).isSome = true := by
  by_cases same : key = other
  · rw [same, Dict.get?_set_self]
    rfl
  · rw [Dict.get?_set_ne _ _ same]
    exact listed

/-- A success deletes the record of its key, unless that bans for ever. -/
theorem recordSuccess_records : (manager.recordSuccess other).records key =
    if key = other then (manager.records key).filter BanRecord.isPermanent
    else manager.records key := by
  unfold recordSuccess
  by_cases same : key = other
  · subst same
    cases found : manager.records key with
    | none => simp [found]
    | some record =>
      by_cases forever : record.isPermanent = true
      · simp [found, forever, Option.filter]
      · simp [forever, Option.filter]
  · cases manager.records other with
    | none => simp [same]
    | some record =>
      by_cases forever : record.isPermanent = true
      · simp [same, forever]
      · simp [same, forever]

/-- A success leaves the permanent bans as they were. -/
@[simp] theorem recordSuccess_permanentBans :
    (manager.recordSuccess other).permanentBans = manager.permanentBans := by
  unfold recordSuccess
  split
  · split <;> rfl
  · rfl

/-- Removing a key deletes its record. -/
theorem unban_records : (manager.unban other written).2.records key =
    if key = other then none else manager.records key := by
  unfold unban
  by_cases listed : (manager.permanentBans.get? other).isSome = true
  all_goals
    cases found : manager.records other with
    | none =>
      by_cases same : key = other
      · subst same
        simp [listed, found]
      · simp [listed, found, same]
    | some record =>
      by_cases same : key = other
      · simp [listed, found, same]
      · simp [listed, found, same]

/-- Removing a key deletes its permanent ban. -/
theorem unban_permanentBans : (manager.unban other written).2.permanentBans.get? key =
    if key = other then none else manager.permanentBans.get? key := by
  have rest : ∀ removed : Bool × BanManager,
      ((if (removed.2.records other).isSome = true then
          (true, { removed.2 with records := Function.update removed.2.records other none })
        else removed).2).permanentBans = removed.2.permanentBans := by
    intro removed
    split <;> rfl
  by_cases listed : (manager.permanentBans.get? other).isSome = true
  · unfold unban
    rw [if_pos listed]
    show Dict.get? (BanManager.permanentBans (Prod.snd (ite _ _ _))) key = _
    rw [rest (true, _), savePersistentBans_permanentBans, get?_without]
  · unfold unban
    rw [if_neg listed]
    show Dict.get? (BanManager.permanentBans (Prod.snd (ite _ _ _))) key = _
    rw [rest (false, manager)]
    by_cases same : key = other
    · subst same
      rw [if_pos rfl]
      exact Option.not_isSome_iff_eq_none.mp listed
    · rw [if_neg same]

/-- The second of two rules that raise a key undoes what the first did. -/
theorem raise_raise (above : first.stage.value < second.stage.value) :
    raise key now written (raise key now written state first) second =
      raise key now written state second := by
  have lower : first.stage ≠ .hard := by
    intro top
    rw [top] at above
    cases stage : second.stage <;> rw [stage] at above <;> simp [BanStage.value] at above
  unfold raise
  simp [lower]

/-- The failures stay the same when a rule raises a key. -/
@[simp] theorem raise_failures (rule : EscalationRule) :
    (raise key now written state rule).2.failures = state.2.failures := by
  unfold raise
  split <;> rfl

/-- The records of the manager stay the same too. -/
@[simp] theorem raise_records (rule : EscalationRule) :
    (raise key now written state rule).1.records = state.1.records := by
  unfold raise
  split
  · exact savePersistentBans_records
  · rfl

/-- The map of permanent bans gets the key when the highest stage bans for ever. -/
theorem raise_permanentBans (rule : EscalationRule) :
    (raise key now written state rule).1.permanentBans =
      if rule.stage = .hard ∧ state.1.permanentStage3 then
        state.1.permanentBans.set key (.str "Stage 3 auto-escalation")
      else state.1.permanentBans := by
  unfold raise
  split
  · exact savePersistentBans_permanentBans
  · rfl

/-- A record that bans for ever goes on doing so. -/
theorem raise_isPermanent (rule : EscalationRule) (permanent : state.2.isPermanent = true) :
    (raise key now written state rule).2.isPermanent = true := by
  unfold raise
  split
  · rfl
  · exact permanent

/-- The record is then at the stage of the rule. -/
@[simp] theorem raise_stage (rule : EscalationRule) :
    (raise key now written state rule).2.stage = rule.stage := by
  unfold raise
  split <;> rfl

/-- Of rules by rising stages, the last one that raises the record decides. -/
theorem foldl_escalate (rules : List EscalationRule) (state : BanManager × BanRecord)
    (rising : rules.Pairwise fun first second => first.stage.value < second.stage.value) :
    rules.foldl (escalate key now written) state =
      match (rules.filter fun rule => decide (Raises state.2 now rule)).getLast? with
      | Option.none => state
      | some rule => raise key now written state rule := by
  induction rules using List.reverseRecOn with
  | nil => rfl
  | append_singleton rules rule ih =>
    rw [List.pairwise_append] at rising
    have below : ∀ other ∈ rules, other.stage.value < rule.stage.value := fun other inside =>
      rising.2.2 other inside rule List.mem_cons_self
    rw [List.foldl_append, ih rising.1, List.foldl_cons, List.foldl_nil, List.filter_append]
    cases before : (rules.filter fun rule => decide (Raises state.2 now rule)).getLast? with
    | none =>
      have none : rules.filter (fun rule => decide (Raises state.2 now rule)) = [] :=
        List.getLast?_eq_none_iff.mp before
      by_cases raised : Raises state.2 now rule
      · simp [none, escalate, raised]
      · simp [none, escalate, raised]
    | some earlier =>
      have inside := List.mem_of_getLast? before
      have less := below earlier (List.mem_filter.mp inside).1
      have already : state.2.stage.value < earlier.stage.value :=
        (of_decide_eq_true (List.mem_filter.mp inside).2 : Raises state.2 now earlier).1
      by_cases met : rule.Met state.2.failures now
      · have raised : Raises state.2 now rule := ⟨already.trans less, met⟩
        have again : Raises (raise key now written state earlier).2 now rule := by
          simp [Raises, less, met]
        simp [escalate, raised, again, raise_raise less]
      · have stays : ¬ Raises state.2 now rule := fun raised => met raised.2
        have too : ¬ Raises (raise key now written state earlier).2 now rule := fun raised =>
          met (by simpa [Raises] using raised.2)
        simp [escalate, stays, too, before]

end BanManager

end VelaFlow.Security
