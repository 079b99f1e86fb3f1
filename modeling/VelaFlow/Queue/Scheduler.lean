import Mathlib.Data.List.Nodup
import VelaFlow.Foundation.Calendar
import VelaFlow.Foundation.Python
import VelaFlow.Queue.Tasks
import VelaFlow.Tenant.Models

/-!
# The scheduler of `queue/scheduler.py`

The four slots of a tenant are checked one after the other, each by its own condition on the
minute of the tick and each under a key that is noted so that a slot is enqueued once. `str.lower`
is a parameter.
-/
namespace VelaFlow.Queue

open Tenants

/-- What a tenant is scheduled for. -/
inductive Slot where
  /-- The daily digest. -/
  | daily
  /-- The overdue alerts. -/
  | overdue
  /-- The weekend planner. -/
  | weekend
  /-- The weekly review. -/
  | weekly
  deriving DecidableEq

namespace Slot

/-- The slots in the order they are checked. -/
def all : List Slot := [daily, overdue, weekend, weekly]

/-- Whether a slot is due in the minute of a time. -/
def due (lower : String → String) (config : TenantConfig) (now : DateTime) : Slot → Bool
  | daily =>
    config.dailyDigestTime == now.clockText &&
      ((config.dailyDigestDays.toList.splitOn ',').map fun day =>
        lower (String.ofList (strip day))).contains now.dayName
  | overdue =>
    config.overdueAlertEnabled && decide (0 < config.overdueAlertIntervalHours) &&
      decide ((now.hour : Int) % config.overdueAlertIntervalHours = 0) && now.minute == 0
  | weekend =>
    config.weekendPlannerEnabled && now.dayName == "fri" && now.clockText == "17:00"
  | weekly =>
    config.weeklyReviewEnabled && now.dayName == "sun" && now.clockText == "20:00"

/-- The key noted for a slot. -/
def checkKey (now : DateTime) : Slot → String
  | daily => "daily_" ++ now.dayKey
  | overdue => "overdue_" ++ now.dayKey ++ "_" ++ toString now.hour
  | weekend => "weekend_" ++ now.dayKey
  | weekly => "weekly_" ++ now.dayKey

/-- The type of the message of a slot. -/
def messageType : Slot → MessageType
  | weekly => .digestGenerate
  | _ => .pipelineRun

/-- The payload of the message of a slot. -/
def payload : Slot → Dict
  | daily => [("source", .str "scheduled_daily")]
  | overdue => [("source", .str "scheduled_overdue")]
  | weekend => [("source", .str "scheduled_weekend"), ("weekend_mode", .bool true)]
  | weekly => [("source", .str "scheduled_weekly")]

/-- The message of a slot, with the token drawn for it. -/
def message (tenantId token : String) (slot : Slot) : QueueMessage where
  messageId := "sched_" ++ token
  messageType := slot.messageType
  tenantId := tenantId
  payload := slot.payload

end Slot

/-- `_last_check`: the key last noted for a slot of a tenant. -/
abbrev LastCheck := String → Slot → Option String

/-- The keys after one is noted. -/
def LastCheck.set (lastCheck : LastCheck) (tenantId : String) (slot : Slot) (key : String) :
    LastCheck :=
  fun other another => if other = tenantId ∧ another = slot then some key
    else lastCheck other another

/-- One pass of `_run_loop`: a tick and the sleep after it. -/
structure Tick where
  /-- `datetime.now(timezone.utc)`. -/
  now : DateTime
  /-- The time is in UTC. -/
  utc : now.offset = some 0
  /-- What `list_tenants` returns. -/
  tenants : List Tenant
  /-- `secrets.token_hex(8)`, for each message. -/
  tokenHex : String → Slot → String
  /-- How long the tick takes, in microseconds. -/
  duration : Nat
  /-- A tick takes less than a minute. -/
  short : duration < 60000000

variable (lower : String → String)

/-- The check of one slot in `_check_tenant`, with the messages enqueued so far. -/
def checkSlot (tick : Tick) (tenant : Tenant) (found : List QueueMessage × LastCheck)
    (slot : Slot) : List QueueMessage × LastCheck :=
  if slot.due lower tenant.config tick.now = true ∧
      found.2 tenant.tenantId slot ≠ some (slot.checkKey tick.now) then
    (found.1 ++ [slot.message tenant.tenantId (tick.tokenHex tenant.tenantId slot)],
      found.2.set tenant.tenantId slot (slot.checkKey tick.now))
  else found

/-- `_check_tenant`, with the messages it enqueues. It returns their number. -/
def checkTenant (tick : Tick) (found : List QueueMessage × LastCheck) (tenant : Tenant) :
    List QueueMessage × LastCheck :=
  Slot.all.foldl (checkSlot lower tick tenant) found

/-- The loop body of `_tick`: an inactive tenant is passed over. -/
def checkActive (tick : Tick) (found : List QueueMessage × LastCheck) (tenant : Tenant) :
    List QueueMessage × LastCheck :=
  if tenant.isActive then checkTenant lower tick found tenant else found

/-- `_tick`: the messages it enqueues, whose number it returns, and the keys it leaves. -/
def runTick (lastCheck : LastCheck) (tick : Tick) : List QueueMessage × LastCheck :=
  tick.tenants.foldl (checkActive lower tick) ([], lastCheck)

/-- `_run_loop`: the passes it makes, each with its messages. -/
def runLoop : LastCheck → List Tick → List (Tick × List QueueMessage)
  | _, [] => []
  | lastCheck, tick :: rest =>
    (tick, (runTick lower lastCheck tick).1) :: runLoop (runTick lower lastCheck tick).2 rest

/-- The ticks of a loop: each comes a minute after the end of the one before it. -/
def Paced (ticks : List Tick) : Prop :=
  ticks.IsChain fun tick next => next.now.instant = tick.now.instant + 60000000 + (tick.duration : Int)

variable {lower}

/-- The key of a slot after one slot of a tenant is checked. -/
theorem checkSlot_key (tick : Tick) (tenant : Tenant) (found : List QueueMessage × LastCheck)
    (slot : Slot) (tenantId : String) (other : Slot) :
    (checkSlot lower tick tenant found slot).2 tenantId other =
      if tenantId = tenant.tenantId ∧ other = slot ∧
        slot.due lower tenant.config tick.now = true then some (slot.checkKey tick.now)
      else found.2 tenantId other := by
  unfold checkSlot
  by_cases due : slot.due lower tenant.config tick.now = true
  · by_cases noted : found.2 tenant.tenantId slot = some (slot.checkKey tick.now)
    · rw [if_neg fun enqueues => enqueues.2 noted]
      split
      · rename_i own
        rw [own.1, own.2.1]
        exact noted
      · rfl
    · rw [if_pos ⟨due, noted⟩]
      simp only [LastCheck.set, due, and_true]
  · rw [if_neg fun enqueues => due enqueues.1, if_neg fun own => due own.2.2]

/-- Checking a slot takes no message back. -/
theorem checkSlot_keeps (tick : Tick) (tenant : Tenant) {found : List QueueMessage × LastCheck}
    (slot : Slot) {message : QueueMessage} (member : message ∈ found.1) :
    message ∈ (checkSlot lower tick tenant found slot).1 := by
  unfold checkSlot
  split
  · exact List.mem_append_left _ member
  · exact member

/-- The key of a slot after slots of a tenant are checked. -/
theorem checkSlots_key (tick : Tick) (tenant : Tenant) (slots : List Slot)
    (found : List QueueMessage × LastCheck) (tenantId : String) (other : Slot) :
    (slots.foldl (checkSlot lower tick tenant) found).2 tenantId other =
      if tenantId = tenant.tenantId ∧ other ∈ slots ∧
        other.due lower tenant.config tick.now = true then some (other.checkKey tick.now)
      else found.2 tenantId other := by
  induction slots generalizing found with
  | nil => simp
  | cons slot rest ih =>
    rw [List.foldl_cons, ih, checkSlot_key]
    by_cases own : tenantId = tenant.tenantId
    · by_cases due : other.due lower tenant.config tick.now = true
      · by_cases same : other = slot
        · subst same
          simp [own, due]
        · simp [own, due, same]
      · by_cases same : other = slot
        · subst same
          simp [due]
        · simp [due, same]
    · simp [own]

/-- Checking slots takes no message back. -/
theorem checkSlots_keeps (tick : Tick) (tenant : Tenant) (slots : List Slot)
    {found : List QueueMessage × LastCheck} {message : QueueMessage} (member : message ∈ found.1) :
    message ∈ (slots.foldl (checkSlot lower tick tenant) found).1 := by
  induction slots generalizing found with
  | nil => exact member
  | cons slot rest ih => exact ih (checkSlot_keeps tick tenant slot member)

/-- A slot that is due and not noted yet is enqueued. -/
theorem checkSlots_enqueues (tick : Tick) (tenant : Tenant) {slots : List Slot}
    {found : List QueueMessage × LastCheck} {slot : Slot} (member : slot ∈ slots)
    (due : slot.due lower tenant.config tick.now = true)
    (unnoted : found.2 tenant.tenantId slot ≠ some (slot.checkKey tick.now)) :
    slot.message tenant.tenantId (tick.tokenHex tenant.tenantId slot) ∈
      (slots.foldl (checkSlot lower tick tenant) found).1 := by
  induction slots generalizing found with
  | nil => cases member
  | cons head rest ih =>
    by_cases same : slot = head
    · subst same
      have enqueued : slot.message tenant.tenantId (tick.tokenHex tenant.tenantId slot) ∈
          (checkSlot lower tick tenant found slot).1 := by
        unfold checkSlot
        rw [if_pos ⟨due, unnoted⟩]
        exact List.mem_append_right _ (List.mem_singleton.mpr rfl)
      exact checkSlots_keeps tick tenant rest enqueued
    · apply ih ((List.mem_cons.mp member).resolve_left same)
      rw [checkSlot_key, if_neg fun own => same own.2.1]
      exact unnoted

/-- A slot is in the order they are checked. -/
theorem Slot.mem_all (slot : Slot) : slot ∈ Slot.all := by
  cases slot <;> decide

/-- Checking tenants takes no message back. -/
theorem checkAll_keeps (tick : Tick) (tenants : List Tenant)
    {found : List QueueMessage × LastCheck} {message : QueueMessage} (member : message ∈ found.1) :
    message ∈ (tenants.foldl (checkActive lower tick) found).1 := by
  induction tenants generalizing found with
  | nil => exact member
  | cons tenant rest ih =>
    apply ih
    unfold checkActive
    split
    · exact checkSlots_keeps tick tenant Slot.all member
    · exact member

/-- Checking other tenants leaves the keys of a tenant. -/
theorem checkAll_other (tick : Tick) {tenants : List Tenant}
    (found : List QueueMessage × LastCheck) {tenantId : String}
    (others : tenantId ∉ tenants.map Tenant.tenantId) (slot : Slot) :
    (tenants.foldl (checkActive lower tick) found).2 tenantId slot = found.2 tenantId slot := by
  induction tenants generalizing found with
  | nil => rfl
  | cons tenant rest ih =>
    rw [List.map_cons, List.mem_cons, not_or] at others
    rw [List.foldl_cons, ih _ others.2]
    unfold checkActive
    split
    · unfold checkTenant
      rw [checkSlots_key, if_neg fun own => others.1 own.1]
    · rfl

/-- A tick notes the slots of an active tenant that are due, and enqueues those that were not noted
yet. -/
theorem runTick_spec (lastCheck : LastCheck) {tick : Tick}
    (distinct : (tick.tenants.map Tenant.tenantId).Nodup) {tenant : Tenant}
    (member : tenant ∈ tick.tenants) (active : tenant.isActive = true) (slot : Slot) :
    ((runTick lower lastCheck tick).2 tenant.tenantId slot =
      if slot.due lower tenant.config tick.now = true then some (slot.checkKey tick.now)
      else lastCheck tenant.tenantId slot) ∧
    (slot.due lower tenant.config tick.now = true →
      lastCheck tenant.tenantId slot ≠ some (slot.checkKey tick.now) →
      slot.message tenant.tenantId (tick.tokenHex tenant.tenantId slot) ∈
        (runTick lower lastCheck tick).1) := by
  obtain ⟨front, back, split⟩ := List.append_of_mem member
  rw [split, List.map_append, List.map_cons, List.nodup_middle, List.nodup_cons,
    List.mem_append, not_or] at distinct
  have whole : runTick lower lastCheck tick =
      back.foldl (checkActive lower tick) (checkTenant lower tick
        (front.foldl (checkActive lower tick) ([], lastCheck)) tenant) := by
    unfold runTick
    rw [split, List.foldl_append, List.foldl_cons]
    congr 1
    exact if_pos active
  have before := @checkAll_other lower tick front ([], lastCheck) tenant.tenantId distinct.1.1 slot
  rw [whole]
  constructor
  · rw [checkAll_other tick _ distinct.1.2]
    unfold checkTenant
    rw [checkSlots_key, before]
    simp only [Slot.mem_all, true_and]
  · intro due unnoted
    apply checkAll_keeps
    apply checkSlots_enqueues tick tenant (Slot.mem_all slot) due
    rw [before]
    exact unnoted

end VelaFlow.Queue
