import VelaFlow.Queue.MissedSlots

/-!
# Slots are enqueued once

Ticks at any times that do not go back. The scheduler keeps one key for each slot of a tenant, that
of the last time it was due. The times with one key are all in one day, or in one hour for the
overdue alerts, so no other key is noted between two of them, and the slot is enqueued at the first.
-/
namespace VelaFlow.Queue

open Tenants

variable {lower : String → String}

/-- The times of the ticks do not go back. -/
def Ordered (ticks : List Tick) : Prop :=
  ticks.Pairwise fun earlier later => earlier.now.instant ≤ later.now.instant

namespace Slot

/-- The day a slot is for, or the hour for the overdue alerts. -/
def InPeriod (slot : Slot) (date : Date) (hour : Nat) (now : DateTime) : Prop :=
  now.date = date ∧ (slot = .overdue → now.hour = hour)

instance (slot : Slot) (date : Date) (hour : Nat) (now : DateTime) :
    Decidable (slot.InPeriod date hour now) := by unfold InPeriod; infer_instance

/-- When a slot of a tenant is to be enqueued. -/
def Wanted (lower : String → String) (config : TenantConfig) (now : DateTime) : Slot → Prop
  | daily => config.dailyDigestTime = now.clockText ∧
    ∃ day ∈ config.dailyDigestDays.toList.splitOn ',', lower (String.ofList (strip day)) = now.dayName
  | overdue => config.overdueAlertEnabled = true ∧ 0 < config.overdueAlertIntervalHours ∧
    config.overdueAlertIntervalHours ∣ now.hour ∧ now.minute = 0
  | weekend => config.weekendPlannerEnabled = true ∧ now.dayName = "fri" ∧ now.hour = 17 ∧
    now.minute = 0
  | weekly => config.weeklyReviewEnabled = true ∧ now.dayName = "sun" ∧ now.hour = 20 ∧
    now.minute = 0

/-- The `source` in the payload of a slot's message. -/
def source : Slot → String
  | daily => "scheduled_daily"
  | overdue => "scheduled_overdue"
  | weekend => "scheduled_weekend"
  | weekly => "scheduled_weekly"

/-- The number of the day a slot is for, or of the hour for the overdue alerts. -/
def periodIndex (slot : Slot) (now : DateTime) : Int :=
  match slot with
  | overdue => now.hourIndex
  | _ => now.dayIndex

end Slot

/-- A message of a slot of a tenant. -/
def QueueMessage.isFor (tenantId : String) (slot : Slot) (message : QueueMessage) : Bool :=
  message.tenantId == tenantId && message.messageType == slot.messageType &&
    match message.payload.get? "source" with
    | some (.str source) => source == slot.source
    | _ => false

/-- How many messages of a slot of a tenant a scheduler enqueues at the ticks in a day, or in an hour
for the overdue alerts. -/
def sentIn (lower : String → String) (ticks : List Tick) (tenantId : String)
    (slot : Slot) (date : Date) (hour : Nat) : Nat :=
  (((runLoop lower (fun _ _ => none) ticks).filter fun pass =>
    decide (slot.InPeriod date hour pass.1.now)).map fun pass =>
      pass.2.countP (QueueMessage.isFor tenantId slot)).sum

/-- A slot is due when it is wanted. -/
theorem Slot.due_iff {config : TenantConfig} {now : DateTime} {slot : Slot} :
    slot.due lower config now = true ↔ slot.Wanted lower config now := by
  have clock : ∀ hour minute, hour < 24 → minute < 60 →
      (now.clockText = String.ofList (digits 2 hour ++ ':' :: digits 2 minute) ↔
        now.hour = hour ∧ now.minute = minute) := by
    intro hour minute hours minutes
    obtain ⟨ownHour, ownMinute, -⟩ := now.valid
    constructor
    · intro same
      obtain ⟨equal, rests⟩ := digits_inj (by omega) (by omega) (String.ofList_injective same)
      have tails : digits 2 now.minute ++ [] = digits 2 minute ++ [] := by
        rw [List.append_nil, List.append_nil]
        exact (List.cons.inj rests).2
      exact ⟨equal, (digits_inj (by omega) (by omega) tails).1⟩
    · rintro ⟨rfl, rfl⟩
      rfl
  cases slot with
  | daily =>
    simp only [due, Wanted, Bool.and_eq_true, beq_iff_eq, List.contains_iff_mem, List.mem_map]
  | overdue =>
    simp only [due, Wanted, Bool.and_eq_true, decide_eq_true_eq, beq_iff_eq, and_assoc,
      Int.dvd_iff_emod_eq_zero]
  | weekend =>
    simp only [due, Wanted, Bool.and_eq_true, beq_iff_eq, and_assoc]
    exact and_congr_right fun _ => and_congr_right fun _ => clock 17 0 (by omega) (by omega)
  | weekly =>
    simp only [due, Wanted, Bool.and_eq_true, beq_iff_eq, and_assoc]
    exact and_congr_right fun _ => and_congr_right fun _ => clock 20 0 (by omega) (by omega)

instance (config : TenantConfig) (now : DateTime) (slot : Slot) :
    Decidable (slot.Wanted lower config now) := decidable_of_iff _ Slot.due_iff

/-- A slot's message is for that slot of its tenant alone. -/
theorem isFor_message (tenantId other token : String) (slot another : Slot) :
    QueueMessage.isFor tenantId slot (another.message other token) =
      decide (other = tenantId ∧ another = slot) := by
  by_cases own : other = tenantId
  · cases slot <;> cases another <;> simp [QueueMessage.isFor, Slot.message, Slot.messageType,
      Slot.payload, Slot.source, own]
  · simp [QueueMessage.isFor, Slot.message, own]

/-- Other slots than the overdue alerts are for a day. -/
theorem Slot.periodIndex_of_ne {slot : Slot} (other : slot ≠ .overdue) (now : DateTime) :
    slot.periodIndex now = now.dayIndex := by
  unfold periodIndex
  split
  · exact absurd rfl other
  · rfl

/-- The overdue alerts are for an hour. -/
theorem Slot.periodIndex_of_overdue {slot : Slot} (overdue : slot = .overdue) (now : DateTime) :
    slot.periodIndex now = now.hourIndex := by
  unfold periodIndex
  split
  · rfl
  · next other => exact absurd overdue other

section Period

variable {first second : DateTime} {slot : Slot}

/-- The period of a slot is known by its number. -/
theorem Slot.periodIndex_inj (firstUtc : first.offset = some 0) (secondUtc : second.offset = some 0) :
    slot.periodIndex first = slot.periodIndex second ↔
      slot.InPeriod second.date second.hour first := by
  unfold InPeriod
  by_cases overdue : slot = .overdue
  · rw [periodIndex_of_overdue overdue, periodIndex_of_overdue overdue,
      DateTime.hourIndex_inj firstUtc secondUtc]
    exact and_congr_right fun _ => (imp_iff_right overdue).symm
  · rw [periodIndex_of_ne overdue, periodIndex_of_ne overdue,
      DateTime.dayIndex_inj firstUtc secondUtc]
    exact (and_iff_left fun same => absurd same overdue).symm

/-- A key stands for a period. -/
theorem Slot.checkKey_inj (firstUtc : first.offset = some 0) (secondUtc : second.offset = some 0) :
    slot.checkKey first = slot.checkKey second ↔
      slot.periodIndex first = slot.periodIndex second := by
  have day : ∀ text : String, text ++ first.dayKey = text ++ second.dayKey ↔
      first.date = second.date := by
    intro text
    rw [String.append_right_inj]
    exact ⟨Date.isoformat_inj, fun same => congrArg Date.isoformat same⟩
  by_cases overdue : slot = .overdue
  · rw [periodIndex_of_overdue overdue, periodIndex_of_overdue overdue,
      DateTime.hourIndex_inj firstUtc secondUtc, overdue]
    simp only [checkKey, String.append_assoc, String.append_right_inj]
    rw [← String.append_assoc, ← String.append_assoc]
    constructor
    · exact day_hour_inj
    · rintro ⟨date, hour⟩
      rw [DateTime.dayKey, DateTime.dayKey, date, hour]
  · rw [periodIndex_of_ne overdue, periodIndex_of_ne overdue,
      DateTime.dayIndex_inj firstUtc secondUtc]
    cases slot with
    | daily => exact day "daily_"
    | weekend => exact day "weekend_"
    | weekly => exact day "weekly_"
    | overdue => exact absurd rfl overdue

/-- A later time is in no earlier period. -/
theorem Slot.periodIndex_mono (slot : Slot) (later : first.instant ≤ second.instant) :
    slot.periodIndex first ≤ slot.periodIndex second := by
  by_cases overdue : slot = .overdue
  · rw [periodIndex_of_overdue overdue, periodIndex_of_overdue overdue]
    exact Int.ediv_le_ediv (by omega) later
  · rw [periodIndex_of_ne overdue, periodIndex_of_ne overdue]
    exact Int.ediv_le_ediv (by omega) later

/-- The times of a period are those in the period of one of them. -/
theorem Slot.inPeriod_congr {date : Date} {hour : Nat} (inside : slot.InPeriod date hour second) :
    slot.InPeriod second.date second.hour first ↔ slot.InPeriod date hour first := by
  unfold InPeriod
  rw [inside.1]
  apply and_congr_right
  intro _
  constructor
  · intro same overdue
    exact (same overdue).trans (inside.2 overdue)
  · intro same overdue
    exact (same overdue).trans (inside.2 overdue).symm

/-- A time between two times of a period is in it. -/
theorem Slot.inPeriod_of_between {third : DateTime} {date : Date} {hour : Nat}
    (firstUtc : first.offset = some 0) (secondUtc : second.offset = some 0)
    (thirdUtc : third.offset = some 0) (start : slot.InPeriod date hour first)
    (finish : slot.InPeriod date hour third) (after : first.instant ≤ second.instant)
    (before : second.instant ≤ third.instant) : slot.InPeriod date hour second := by
  have whole : slot.periodIndex first = slot.periodIndex third :=
    (periodIndex_inj firstUtc thirdUtc).mpr ((inPeriod_congr finish).mpr start)
  have lower := slot.periodIndex_mono after
  have upper := slot.periodIndex_mono before
  have same : slot.periodIndex second = slot.periodIndex third := by omega
  exact (inPeriod_congr finish).mp ((periodIndex_inj secondUtc thirdUtc).mp same)

end Period

/-- What checking a slot adds to the messages of a slot of a tenant. -/
theorem checkSlot_count (tick : Tick) (tenant : Tenant) (found : List QueueMessage × LastCheck)
    (slot another : Slot) (tenantId : String) :
    (checkSlot lower tick tenant found another).1.countP (QueueMessage.isFor tenantId slot) =
      found.1.countP (QueueMessage.isFor tenantId slot) +
        if tenant.tenantId = tenantId ∧ another = slot ∧
          another.due lower tenant.config tick.now = true ∧
          found.2 tenant.tenantId another ≠ some (another.checkKey tick.now) then 1 else 0 := by
  unfold checkSlot
  split
  · next enqueues =>
    rw [List.countP_append, List.countP_singleton, isFor_message]
    congr 1
    by_cases own : tenant.tenantId = tenantId ∧ another = slot
    · rw [if_pos (decide_eq_true own), if_pos ⟨own.1, own.2, enqueues⟩]
    · rw [if_neg (by rwa [decide_eq_true_eq]), if_neg fun all => own ⟨all.1, all.2.1⟩]
  · next skips => rw [if_neg fun all => skips all.2.2, Nat.add_zero]

/-- What checking slots of a tenant adds to the messages of a slot. -/
theorem checkSlots_count (tick : Tick) (tenant : Tenant) {slots : List Slot} (distinct : slots.Nodup)
    (found : List QueueMessage × LastCheck) (slot : Slot) (tenantId : String) :
    (slots.foldl (checkSlot lower tick tenant) found).1.countP
        (QueueMessage.isFor tenantId slot) =
      found.1.countP (QueueMessage.isFor tenantId slot) +
        if tenant.tenantId = tenantId ∧ slot ∈ slots ∧
          slot.due lower tenant.config tick.now = true ∧
          found.2 tenant.tenantId slot ≠ some (slot.checkKey tick.now) then 1 else 0 := by
  induction slots generalizing found with
  | nil => simp
  | cons head rest ih =>
    rw [List.nodup_cons] at distinct
    rw [List.foldl_cons, ih distinct.2, checkSlot_count, Nat.add_assoc]
    congr 1
    by_cases same : head = slot
    · subst same
      simp only [distinct.1, false_and, and_false, if_false, Nat.add_zero, List.mem_cons, true_or,
        true_and]
    · have apart : slot ≠ head := fun equal => same equal.symm
      simp only [same, apart, false_and, and_false, if_false, Nat.zero_add, checkSlot_key,
        List.mem_cons, false_or]

/-- Checking other tenants adds no message of a tenant. -/
theorem checkAll_count_other (tick : Tick) {tenants : List Tenant}
    (found : List QueueMessage × LastCheck) {tenantId : String}
    (others : tenantId ∉ tenants.map Tenant.tenantId) (slot : Slot) :
    (tenants.foldl (checkActive lower tick) found).1.countP (QueueMessage.isFor tenantId slot) =
      found.1.countP (QueueMessage.isFor tenantId slot) := by
  induction tenants generalizing found with
  | nil => rfl
  | cons tenant rest ih =>
    rw [List.map_cons, List.mem_cons, not_or] at others
    rw [List.foldl_cons, ih _ others.2]
    unfold checkActive
    split
    · unfold checkTenant
      rw [checkSlots_count tick tenant (by decide), if_neg fun own => others.1 own.1.symm,
        Nat.add_zero]
    · rfl

/-- A tick enqueues a slot of an active tenant once when it is due and not noted, and otherwise not
at all. -/
theorem runTick_count (lastCheck : LastCheck) {tick : Tick}
    (distinct : (tick.tenants.map Tenant.tenantId).Nodup) {tenant : Tenant}
    (member : tenant ∈ tick.tenants) (active : tenant.isActive = true) (slot : Slot) :
    (runTick lower lastCheck tick).1.countP (QueueMessage.isFor tenant.tenantId slot) =
      if slot.due lower tenant.config tick.now = true ∧
        lastCheck tenant.tenantId slot ≠ some (slot.checkKey tick.now) then 1 else 0 := by
  obtain ⟨front, back, split⟩ := List.append_of_mem member
  rw [split, List.map_append, List.map_cons, List.nodup_middle, List.nodup_cons,
    List.mem_append, not_or] at distinct
  unfold runTick
  rw [split, List.foldl_append, List.foldl_cons, checkAll_count_other tick _ distinct.1.2]
  unfold checkActive
  rw [if_pos active]
  have before := @checkAll_other lower tick front ([], lastCheck) tenant.tenantId distinct.1.1 slot
  have nothing := @checkAll_count_other lower tick front ([], lastCheck) tenant.tenantId
    distinct.1.1 slot
  unfold checkActive at before nothing
  unfold checkTenant at before nothing ⊢
  rw [checkSlots_count tick tenant (by decide), before, nothing]
  simp only [Slot.mem_all, true_and, List.countP_nil, Nat.zero_add]

/-- What is noted for a slot of a tenant is the key of a time before the ticks. -/
def NotedAt (lastCheck : LastCheck) (tenantId : String) (slot : Slot) (noted : Option DateTime)
    (ticks : List Tick) : Prop :=
  lastCheck tenantId slot = noted.map slot.checkKey ∧ ∀ before ∈ noted,
    before.offset = some 0 ∧ ∀ tick ∈ ticks, before.instant ≤ tick.now.instant

/-- The time of the key that is noted for a slot after a tick. -/
def notedAfter (lower : String → String) (config : TenantConfig) (slot : Slot)
    (noted : Option DateTime) (now : DateTime) : Option DateTime :=
  if slot.due lower config now = true then some now else noted

/-- What a tick notes is the key of a time before the later ticks. -/
theorem NotedAt.next {lastCheck : LastCheck} {tick : Tick} {rest : List Tick} {tenant : Tenant}
    {slot : Slot} {noted : Option DateTime}
    (before : NotedAt lastCheck tenant.tenantId slot noted (tick :: rest))
    (ordered : Ordered (tick :: rest))
    (distinct : (tick.tenants.map Tenant.tenantId).Nodup)
    (member : tenant ∈ tick.tenants) (active : tenant.isActive = true) :
    NotedAt (runTick lower lastCheck tick).2 tenant.tenantId slot
      (notedAfter lower tenant.config slot noted tick.now) rest := by
  have keys := (@runTick_spec lower lastCheck tick distinct tenant member active slot).1
  unfold notedAfter
  constructor
  · rw [keys, before.1]
    split
    · rfl
    · rfl
  · split
    · intro is same
      cases same
      exact ⟨tick.utc, fun later inside => List.rel_of_pairwise_cons ordered inside⟩
    · intro is same
      obtain ⟨utc, past⟩ := before.2 is same
      exact ⟨utc, fun later inside => past later (List.mem_cons_of_mem _ inside)⟩

/-- The messages of a slot that a run sends in a period: one if it is due in it at a tick and was
not noted in it before. -/
theorem runLoop_count {lastCheck : LastCheck} {ticks : List Tick} (ordered : Ordered ticks)
    {tenantId : String} {config : TenantConfig} (steady : Steady ticks tenantId config) {slot : Slot}
    {noted : Option DateTime} (before : NotedAt lastCheck tenantId slot noted ticks)
    (date : Date) (hour : Nat) :
    (((runLoop lower lastCheck ticks).filter fun pass =>
      decide (slot.InPeriod date hour pass.1.now)).map fun pass =>
        pass.2.countP (QueueMessage.isFor tenantId slot)).sum =
      if (∃ tick ∈ ticks, slot.InPeriod date hour tick.now ∧ slot.due lower config tick.now = true) ∧
        ¬ ∃ past ∈ noted, slot.InPeriod date hour past then 1 else 0 := by
  induction ticks generalizing lastCheck noted with
  | nil => simp [runLoop]
  | cons tick rest ih =>
    obtain ⟨distinct, tenant, member, own, active, same⟩ := steady tick List.mem_cons_self
    subst own same
    have counted := @runTick_count lower lastCheck tick distinct tenant member active slot
    have next := @NotedAt.next lower _ _ _ _ _ _ before ordered distinct member active
    have further := ih (List.Pairwise.of_cons ordered)
      (fun later inside => steady later (List.mem_cons_of_mem _ inside)) next
    -- The key of the tick is noted already when the time noted is in its period.
    have fresh : slot.InPeriod date hour tick.now →
        (lastCheck tenant.tenantId slot ≠ some (slot.checkKey tick.now) ↔
          ¬ ∃ past ∈ noted, slot.InPeriod date hour past) := by
      intro inside
      apply not_congr
      rw [before.1, Option.map_eq_some_iff]
      apply exists_congr
      intro past
      apply and_congr_right
      intro is
      rw [Slot.checkKey_inj (before.2 past is).1 tick.utc,
        Slot.periodIndex_inj (before.2 past is).1 tick.utc, Slot.inPeriod_congr inside]
    unfold runLoop
    by_cases inside : slot.InPeriod date hour tick.now
    · rw [List.filter_cons, if_pos (decide_eq_true inside), List.map_cons, List.sum_cons, further, counted]
      unfold notedAfter
      by_cases due : slot.due lower tenant.config tick.now = true
      · simp [due, inside, fresh inside]
      · simp [due]
    · rw [List.filter_cons, if_neg (by rwa [decide_eq_true_eq]), further]
      unfold notedAfter
      by_cases due : slot.due lower tenant.config tick.now = true
      · have apart : (∃ later ∈ rest, slot.InPeriod date hour later.now ∧
            slot.due lower tenant.config later.now = true) →
              ¬ ∃ past ∈ noted, slot.InPeriod date hour past := by
          rintro ⟨later, listed, finish, -⟩ ⟨past, is, start⟩
          obtain ⟨utc, reached⟩ := before.2 past is
          exact inside (Slot.inPeriod_of_between utc tick.utc later.utc start finish
            (reached tick List.mem_cons_self) (List.rel_of_pairwise_cons ordered listed))
        rw [if_pos due]
        apply if_congr _ rfl rfl
        simp only [Option.mem_some_iff, exists_eq_left', inside, not_false_eq_true, and_true,
          List.mem_cons, exists_eq_or_imp, false_and, false_or]
        exact (and_iff_left_of_imp apart).symm
      · simp [due]

/-- The messages of a slot that a run sends in a period, with nothing noted at the start. -/
theorem runLoop_count_start {ticks : List Tick} (ordered : Ordered ticks) {tenantId : String}
    {config : TenantConfig} (steady : Steady ticks tenantId config) (slot : Slot) (date : Date)
    (hour : Nat) :
    (((runLoop lower (fun _ _ => none) ticks).filter fun pass =>
      decide (slot.InPeriod date hour pass.1.now)).map fun pass =>
        pass.2.countP (QueueMessage.isFor tenantId slot)).sum =
      if ∃ tick ∈ ticks, slot.InPeriod date hour tick.now ∧ slot.due lower config tick.now = true
        then 1 else 0 := by
  have start : NotedAt (fun _ _ => none) tenantId slot none ticks :=
    ⟨rfl, fun past is => nomatch is⟩
  rw [runLoop_count ordered steady start]
  apply if_congr _ rfl rfl
  simp only [Option.not_mem_none, false_and, exists_false, not_false_eq_true, and_true]

/-- In a day, or in an hour for the overdue alerts, a slot of a tenant whose record stays the same is
enqueued once if it is wanted at a tick, and otherwise not at all. -/
theorem sent_once {ticks : List Tick} (ordered : Ordered ticks) {tenantId : String}
    {config : TenantConfig} (steady : Steady ticks tenantId config) (slot : Slot) (date : Date)
    (hour : Nat) :
    sentIn lower ticks tenantId slot date hour =
      if ∃ tick ∈ ticks, slot.InPeriod date hour tick.now ∧ slot.Wanted lower config tick.now
        then 1 else 0 := by
  unfold sentIn
  rw [runLoop_count_start ordered steady]
  simp only [Slot.due_iff]

section Sample

/-- Half a minute past seven is a time. -/
theorem fields_half : 7 < 24 ∧ 0 < 60 ∧ 30 < 60 ∧ 0 < 1000000 := by omega

/-- Two ticks in the minute of the digest. -/
def ticksInMinute : List Tick :=
  [tickAt (onMonday 7 0 0 0 fields_seven) rfl, tickAt (onMonday 7 0 30 0 fields_half) rfl]

/-- The second tick comes after the first. -/
theorem ordered_ticksInMinute : Ordered ticksInMinute := by
  unfold Ordered ticksInMinute
  rw [List.pairwise_pair]
  decide +kernel

/-- The record of the tenant stays the same at both ticks. -/
theorem steady_ticksInMinute : Steady ticksInMinute "tn_a" {} := by
  intro tick member
  rw [ticksInMinute, List.mem_pair] at member
  cases member with
  | inl is =>
    subst is
    exact ⟨List.nodup_singleton _, digestTenant, List.mem_cons_self, rfl, rfl, rfl⟩
  | inr is =>
    subst is
    exact ⟨List.nodup_singleton _, digestTenant, List.mem_cons_self, rfl, rfl, rfl⟩

/-- Two ticks in the minute of the digest enqueue it once. -/
theorem digest_sent_once :
    sentIn id ticksInMinute "tn_a" .daily ⟨2025, 1, 6, valid_sixth⟩ 7 = 1 := by
  have wanted : Slot.daily.Wanted id {} (onMonday 7 0 0 0 fields_seven) :=
    Slot.due_iff.mp (by decide +kernel)
  rw [sent_once ordered_ticksInMinute steady_ticksInMinute, if_pos]
  exact ⟨tickAt (onMonday 7 0 0 0 fields_seven) rfl, List.mem_cons_self,
    ⟨rfl, fun is => nomatch is⟩, wanted⟩

end Sample

end VelaFlow.Queue
