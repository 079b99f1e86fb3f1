import VelaFlow.Queue.ExactlyOnce

/-!
# The time zone of a tenant

A tenant's configuration names a time zone, and the scheduler reads the clock in UTC alone. What
the local time is follows from the offset that the zone has at an instant; the database of zones is
a parameter. A slot comes at its local time exactly when both clocks show one minute of one day
whenever the slot is due on either of them.
-/
namespace VelaFlow.Queue

open Tenants

variable {lower : String → String}

/-- A time zone: what is added to UTC at an instant. -/
structure Zone where
  /-- The offset in seconds, at the microseconds from the start of year one. -/
  offset : Int → Int
  /-- No zone is sixteen hours away. -/
  within : ∀ instant, (offset instant).natAbs < 57600

/-- The microseconds from the start of year one to the local time at an instant. -/
def Zone.civil (zone : Zone) (instant : Int) : Int := instant + zone.offset instant * 1000000

/-- The local day an instant is in. -/
def Zone.localDay (zone : Zone) (instant : Int) : Int := zone.civil instant / 86400000000

/-- The hour and minute of a local time, as `strftime("%H:%M")` writes them. -/
def civilClock (civil : Int) : String :=
  String.ofList (digits 2 (civil / 3600000000 % 24).toNat ++
    ':' :: digits 2 (civil / 60000000 % 60).toNat)

/-- The weekday of a local time, as `strftime("%a").lower()` writes it. -/
def civilDay (civil : Int) : String :=
  match (civil / 86400000000 + 6) % 7 with
  | 0 => "mon"
  | 1 => "tue"
  | 2 => "wed"
  | 3 => "thu"
  | 4 => "fri"
  | 5 => "sat"
  | _ => "sun"

/-- Whether a slot is due in the minute of a local time. -/
def Slot.dueIn (lower : String → String) (config : TenantConfig) (civil : Int) : Slot → Bool
  | daily =>
    config.dailyDigestTime == civilClock civil &&
      ((config.dailyDigestDays.toList.splitOn ',').map fun day =>
        lower (String.ofList (strip day))).contains (civilDay civil)
  | overdue =>
    config.overdueAlertEnabled && decide (0 < config.overdueAlertIntervalHours) &&
      decide (civil / 3600000000 % 24 % config.overdueAlertIntervalHours = 0) &&
        civil / 60000000 % 60 == 0
  | weekend =>
    config.weekendPlannerEnabled && civilDay civil == "fri" && civilClock civil == "17:00"
  | weekly =>
    config.weeklyReviewEnabled && civilDay civil == "sun" && civilClock civil == "20:00"

/-- A pass of the loop enqueues a slot of a tenant. -/
def Sends (tenantId : String) (slot : Slot) (pass : Tick × List QueueMessage) : Prop :=
  ∃ message ∈ pass.2, message.isFor tenantId slot = true

/-- In every run, the slots of a tenant other than the overdue alerts come when they are due in
local time, unless they have come before in the local day. -/
def HonoursZone (lower : String → String) (zone : Zone) (tenantId : String)
    (config : TenantConfig) : Prop :=
  ∀ ticks, Ordered ticks → Steady ticks tenantId config → ∀ slot : Slot, slot ≠ .overdue →
    ∀ before pass after, runLoop lower (fun _ _ => none) ticks = before ++ pass :: after →
      (Sends tenantId slot pass ↔ slot.dueIn lower config (zone.civil pass.1.now.instant) = true ∧
        ¬ ∃ earlier ∈ before, Sends tenantId slot earlier ∧
          zone.localDay earlier.1.now.instant = zone.localDay pass.1.now.instant)

/-- Whenever a slot is due in UTC or in local time, both clocks show one minute of one day. -/
def ClocksAgree (lower : String → String) (zone : Zone) (config : TenantConfig) (slot : Slot) :
    Prop :=
  ∀ now : DateTime, now.offset = some 0 →
    slot.due lower config now = true ∨ slot.dueIn lower config (zone.civil now.instant) = true →
      zone.civil now.instant / 60000000 = now.minuteIndex

/-- The fields of a UTC time in its instant. -/
theorem fields_of_instant {now : DateTime} (utc : now.offset = some 0) :
    now.instant / 86400000000 = now.date.ordinal ∧
      (now.instant / 3600000000 % 24).toNat = now.hour ∧
      (now.instant / 60000000 % 60).toNat = now.minute := by
  obtain ⟨hour, minute, second, microsecond, -⟩ := now.valid
  unfold DateTime.instant
  rw [utc]
  simp only [Option.getD_some]
  omega

/-- A slot is due when it is due in the local time of a zone that is UTC. -/
theorem Slot.due_eq_dueIn {config : TenantConfig} {now : DateTime} (utc : now.offset = some 0)
    (slot : Slot) : slot.due lower config now = slot.dueIn lower config now.instant := by
  obtain ⟨day, hour, minute⟩ := fields_of_instant utc
  have clock : now.clockText = civilClock now.instant := by
    rw [DateTime.clockText, civilClock, hour, minute]
  have weekday : now.dayName = civilDay now.instant := by
    unfold civilDay
    rw [day]
    rfl
  cases slot with
  | daily => simp only [due, dueIn, clock, weekday]
  | overdue =>
    have hours : (now.hour : Int) = now.instant / 3600000000 % 24 := by omega
    have minutes : (now.minute == 0) = (now.instant / 60000000 % 60 == 0) := by
      rw [Bool.eq_iff_iff, beq_iff_eq, beq_iff_eq]
      omega
    simp only [due, dueIn, hours, minutes]
  | weekend => simp only [due, dueIn, clock, weekday]
  | weekly => simp only [due, dueIn, clock, weekday]

/-- A slot is due in local time or not for a whole minute. -/
theorem Slot.dueIn_of_minute {config : TenantConfig} {first second : Int}
    (same : first / 60000000 = second / 60000000) (slot : Slot) :
    slot.dueIn lower config first = slot.dueIn lower config second := by
  have hour : first / 3600000000 = second / 3600000000 := by omega
  have day : first / 86400000000 = second / 86400000000 := by omega
  have clock : civilClock first = civilClock second := by
    rw [civilClock, civilClock, hour, same]
  have weekday : civilDay first = civilDay second := by
    unfold civilDay
    rw [day]
  cases slot with
  | daily => simp only [dueIn, clock, weekday]
  | overdue => simp only [dueIn, hour, same]
  | weekend => simp only [dueIn, clock, weekday]
  | weekly => simp only [dueIn, clock, weekday]

/-- Two local times with one text are as far into their days, to the minute. -/
theorem civilClock_inj {first second : Int} (same : civilClock first = civilClock second) :
    first / 60000000 % 1440 = second / 60000000 % 1440 := by
  obtain ⟨hours, rests⟩ := digits_inj (by omega) (by omega) (String.ofList_injective same)
  have minutes : digits 2 (first / 60000000 % 60).toNat ++ [] =
      digits 2 (second / 60000000 % 60).toNat ++ [] := by
    rw [List.append_nil, List.append_nil]
    exact (List.cons.inj rests).2
  have tails := (digits_inj (by omega) (by omega) minutes).1
  omega

/-- A slot other than the overdue alerts is due at one time of the day. -/
theorem Slot.clock_of_dueIn {config : TenantConfig} {slot : Slot} (other : slot ≠ .overdue)
    {first second : Int} (one : slot.dueIn lower config first = true)
    (another : slot.dueIn lower config second = true) : civilClock first = civilClock second := by
  cases slot with
  | overdue => exact absurd rfl other
  | daily =>
    simp only [dueIn, Bool.and_eq_true, beq_iff_eq] at one another
    exact one.1.symm.trans another.1
  | weekend =>
    simp only [dueIn, Bool.and_eq_true, beq_iff_eq] at one another
    exact one.2.trans another.2.symm
  | weekly =>
    simp only [dueIn, Bool.and_eq_true, beq_iff_eq] at one another
    exact one.2.trans another.2.symm

/-- A run up to one of its passes is a run of the ticks up to there. -/
theorem runLoop_split {lastCheck : LastCheck} {ticks : List Tick}
    {before after : List (Tick × List QueueMessage)} {pass : Tick × List QueueMessage}
    (passes : runLoop lower lastCheck ticks = before ++ pass :: after) :
    ∃ front back, ticks = front ++ pass.1 :: back ∧ runLoop lower lastCheck front = before ∧
      runLoop lower lastCheck (front ++ [pass.1]) = before ++ [pass] := by
  induction before generalizing lastCheck ticks with
  | nil =>
    cases ticks with
    | nil => cases passes
    | cons tick rest =>
      obtain ⟨is, -⟩ := List.cons.inj passes
      subst is
      exact ⟨[], rest, rfl, rfl, rfl⟩
  | cons head before ih =>
    cases ticks with
    | nil => cases passes
    | cons tick rest =>
      obtain ⟨is, further⟩ := List.cons.inj passes
      obtain ⟨front, back, split, whole, upTo⟩ := ih further
      refine ⟨tick :: front, back, by rw [split, List.cons_append], ?_, ?_⟩
      · rw [runLoop, whole, is]
      · rw [List.cons_append, runLoop, upTo, is, List.cons_append]

/-- A pass sends a slot when it has a message of it. -/
theorem sends_iff_count {tenantId : String} {slot : Slot} {pass : Tick × List QueueMessage} :
    Sends tenantId slot pass ↔ 0 < pass.2.countP (QueueMessage.isFor tenantId slot) :=
  List.countP_pos_iff.symm

/-- Passes send a slot in a period when they have messages of it. -/
theorem sum_pos_iff {tenantId : String} {slot : Slot} {date : Date} {hour : Nat}
    {passes : List (Tick × List QueueMessage)} :
    0 < ((passes.filter fun pass => decide (slot.InPeriod date hour pass.1.now)).map fun pass =>
        pass.2.countP (QueueMessage.isFor tenantId slot)).sum ↔
      ∃ pass ∈ passes, Sends tenantId slot pass ∧ slot.InPeriod date hour pass.1.now := by
  rw [List.sum_pos_iff_exists_pos_nat]
  constructor
  · rintro ⟨count, member, pos⟩
    obtain ⟨pass, kept, is⟩ := List.mem_map.mp member
    obtain ⟨inside, period⟩ := List.mem_filter.mp kept
    subst is
    exact ⟨pass, inside, sends_iff_count.mpr pos, of_decide_eq_true period⟩
  · rintro ⟨pass, inside, sends, period⟩
    exact ⟨_, List.mem_map_of_mem (List.mem_filter.mpr ⟨inside, decide_eq_true period⟩),
      sends_iff_count.mp sends⟩

/-- A pass sends a slot when it is due and no earlier pass sent it in the period. -/
theorem sends_iff {ticks : List Tick} (ordered : Ordered ticks) {tenantId : String}
    {config : TenantConfig} (steady : Steady ticks tenantId config) {slot : Slot}
    {before after : List (Tick × List QueueMessage)} {pass : Tick × List QueueMessage}
    (passes : runLoop lower (fun _ _ => none) ticks = before ++ pass :: after) :
    Sends tenantId slot pass ↔ slot.due lower config pass.1.now = true ∧
      ¬ ∃ earlier ∈ before, Sends tenantId slot earlier ∧
        slot.InPeriod pass.1.now.date pass.1.now.hour earlier.1.now := by
  obtain ⟨front, back, split, first, upTo⟩ := runLoop_split passes
  have prefixes : front ++ [pass.1] <+: ticks := ⟨back, by rw [split, List.append_assoc]; rfl⟩
  have orderedTo : Ordered (front ++ [pass.1]) := ordered.sublist prefixes.sublist
  have steadyTo : Steady (front ++ [pass.1]) tenantId config :=
    fun tick member => steady tick (prefixes.subset member)
  -- What is sent in the period of the pass before it, and together with it.
  have earlier := @runLoop_count_start lower _
    (orderedTo.sublist (List.sublist_append_left front [pass.1])) _ _
    (fun tick member => steadyTo tick (List.mem_append_left _ member)) slot pass.1.now.date
    pass.1.now.hour
  have whole := @runLoop_count_start lower _ orderedTo _ _ steadyTo slot pass.1.now.date
    pass.1.now.hour
  have own : slot.InPeriod pass.1.now.date pass.1.now.hour pass.1.now := ⟨rfl, fun _ => rfl⟩
  have single : ([pass].filter fun pass' =>
      decide (slot.InPeriod pass.1.now.date pass.1.now.hour pass'.1.now)) = [pass] := by
    rw [List.filter_cons, if_pos (decide_eq_true own), List.filter_nil]
  rw [first] at earlier
  rw [upTo, List.filter_append, List.map_append, List.sum_append, earlier, single,
    List.map_singleton, List.sum_singleton] at whole
  rw [← sum_pos_iff, earlier, sends_iff_count]
  simp only [List.mem_append, List.mem_singleton, or_and_right, exists_or, exists_eq_left, own,
    true_and] at whole
  by_cases sent : ∃ tick ∈ front, slot.InPeriod pass.1.now.date pass.1.now.hour tick.now ∧
      slot.due lower config tick.now = true
  · simp only [sent, true_or, if_true] at whole ⊢
    omega
  · simp only [sent, false_or, if_false] at whole ⊢
    by_cases due : slot.due lower config pass.1.now = true
    · simp only [due, if_true, true_and] at whole ⊢
      omega
    · simp only [due, Bool.false_eq_true, if_false, false_and, iff_false] at whole ⊢
      omega

/-- What a pass sends is due. -/
theorem due_of_sends {ticks : List Tick} (ordered : Ordered ticks) {tenantId : String}
    {config : TenantConfig} (steady : Steady ticks tenantId config) {slot : Slot}
    {pass : Tick × List QueueMessage} (member : pass ∈ runLoop lower (fun _ _ => none) ticks)
    (sends : Sends tenantId slot pass) : slot.due lower config pass.1.now = true := by
  obtain ⟨before, after, passes⟩ := List.append_of_mem member
  exact ((sends_iff ordered steady passes).mp sends).1

section Agreement

variable {zone : Zone} {config : TenantConfig} {slot : Slot} {now : DateTime}

/-- Clocks that agree show a slot due together. -/
theorem ClocksAgree.due_iff (agree : ClocksAgree lower zone config slot)
    (utc : now.offset = some 0) :
    slot.due lower config now = true ↔
      slot.dueIn lower config (zone.civil now.instant) = true := by
  constructor
  · intro due
    rw [Slot.dueIn_of_minute (agree now utc (Or.inl due))]
    exact (Slot.due_eq_dueIn utc slot).symm.trans due
  · intro due
    rw [Slot.due_eq_dueIn utc slot]
    exact (Slot.dueIn_of_minute (agree now utc (Or.inr due)) slot).symm.trans due

/-- Clocks that agree show a slot due on one day. -/
theorem ClocksAgree.localDay (agree : ClocksAgree lower zone config slot)
    (utc : now.offset = some 0) (due : slot.due lower config now = true) :
    zone.localDay now.instant = now.dayIndex := by
  have minute := agree now utc (Or.inl due)
  unfold DateTime.minuteIndex at minute
  unfold Zone.localDay DateTime.dayIndex
  omega

/-- A slot that is due on both clocks is due in one minute of one day. -/
theorem minute_of_both (other : slot ≠ .overdue) (utc : now.offset = some 0)
    (due : slot.due lower config now = true)
    (locally : slot.dueIn lower config (zone.civil now.instant) = true) :
    zone.civil now.instant / 60000000 = now.minuteIndex := by
  rw [Slot.due_eq_dueIn utc slot] at due
  have clock := civilClock_inj (Slot.clock_of_dueIn other due locally)
  have within := zone.within now.instant
  unfold DateTime.minuteIndex
  unfold Zone.civil at clock ⊢
  omega

end Agreement

/-- A tenant with a configuration, at a time. -/
def tenantWith (tenantId : String) (config : TenantConfig) (now : DateTime) : Tenant where
  tenantId := tenantId
  name := "Tenant"
  email := "tenant@example.org"
  apiKey := "vf"
  createdAt := now
  config := config

/-- A tick at which a tenant is listed. -/
def tickFor (tenantId : String) (config : TenantConfig) (now : DateTime)
    (utc : now.offset = some 0) : Tick where
  now := now
  utc := utc
  tenants := [tenantWith tenantId config now]
  tokenHex _ _ := "00"
  duration := 600000
  short := short_tick

/-- The record of the tenant stays the same at a single tick. -/
theorem steady_tickFor (tenantId : String) (config : TenantConfig) (now : DateTime)
    (utc : now.offset = some 0) : Steady [tickFor tenantId config now utc] tenantId config := by
  intro tick member
  rw [List.mem_singleton] at member
  subst member
  exact ⟨List.nodup_singleton _, tenantWith tenantId config now, List.mem_cons_self, rfl, rfl, rfl⟩

/-- The schedule of a tenant honours its time zone exactly when both clocks show one minute of one
day whenever a slot is due in UTC or in local time. -/
theorem honours_zone_iff (zoneOf : String → Zone) (tenantId : String) (config : TenantConfig) :
    HonoursZone lower (zoneOf config.timezone) tenantId config ↔
      ∀ slot : Slot, slot ≠ .overdue → ClocksAgree lower (zoneOf config.timezone) config slot := by
  constructor
  · intro honours slot other now utc due
    -- A run of one tick.
    have ordered : Ordered [tickFor tenantId config now utc] := List.pairwise_singleton _ _
    have steady := steady_tickFor tenantId config now utc
    have sent := @sends_iff lower _ ordered _ _ steady slot [] [] _ rfl
    have wanted := honours _ ordered steady slot other [] _ [] rfl
    simp only [List.not_mem_nil, false_and, exists_false, not_false_eq_true, and_true]
      at sent wanted
    have both := sent.symm.trans wanted
    cases due with
    | inl due => exact minute_of_both other utc due (both.mp due)
    | inr due => exact minute_of_both other utc (both.mpr due) due
  · intro agree ticks ordered steady slot other before pass after passes
    have clocks := agree slot other
    rw [sends_iff ordered steady passes, clocks.due_iff pass.1.utc]
    apply and_congr_right
    intro due
    apply not_congr
    apply exists_congr
    intro earlier
    apply and_congr_right
    intro member
    apply and_congr_right
    intro sends
    have listed : earlier ∈ runLoop lower (fun _ _ => none) ticks := by
      rw [passes]
      exact List.mem_append_left _ member
    have was := due_of_sends ordered steady listed sends
    rw [clocks.localDay earlier.1.utc was,
      clocks.localDay pass.1.utc ((clocks.due_iff pass.1.utc).mpr due),
      ← Slot.periodIndex_inj earlier.1.utc pass.1.utc, Slot.periodIndex_of_ne other,
      Slot.periodIndex_of_ne other]

section Sample

/-- A day of the July of 2025 is a day. -/
theorem valid_july : 1 ≤ 2025 ∧ 2025 ≤ 9999 ∧ 1 ≤ 7 ∧ 7 ≤ 12 ∧ 1 ≤ 7 ∧ 7 ≤ daysInMonth 2025 7 := by
  decide

/-- Seven in the morning of Monday, the seventh of July 2025, in UTC. -/
def julyMorning : DateTime := ⟨⟨2025, 7, 7, valid_july⟩, 7, 0, 0, 0, some 0, valid_time fields_seven⟩

/-- Lisbon is an hour ahead in summer. -/
theorem within_lisbon (instant : Int) :
    (if 63878979600000000 ≤ instant ∧ instant < 63897123600000000 then 3600 else 0 : Int).natAbs <
      57600 := by
  split <;> decide

/-- The zone of Lisbon in 2025: summer time from the end of March to the end of October. -/
def lisbon : Zone where
  offset instant :=
    if 63878979600000000 ≤ instant ∧ instant < 63897123600000000 then 3600 else 0
  within := within_lisbon

/-- The digest of a tenant in Lisbon is not enqueued at its local time in summer. -/
theorem digest_late : ¬ HonoursZone id lisbon "tn_a" {} := by
  intro honours
  have ordered : Ordered [tickFor "tn_a" {} julyMorning rfl] := List.pairwise_singleton _ _
  have steady := steady_tickFor "tn_a" {} julyMorning rfl
  have due : Slot.daily.due id {} julyMorning = true := by decide +kernel
  have late : Slot.daily.dueIn id {} (lisbon.civil julyMorning.instant) = false := by
    decide +kernel
  have sent := (@sends_iff id _ ordered _ _ steady .daily [] [] _ rfl).mpr
    ⟨due, fun earlier => nomatch earlier⟩
  have wanted := ((honours _ ordered steady .daily (by decide) [] _ [] rfl).mp sent).1
  exact Bool.false_ne_true (late.symm.trans wanted)

end Sample

end VelaFlow.Queue
