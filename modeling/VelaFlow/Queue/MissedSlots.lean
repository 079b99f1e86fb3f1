import VelaFlow.Queue.Scheduler

/-!
# Missed slots

A slot is due in one minute, and the loop looks at the clock a minute after the end of the last
tick. So each tick comes later in its minute than the one before, by what that took, and the loop
passes a minute over when a tick together with its place in the minute takes a minute or more. A
slot in such a minute is never enqueued, and no other slot is missed.
-/
namespace VelaFlow.Queue

open Tenants

variable {lower : String → String}

/-- A slot is due or not for a whole minute. -/
theorem Slot.due_of_minute {config : TenantConfig} {slot : Slot} {first second : DateTime}
    (firstUtc : first.offset = some 0) (secondUtc : second.offset = some 0)
    (same : first.minuteIndex = second.minuteIndex) :
    slot.due lower config first = slot.due lower config second := by
  obtain ⟨date, hour, minute⟩ := DateTime.fields_of_minuteIndex firstUtc secondUtc same
  have clock : first.clockText = second.clockText := by
    unfold DateTime.clockText
    rw [hour, minute]
  have day : first.dayName = second.dayName := by
    unfold DateTime.dayName
    rw [date]
  cases slot with
  | daily => simp only [due, clock, day]
  | overdue => simp only [due, hour, minute]
  | weekend => simp only [due, clock, day]
  | weekly => simp only [due, clock, day]

/-- A minute is known by the texts of its day and of its time. -/
theorem minuteIndex_of_texts {first second : DateTime} (firstUtc : first.offset = some 0)
    (secondUtc : second.offset = some 0) (day : first.dayKey = second.dayKey)
    (clock : first.clockText = second.clockText) : first.minuteIndex = second.minuteIndex := by
  obtain ⟨hour, minute⟩ := DateTime.clockText_inj clock
  exact DateTime.minuteIndex_of_fields firstUtc secondUtc (Date.isoformat_inj day) hour minute

/-- The hours of a day are known by their texts. -/
theorem toString_hour_inj : ∀ first < 24, ∀ second < 24,
    toString (first : Nat) = toString (second : Nat) → first = second := by decide

/-- A day and an hour are known by the text of both. -/
theorem day_hour_inj {first second : DateTime}
    (same : first.dayKey ++ "_" ++ toString first.hour =
      second.dayKey ++ "_" ++ toString second.hour) :
    first.date = second.date ∧ first.hour = second.hour := by
  have length : ∀ date : Date, date.isoformat.toList.length = 10 := by
    intro date
    simp [Date.isoformat, Date.isoChars, digits]
  have lists := congrArg String.toList same
  simp only [String.append_assoc, String.toList_append] at lists
  obtain ⟨days, hours⟩ := List.append_inj lists ((length first.date).trans (length second.date).symm)
  obtain ⟨-, texts⟩ := List.append_inj hours rfl
  exact ⟨Date.isoformat_inj (String.toList_injective days),
    toString_hour_inj _ first.valid.1 _ second.valid.1 (String.toList_injective texts)⟩

/-- A slot is due in no more than one minute of the time its key stands for. -/
theorem Slot.minute_of_checkKey {config : TenantConfig} {slot : Slot} {first second : DateTime}
    (firstUtc : first.offset = some 0) (secondUtc : second.offset = some 0)
    (one : slot.due lower config first = true) (other : slot.due lower config second = true)
    (same : slot.checkKey first = slot.checkKey second) :
    first.minuteIndex = second.minuteIndex := by
  cases slot with
  | daily =>
    simp only [due, Bool.and_eq_true, beq_iff_eq] at one other
    exact minuteIndex_of_texts firstUtc secondUtc (String.append_right_inj _ |>.mp same)
      (one.1.symm.trans other.1)
  | overdue =>
    simp only [due, Bool.and_eq_true, beq_iff_eq] at one other
    simp only [checkKey, String.append_assoc, String.append_right_inj] at same
    rw [← String.append_assoc, ← String.append_assoc] at same
    obtain ⟨date, hour⟩ := day_hour_inj same
    exact DateTime.minuteIndex_of_fields firstUtc secondUtc date hour (one.2.trans other.2.symm)
  | weekend =>
    simp only [due, Bool.and_eq_true, beq_iff_eq] at one other
    exact minuteIndex_of_texts firstUtc secondUtc (String.append_right_inj _ |>.mp same)
      (one.2.trans other.2.symm)
  | weekly =>
    simp only [due, Bool.and_eq_true, beq_iff_eq] at one other
    exact minuteIndex_of_texts firstUtc secondUtc (String.append_right_inj _ |>.mp same)
      (one.2.trans other.2.symm)

/-- The record of a tenant stays the same during the ticks: it is listed and active at each of
them, with one configuration. -/
def Steady (ticks : List Tick) (tenantId : String) (config : TenantConfig) : Prop :=
  ∀ tick ∈ ticks, (tick.tenants.map Tenant.tenantId).Nodup ∧
    ∃ tenant ∈ tick.tenants, tenant.tenantId = tenantId ∧ tenant.isActive = true ∧
      tenant.config = config

/-- A minute begins. -/
def Begins (start : DateTime) : Prop :=
  start.offset = some 0 ∧ start.second = 0 ∧ start.microsecond = 0

/-- A time falls while the loop runs. -/
def FallsIn (ticks : List Tick) (start : DateTime) : Prop :=
  (∃ first ∈ ticks.head?, first.now.instant ≤ start.instant) ∧
    ∃ last ∈ ticks.getLast?, start.instant ≤ last.now.instant

/-- A slot of a tenant is enqueued in the minute that begins at a time. -/
def Enqueued (lower : String → String) (ticks : List Tick) (tenantId : String) (slot : Slot)
    (start : DateTime) : Prop :=
  ∃ pass ∈ runLoop lower (fun _ _ => none) ticks,
    pass.1.now.minuteIndex = start.minuteIndex ∧
      ∃ token, slot.message tenantId token ∈ pass.2

/-- A tick passes a minute over: it comes in the minute before, and its place in that and what it
takes are a minute or more together. -/
def PassesOver (tick : Tick) (start : DateTime) : Prop :=
  start.minuteIndex = tick.now.minuteIndex + 1 ∧
    60000000 ≤ tick.now.instant % 60000000 + (tick.duration : Int)

/-- Every later tick comes a minute after the end of a tick. -/
theorem Paced.later {tick : Tick} {rest : List Tick} (paced : Paced (tick :: rest)) {next : Tick}
    (member : next ∈ rest) :
    tick.now.instant + 60000000 + (tick.duration : Int) ≤ next.now.instant := by
  induction rest generalizing tick with
  | nil => cases member
  | cons head rest ih =>
    unfold Paced at paced
    rw [List.isChain_cons_cons] at paced
    cases List.mem_cons.mp member with
    | inl is =>
      subst is
      omega
    | inr further =>
      have reached := ih paced.2 further
      have pace := paced.1
      omega

/-- A loop reaches every minute that none of its ticks passes over. -/
theorem Paced.reaches {ticks : List Tick} (paced : Paced ticks) {start : DateTime}
    (falls : FallsIn ticks start)
    (reached : ∀ tick ∈ ticks.dropLast, ¬ PassesOver tick start) :
    ∃ tick ∈ ticks, tick.now.minuteIndex = start.minuteIndex := by
  obtain ⟨⟨first, isFirst, after⟩, last, isLast, before⟩ := falls
  induction ticks generalizing first with
  | nil => cases isFirst
  | cons tick rest ih =>
    cases isFirst
    cases rest with
    | nil =>
      obtain rfl : tick = last := Option.some.inj isLast
      have same : tick.now.instant = start.instant := by omega
      exact ⟨tick, List.mem_cons_self, by unfold DateTime.minuteIndex; rw [same]⟩
    | cons next rest =>
      have pace := (List.isChain_cons_cons.mp paced).1
      have short := tick.short
      by_cases here : tick.now.minuteIndex = start.minuteIndex
      · exact ⟨tick, List.mem_cons_self, here⟩
      · by_cases further : next.now.instant ≤ start.instant
        · obtain ⟨found, member, is⟩ := ih (List.isChain_cons_cons.mp paced).2
            (fun other inside => reached other (List.mem_cons_of_mem _ inside)) next rfl further
            isLast
          exact ⟨found, List.mem_cons_of_mem _ member, is⟩
        · have apart := reached tick List.mem_cons_self
          refine ⟨next, List.mem_cons_of_mem _ List.mem_cons_self, ?_⟩
          unfold PassesOver at apart
          unfold DateTime.minuteIndex at here apart ⊢
          omega

/-- A minute that a tick passes over is reached by none. -/
theorem Paced.misses {ticks : List Tick} (paced : Paced ticks) {start : DateTime} {passing : Tick}
    (member : passing ∈ ticks.dropLast) (passes : PassesOver passing start) :
    ∀ tick ∈ ticks, tick.now.minuteIndex ≠ start.minuteIndex := by
  unfold PassesOver at passes
  unfold DateTime.minuteIndex at passes ⊢
  induction ticks with
  | nil => cases member
  | cons head rest ih =>
    cases rest with
    | nil => cases member
    | cons next rest =>
      intro tick inside
      have onward : Paced (next :: rest) := (List.isChain_cons_cons.mp paced).2
      cases List.mem_cons.mp member with
      | inl is =>
        subst is
        cases List.mem_cons.mp inside with
        | inl is =>
          subst is
          omega
        | inr further =>
          have later := paced.later further
          omega
      | inr behind =>
        cases List.mem_cons.mp inside with
        | inl is =>
          subst is
          have later := paced.later (List.mem_of_mem_dropLast behind)
          omega
        | inr further => exact ih onward behind tick further

/-- The keys noted for a tenant are of slots that were due in earlier minutes. -/
def Earlier (lower : String → String) (tenantId : String) (config : TenantConfig)
    (lastCheck : LastCheck) (now : DateTime) : Prop :=
  ∀ slot key, lastCheck tenantId slot = some key → ∃ before : DateTime,
    before.offset = some 0 ∧ before.minuteIndex < now.minuteIndex ∧
      slot.due lower config before = true ∧ key = slot.checkKey before

/-- Nothing is noted at the start. -/
theorem earlier_start (tenantId : String) (config : TenantConfig) (now : DateTime) :
    Earlier lower tenantId config (fun _ _ => none) now := by
  intro slot key noted
  cases noted

/-- A slot that is due at a tick has not been noted before it. -/
theorem Earlier.unnoted {tenantId : String} {config : TenantConfig} {lastCheck : LastCheck}
    {tick : Tick} (earlier : Earlier lower tenantId config lastCheck tick.now) {slot : Slot}
    (due : slot.due lower config tick.now = true) :
    lastCheck tenantId slot ≠ some (slot.checkKey tick.now) := by
  intro noted
  obtain ⟨before, utc, past, was, key⟩ := earlier slot _ noted
  have same := Slot.minute_of_checkKey utc tick.utc was due key.symm
  omega

/-- What a tick notes was due in an earlier minute at the next one. -/
theorem Earlier.next {tenantId : String} {config : TenantConfig} {lastCheck : LastCheck}
    {tick next : Tick} (earlier : Earlier lower tenantId config lastCheck tick.now)
    (later : tick.now.minuteIndex < next.now.minuteIndex)
    (distinct : (tick.tenants.map Tenant.tenantId).Nodup) {tenant : Tenant}
    (member : tenant ∈ tick.tenants) (active : tenant.isActive = true)
    (own : tenant.tenantId = tenantId) (same : tenant.config = config) :
    Earlier lower tenantId config (runTick lower lastCheck tick).2 next.now := by
  intro slot key noted
  have keys := (@runTick_spec lower lastCheck tick distinct tenant member active slot).1
  rw [own, same] at keys
  rw [keys] at noted
  split at noted
  · rename_i due
    exact ⟨tick.now, tick.utc, later, due, (Option.some.inj noted).symm⟩
  · obtain ⟨before, utc, past, was, is⟩ := earlier slot key noted
    exact ⟨before, utc, lt_trans past later, was, is⟩

/-- A slot that is due at a tick is enqueued by it. -/
theorem enqueued_of_due {tenantId : String} {config : TenantConfig} {slot : Slot}
    {ticks : List Tick} (paced : Paced ticks) (steady : Steady ticks tenantId config)
    {lastCheck : LastCheck}
    (earlier : ∀ tick ∈ ticks.head?, Earlier lower tenantId config lastCheck tick.now)
    {tick : Tick} (member : tick ∈ ticks) (due : slot.due lower config tick.now = true) :
    ∃ messages, (tick, messages) ∈ runLoop lower lastCheck ticks ∧
      ∃ token, slot.message tenantId token ∈ messages := by
  induction ticks generalizing lastCheck with
  | nil => cases member
  | cons head rest ih =>
    obtain ⟨distinct, tenant, listed, own, active, same⟩ := steady head List.mem_cons_self
    have before := earlier head rfl
    cases List.mem_cons.mp member with
    | inl is =>
      subst is
      have enqueues := (@runTick_spec lower lastCheck tick distinct tenant listed active slot).2
      rw [own, same] at enqueues
      exact ⟨_, List.mem_cons_self, _, enqueues due (before.unnoted due)⟩
    | inr later =>
      have onward : ∀ next ∈ rest.head?,
          Earlier lower tenantId config (runTick lower lastCheck head).2 next.now := by
        intro next isNext
        have apart := paced.later (List.mem_of_mem_head? isNext)
        refine before.next ?_ distinct listed active own same
        unfold DateTime.minuteIndex
        omega
      obtain ⟨messages, pass, sent⟩ := ih (List.IsChain.tail paced)
        (fun other inside => steady other (List.mem_cons_of_mem _ inside)) onward later
      exact ⟨messages, List.mem_cons_of_mem _ pass, sent⟩

/-- A pass of the loop is one of its ticks. -/
theorem mem_of_pass {ticks : List Tick} {lastCheck : LastCheck} {pass : Tick × List QueueMessage}
    (member : pass ∈ runLoop lower lastCheck ticks) : pass.1 ∈ ticks := by
  induction ticks generalizing lastCheck with
  | nil => cases member
  | cons head rest ih =>
    cases List.mem_cons.mp member with
    | inl is =>
      subst is
      exact List.mem_cons_self
    | inr later => exact List.mem_cons_of_mem _ (ih later)

/-- A slot that is due while the loop runs is enqueued exactly when no tick passes its minute
over. -/
theorem enqueued_iff {ticks : List Tick} (paced : Paced ticks) {tenantId : String}
    {config : TenantConfig} (steady : Steady ticks tenantId config) {slot : Slot}
    {start : DateTime} (begins : Begins start) (due : slot.due lower config start = true)
    (falls : FallsIn ticks start) :
    Enqueued lower ticks tenantId slot start ↔
      ∀ tick ∈ ticks.dropLast, ¬ PassesOver tick start := by
  constructor
  · rintro ⟨pass, member, minute, -⟩ passing inside passes
    exact paced.misses inside passes pass.1 (mem_of_pass member) minute
  · intro reached
    obtain ⟨tick, member, minute⟩ := paced.reaches falls reached
    have dueThen : slot.due lower config tick.now = true := by
      rw [Slot.due_of_minute tick.utc begins.1 minute]
      exact due
    obtain ⟨messages, pass, sent⟩ := enqueued_of_due paced steady
      (fun tick _ => earlier_start tenantId config tick.now) member dueThen
    exact ⟨(tick, messages), pass, minute, sent⟩

/-- No slot of a tenant whose record stays the same is missed. -/
def NoneMissed (lower : String → String) (ticks : List Tick) : Prop :=
  ∀ tenantId config, Steady ticks tenantId config → ∀ (slot : Slot) start, Begins start →
    slot.due lower config start = true → FallsIn ticks start →
      Enqueued lower ticks tenantId slot start

/-- No slot is missed exactly when no tick passes over a minute in which one is due. -/
theorem none_missed_iff {ticks : List Tick} (paced : Paced ticks) :
    NoneMissed lower ticks ↔ ∀ tenantId config, Steady ticks tenantId config → ∀ (slot : Slot) start,
      Begins start → slot.due lower config start = true → FallsIn ticks start →
        ∀ tick ∈ ticks.dropLast, ¬ PassesOver tick start := by
  constructor
  · intro all tenantId config steady slot start begins due falls
    exact (enqueued_iff paced steady begins due falls).mp
      (all tenantId config steady slot start begins due falls)
  · intro reached tenantId config steady slot start begins due falls
    exact (enqueued_iff paced steady begins due falls).mpr
      (reached tenantId config steady slot start begins due falls)

section Sample

/-- The sixth of a January is a day. -/
theorem valid_sixth : 1 ≤ 2025 ∧ 2025 ≤ 9999 ∧ 1 ≤ 1 ∧ 1 ≤ 12 ∧ 1 ≤ 6 ∧ 6 ≤ daysInMonth 2025 1 :=
  Date.valid_january ⟨by omega, by omega⟩

/-- A time of the day is one when its fields are in their ranges. -/
theorem valid_time {hour minute second microsecond : Nat}
    (fields : hour < 24 ∧ minute < 60 ∧ second < 60 ∧ microsecond < 1000000) :
    hour < 24 ∧ minute < 60 ∧ second < 60 ∧ microsecond < 1000000 ∧
      ∀ minutes ∈ some (0 : Int), minutes.natAbs < 1440 := by
  simp [fields]

/-- A time on Monday, the sixth of January 2025. -/
def onMonday (hour minute second microsecond : Nat)
    (fields : hour < 24 ∧ minute < 60 ∧ second < 60 ∧ microsecond < 1000000) : DateTime :=
  ⟨⟨2025, 1, 6, valid_sixth⟩, hour, minute, second, microsecond, some 0, valid_time fields⟩

/-- Half a second before seven is a time. -/
theorem fields_before : 6 < 24 ∧ 59 < 60 ∧ 59 < 60 ∧ 500000 < 1000000 := by omega

/-- A minute past seven, and a bit, is a time. -/
theorem fields_after : 7 < 24 ∧ 1 < 60 ∧ 0 < 60 ∧ 100000 < 1000000 := by omega

/-- Seven is a time. -/
theorem fields_seven : 7 < 24 ∧ 0 < 60 ∧ 0 < 60 ∧ 0 < 1000000 := by omega

/-- A tick takes 0.6 seconds. -/
theorem short_tick : 600000 < 60000000 := by omega

/-- A tenant with the default schedule: a digest at seven on every working day. -/
def digestTenant : Tenant where
  tenantId := "tn_a"
  name := "A"
  email := "a@a"
  apiKey := "key"
  createdAt := onMonday 7 0 0 0 fields_seven

/-- A tick that takes 0.6 seconds. -/
def tickAt (now : DateTime) (utc : now.offset = some 0) : Tick where
  now := now
  utc := utc
  tenants := [digestTenant]
  tokenHex _ _ := "00"
  duration := 600000
  short := short_tick

/-- A tick half a second before seven and the next one, past the minute. -/
def ticksAtSeven : List Tick :=
  [tickAt (onMonday 6 59 59 500000 fields_before) rfl, tickAt (onMonday 7 1 0 100000 fields_after) rfl]

/-- The second tick comes a minute after the end of the first. -/
theorem paced_ticksAtSeven : Paced ticksAtSeven := by
  unfold Paced ticksAtSeven
  rw [List.isChain_pair]
  decide +kernel

/-- The record of the tenant stays the same. -/
theorem steady_ticksAtSeven : Steady ticksAtSeven "tn_a" {} := by
  intro tick member
  rw [ticksAtSeven, List.mem_pair] at member
  cases member with
  | inl is =>
    subst is
    exact ⟨List.nodup_singleton _, digestTenant, List.mem_cons_self, rfl, rfl, rfl⟩
  | inr is =>
    subst is
    exact ⟨List.nodup_singleton _, digestTenant, List.mem_cons_self, rfl, rfl, rfl⟩

/-- What is missed around seven is what the ticks pass over. -/
theorem none_missed_at_seven : NoneMissed id ticksAtSeven ↔
    ∀ tenantId config, Steady ticksAtSeven tenantId config → ∀ (slot : Slot) start,
      Begins start → slot.due id config start = true → FallsIn ticksAtSeven start →
        ∀ tick ∈ ticksAtSeven.dropLast, ¬ PassesOver tick start :=
  none_missed_iff paced_ticksAtSeven

/-- The digest at seven is missed. -/
theorem digest_missed : ¬ NoneMissed id ticksAtSeven := by
  intro all
  have begins : Begins (onMonday 7 0 0 0 fields_seven) := ⟨rfl, rfl, rfl⟩
  have due : Slot.daily.due id {} (onMonday 7 0 0 0 fields_seven) = true := by decide +kernel
  have falls : FallsIn ticksAtSeven (onMonday 7 0 0 0 fields_seven) :=
    ⟨⟨_, rfl, by decide +kernel⟩, _, rfl, by decide +kernel⟩
  have sent := all "tn_a" {} steady_ticksAtSeven .daily _ begins due falls
  have passes : PassesOver (tickAt (onMonday 6 59 59 500000 fields_before) rfl)
      (onMonday 7 0 0 0 fields_seven) := by
    unfold PassesOver
    decide +kernel
  exact (enqueued_iff paced_ticksAtSeven steady_ticksAtSeven begins due falls).mp sent _
    List.mem_cons_self passes

end Sample

end VelaFlow.Queue
