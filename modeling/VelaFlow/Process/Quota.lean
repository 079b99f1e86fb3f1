import VelaFlow.Process.World

/-!
# The daily counters

What a world counts of a tenant on a day, and what `_check_quota` does to that: it charges one
unit where the limit leaves one, and otherwise changes no count.
-/
namespace VelaFlow.Process

/-- The two counters have keys of their own. -/
theorem UsageType.key_inj {first second : UsageType} (same : first.key = second.key) :
    first = second := by
  cases first <;> cases second <;> first | rfl | exact absurd same (by decide)

/-- Neither counter is the date. -/
theorem UsageType.date_ne_key (usageType : UsageType) : "date" ≠ usageType.key := by
  cases usageType <;> decide

/-- The number after an increment. -/
theorem number?_increment {count : Json} {number : ℚ} (counts : count.number? = some number) :
    count.increment.number? = some (number + 1) := by
  cases count with
  | bool value =>
    obtain rfl := Option.some.inj counts
    cases value <;> norm_num [Json.increment, Json.number?]
  | int value =>
    obtain rfl := Option.some.inj counts
    simp [Json.increment, Json.number?]
  | float value =>
    obtain rfl := Option.some.inj counts
    rfl
  | null => cases counts
  | str value => cases counts
  | arr items => cases counts
  | obj members => cases counts

/-- The fresh usage of a day is that day's. -/
@[simp] theorem isToday_freshUsage (today : String) : isToday (freshUsage today) today = true := by
  simp [isToday, freshUsage]

/-- Setting a counter keeps the day of a usage. -/
@[simp] theorem isToday_set (usage : Dict) (usageType : UsageType) (value : Json)
    (today : String) : isToday (usage.set usageType.key value) today = isToday usage today := by
  unfold isToday
  rw [Dict.get?_set_ne usage value usageType.date_ne_key]

/-- A usage is of one day. -/
theorem isToday_unique {usage : Dict} {today other : String} (is : isToday usage today = true)
    (also : isToday usage other = true) : today = other := by
  unfold isToday at is also
  split at is
  case h_1 date found =>
    rw [found] at also
    exact (of_decide_eq_true is).symm.trans (of_decide_eq_true also)
  case h_2 => cases is

/-- The number of a counter in a usage. -/
def countIn (usage : Dict) (usageType : UsageType) : Option ℚ :=
  (usage.get? usageType.key).bind Json.number?

/-- A fresh usage counts nothing. -/
@[simp] theorem countIn_freshUsage (today : String) (usageType : UsageType) :
    countIn (freshUsage today) usageType = some 0 := by
  cases usageType <;> simp [countIn, freshUsage, UsageType.key, Json.number?]

/-- A counter reads back what it is set to. -/
theorem countIn_set_self (usage : Dict) (usageType : UsageType) (value : Json) :
    countIn (usage.set usageType.key value) usageType = value.number? := by
  simp [countIn, Dict.get?_set_self]

/-- Setting one counter leaves the other. -/
theorem countIn_set_ne (usage : Dict) {usageType other : UsageType} (value : Json)
    (apart : other ≠ usageType) :
    countIn (usage.set usageType.key value) other = countIn usage other := by
  have keys : other.key ≠ usageType.key := fun same => apart (UsageType.key_inj same)
  simp [countIn, Dict.get?_set_ne usage value keys]

namespace World

variable {world : World} {tenantId today : String} {usageType : UsageType} {limit : Nat}
  {usage : Dict}

/-- The number a counter of a tenant stands at on a day, when there is one. -/
def counter (world : World) (tenantId : String) (usageType : UsageType) (today : String) :
    Option ℚ :=
  match world.currentUsage tenantId today with
  | .error _ => none
  | .ok usage => countIn usage usageType

/-- Whether a limit leaves a unit to charge. -/
def hasQuota (world : World) (tenantId : String) (usageType : UsageType) (limit : Nat)
    (today : String) : Bool :=
  (world.counter tenantId usageType today).any fun number => decide (number < (limit : ℚ))

/-- The world after a unit is charged to a usage. -/
def charge (world : World) (tenantId : String) (usageType : UsageType) (usage : Dict) : World :=
  world.setUsage tenantId
    (usage.set usageType.key ((usage.getD usageType.key .null).increment))

/-- Setting a usage twice sets it to the second. -/
@[simp] theorem setUsage_setUsage (world : World) (tenantId : String) (first second : Dict) :
    (world.setUsage tenantId first).setUsage tenantId second =
      world.setUsage tenantId second := by
  simp [setUsage]

/-- The usage looked at is that of the day. -/
theorem isToday_of_currentUsage (current : world.currentUsage tenantId today = .ok usage) :
    isToday usage today = true := by
  unfold currentUsage at current
  split at current
  case isTrue inMemory =>
    obtain rfl := Except.ok.inj current
    cases held : world.dailyUsage tenantId with
    | none => simp [held] at inMemory
    | some usage => simpa [held] using inMemory
  case isFalse =>
    cases loading : world.loadUsage tenantId with
    | error exception =>
      rw [loading] at current
      cases current
    | ok loaded =>
      rw [loading] at current
      simp only [Except.map, Except.ok.injEq] at current
      subst current
      split
      case isTrue stored =>
        cases loaded with
        | none => cases stored
        | some data => exact stored
      case isFalse => exact isToday_freshUsage today

/-- A usage of the day in memory is the one looked at. -/
theorem currentUsage_setUsage (is : isToday usage today = true) :
    (world.setUsage tenantId usage).currentUsage tenantId today = .ok usage := by
  simp [currentUsage, setUsage, is]

/-- Another tenant's usage is not looked at. -/
theorem currentUsage_setUsage_ne {other : String} (apart : other ≠ tenantId) (day : String) :
    (world.setUsage tenantId usage).currentUsage other day = world.currentUsage other day := by
  simp [currentUsage, loadUsage, setUsage, Function.update_of_ne apart]

/-- The usage looked at depends on what memory and storage hold of the tenant. -/
theorem currentUsage_congr {first second : World}
    (memory : first.dailyUsage tenantId = second.dailyUsage tenantId)
    (stored : first.storage.readJson (dailyUsageKey tenantId) =
      second.storage.readJson (dailyUsageKey tenantId)) (day : String) :
    first.currentUsage tenantId day = second.currentUsage tenantId day := by
  simp only [currentUsage, loadUsage, memory, stored]

/-- A counter depends on what memory and storage hold of the tenant. -/
theorem counter_congr {first second : World}
    (memory : first.dailyUsage tenantId = second.dailyUsage tenantId)
    (stored : first.storage.readJson (dailyUsageKey tenantId) =
      second.storage.readJson (dailyUsageKey tenantId)) (day : String) :
    first.counter tenantId usageType day = second.counter tenantId usageType day := by
  simp only [counter, currentUsage_congr memory stored]

/-- The counter of a usage in memory. -/
theorem counter_setUsage (is : isToday usage today = true) :
    (world.setUsage tenantId usage).counter tenantId usageType today =
      countIn usage usageType := by
  simp [counter, currentUsage_setUsage is]

/-- Another tenant's counter is not touched. -/
theorem counter_setUsage_ne {other : String} (apart : other ≠ tenantId) (day : String) :
    (world.setUsage tenantId usage).counter other usageType day =
      world.counter other usageType day := by
  simp [counter, currentUsage_setUsage_ne apart]

/-- The counter is read off the usage looked at. -/
theorem counter_eq (current : world.currentUsage tenantId today = .ok usage) :
    world.counter tenantId usageType today = countIn usage usageType := by
  simp [counter, current]

/-- With a unit left, `_check_quota` charges it. -/
theorem checkQuota_of_hasQuota
    (left : world.hasQuota tenantId usageType limit today = true) :
    ∃ usage number, world.currentUsage tenantId today = .ok usage ∧
      countIn usage usageType = some number ∧ number < limit ∧
      world.checkQuota tenantId usageType limit today =
        (.ok true, world.charge tenantId usageType usage) := by
  unfold hasQuota counter at left
  cases current : world.currentUsage tenantId today with
  | error exception => simp [current] at left
  | ok usage =>
    simp only [current, countIn] at left
    cases found : usage.get? usageType.key with
    | none => simp [found] at left
    | some count =>
      simp only [found, Option.bind_some] at left
      cases counts : count.number? with
      | none => simp [counts] at left
      | some number =>
        have below : number < limit := by simpa [counts] using left
        refine ⟨usage, number, rfl, ?_, below, ?_⟩
        · simp [countIn, found, counts]
        · simp [checkQuota, current, found, counts, not_le.mpr below, charge, Dict.getD]

/-- Without one, `_check_quota` does not admit, and at most loads the usage it looked at. -/
theorem checkQuota_of_not_hasQuota
    (spent : world.hasQuota tenantId usageType limit today = false) :
    (world.checkQuota tenantId usageType limit today).1 ≠ .ok true ∧
      ((world.checkQuota tenantId usageType limit today).2 = world ∨
        ∃ usage, world.currentUsage tenantId today = .ok usage ∧
          (world.checkQuota tenantId usageType limit today).2 = world.setUsage tenantId usage) := by
  unfold hasQuota counter at spent
  unfold checkQuota
  cases current : world.currentUsage tenantId today with
  | error exception => simp
  | ok usage =>
    simp only [current, countIn] at spent
    cases found : usage.get? usageType.key with
    | none => simp [found]
    | some count =>
      simp only [found, Option.bind_some] at spent
      cases counts : count.number? with
      | none => simp [found, counts]
      | some number =>
        have above : (limit : ℚ) ≤ number := by simpa [counts] using spent
        simp [found, counts, above]

/-- Charging adds one to the counter. -/
theorem counter_charge (current : world.currentUsage tenantId today = .ok usage) {number : ℚ}
    (counts : countIn usage usageType = some number) :
    (world.charge tenantId usageType usage).counter tenantId usageType today =
      some (number + 1) := by
  have is := isToday_of_currentUsage current
  unfold charge
  rw [counter_setUsage (by simpa using is), countIn_set_self]
  apply number?_increment
  unfold countIn at counts
  unfold Dict.getD
  cases found : usage.get? usageType.key with
  | none => simp [found] at counts
  | some count => simpa [found] using counts

/-- Charging one counter leaves the other. -/
theorem counter_charge_ne (current : world.currentUsage tenantId today = .ok usage)
    {other : UsageType} (apart : other ≠ usageType) :
    (world.charge tenantId usageType usage).counter tenantId other today =
      world.counter tenantId other today := by
  have is := isToday_of_currentUsage current
  unfold charge
  rw [counter_setUsage (by simpa using is), countIn_set_ne usage _ apart, counter_eq current]

/-- A usage of the day in memory decides the counter, whatever storage holds. -/
theorem counter_of_memory (held : world.dailyUsage tenantId = some usage)
    (is : isToday usage today = true) :
    world.counter tenantId usageType today = countIn usage usageType := by
  apply counter_eq
  simp [currentUsage, held, is]

/-- A charge that stays in memory counts one more. -/
theorem counter_of_charge {after : World}
    (current : world.currentUsage tenantId today = .ok usage) {number : ℚ}
    (counts : countIn usage usageType = some number)
    (stays : after.dailyUsage = (world.charge tenantId usageType usage).dailyUsage) :
    after.counter tenantId usageType today = some (number + 1) := by
  have is := isToday_of_currentUsage current
  rw [← counter_charge current counts]
  have held : (world.charge tenantId usageType usage).dailyUsage tenantId =
      some (usage.set usageType.key ((usage.getD usageType.key .null).increment)) := by
    simp [charge, setUsage]
  rw [counter_of_memory held (by simpa using is),
    counter_of_memory (by rw [stays]; exact held) (by simpa using is)]

/-- A write somewhere else than at the usage changes no counter. -/
theorem counter_writeJson {key : String} {data : Dict}
    (apart : ∀ target usage, Storage.resolve key = .ok target →
      Storage.resolve (dailyUsageKey tenantId) = .ok usage → usage ≠ target) (day : String) :
    (world.writeJson key data).2.counter tenantId usageType day =
      world.counter tenantId usageType day := by
  unfold writeJson Storage.LocalStorage.writeJson
  cases resolved : Storage.resolve key with
  | error exception => rfl
  | ok target =>
    apply counter_congr
    · rfl
    · unfold Storage.LocalStorage.readJson
      cases usagePath : Storage.resolve (dailyUsageKey tenantId) with
      | error exception => rfl
      | ok usage =>
        simp only [Except.map, Except.ok.injEq]
        exact world.storage.lookup_put_ne data (apart target usage resolved usagePath)

/-- Loading the usage looked at changes no counter of the day. -/
theorem currentUsage_of_not_hasQuota
    (spent : world.hasQuota tenantId usageType limit today = false) :
    (world.checkQuota tenantId usageType limit today).2.currentUsage tenantId today =
      world.currentUsage tenantId today := by
  rcases (checkQuota_of_not_hasQuota spent).2 with same | ⟨usage, current, same⟩
  · rw [same]
  · rw [same, current]
    exact currentUsage_setUsage (isToday_of_currentUsage current)

/-- `_check_quota` changes nothing but the memory. -/
theorem checkQuota_frame (world : World) (tenantId : String) (usageType : UsageType)
    (limit : Nat) (today : String) :
    ∃ dailyUsage, (world.checkQuota tenantId usageType limit today).2 =
      { world with dailyUsage } := by
  cases left : world.hasQuota tenantId usageType limit today with
  | true =>
    obtain ⟨usage, number, -, -, -, charged⟩ := checkQuota_of_hasQuota left
    exact ⟨_, congrArg Prod.snd charged⟩
  | false =>
    rcases (checkQuota_of_not_hasQuota left).2 with same | ⟨usage, -, same⟩
    · exact ⟨world.dailyUsage, same⟩
    · exact ⟨_, same⟩

end World

end VelaFlow.Process
