import Mathlib.Algebra.BigOperators.Ring.Finset
import Mathlib.Data.String.Basic
import VelaFlow.Foundation.DateTime

/-!
# Days of the week, minutes and the order of times

What `strftime` writes of a time for `"%H:%M"` and `"%a"`, in lower case, and the minutes of UTC,
numbered. Two UTC times in one minute have one date, hour and minute. Dates can be shifted by days
within the calendar, and the texts that `isoformat` writes of UTC times are ordered as the times.
-/
namespace VelaFlow

namespace Date

/-- The days before a month of a year. -/
def daysBefore (year month : Nat) : Nat :=
  ((List.range (month - 1)).map fun earlier => daysInMonth year (earlier + 1)).sum

/-- The days before a year. -/
def daysBeforeYear (year : Nat) : Int :=
  ((year : Int) - 1) * 365 + ((year : Int) - 1) / 4 - ((year : Int) - 1) / 100 +
    ((year : Int) - 1) / 400

/-- The days up to a date are those before its year, those before its month and its own. -/
theorem ordinal_eq (date : Date) : date.ordinal =
    daysBeforeYear date.year + daysBefore date.year date.month + date.day := by
  have months : ((List.range (date.month - 1)).map fun month =>
      (daysInMonth date.year (month + 1) : Int)).sum = daysBefore date.year date.month := by
    unfold daysBefore
    rw [Nat.cast_list_sum, List.map_map]
    rfl
  unfold ordinal daysBeforeYear
  dsimp only
  rw [months]

/-- The days before the next month. -/
theorem daysBefore_succ (year : Nat) {month : Nat} (first : 1 ≤ month) :
    daysBefore year (month + 1) = daysBefore year month + daysInMonth year month := by
  obtain ⟨before, rfl⟩ : ∃ before, month = before + 1 := ⟨month - 1, by omega⟩
  simp [daysBefore, List.range_succ]

/-- A month that is earlier is over before a later one. -/
theorem daysBefore_of_lt (year : Nat) {first second : Nat} (positive : 1 ≤ first)
    (earlier : first < second) :
    daysBefore year first + daysInMonth year first ≤ daysBefore year second := by
  induction second, earlier using Nat.le_induction with
  | base => rw [daysBefore_succ year positive]
  | succ second later ih =>
    rw [daysBefore_succ year (by omega)]
    omega

/-- The days of a year. -/
theorem daysBeforeYear_succ (year : Nat) :
    daysBeforeYear (year + 1) = daysBeforeYear year + daysBefore year 13 := by
  have total : (daysBefore year 13 : Int) =
      365 + if (year % 4 = 0 ∧ year % 100 ≠ 0) ∨ year % 400 = 0 then 1 else 0 := by
    have months : (List.range (13 - 1)) = [0, 1, 2, 3, 4, 5, 6, 7, 8, 9, 10, 11] := by decide
    unfold daysBefore
    rw [months]
    unfold daysInMonth
    simp only [List.map_cons, List.map_nil, List.sum_cons, List.sum_nil]
    by_cases leap : (year % 4 = 0 ∧ year % 100 ≠ 0) ∨ year % 400 = 0
    · simp only [if_pos leap]
      rfl
    · simp only [if_neg leap]
      rfl
  unfold daysBeforeYear
  rw [total]
  split <;> push_cast <;> omega

/-- A year that is earlier is over before a later one. -/
theorem daysBeforeYear_of_lt {first second : Nat} (earlier : first < second) :
    daysBeforeYear first + daysBefore first 13 ≤ daysBeforeYear second := by
  induction second, earlier using Nat.le_induction with
  | base => rw [daysBeforeYear_succ]
  | succ second later ih =>
    rw [daysBeforeYear_succ]
    omega

/-- A date is at most as far into its year as the year is long. -/
theorem day_le_year (date : Date) :
    daysBefore date.year date.month + date.day ≤ daysBefore date.year 13 := by
  obtain ⟨-, -, first, last, -, within⟩ := date.valid
  have month := daysBefore_of_lt date.year first (show date.month < 13 by omega)
  omega

/-- A date is known by its day. -/
theorem ordinal_inj {first second : Date} (same : first.ordinal = second.ordinal) :
    first = second := by
  have firstYear := first.day_le_year
  have secondYear := second.day_le_year
  obtain ⟨-, -, firstMonth, -, firstDay, firstLast⟩ := first.valid
  obtain ⟨-, -, secondMonth, -, secondDay, secondLast⟩ := second.valid
  rw [ordinal_eq, ordinal_eq] at same
  have years : first.year = second.year := by
    by_contra apart
    cases Nat.lt_or_gt_of_ne apart with
    | inl earlier =>
      have past := daysBeforeYear_of_lt earlier
      omega
    | inr later =>
      have past := daysBeforeYear_of_lt later
      omega
  rw [years] at same firstLast
  have months : first.month = second.month := by
    by_contra apart
    cases Nat.lt_or_gt_of_ne apart with
    | inl earlier =>
      have past := daysBefore_of_lt second.year firstMonth earlier
      omega
    | inr later =>
      have past := daysBefore_of_lt second.year secondMonth later
      omega
  rw [months] at same
  exact Date.ext years months (by omega)

/-- The day after a date, when the calendar has one. -/
def next? (date : Date) : Option Date :=
  if date.day < daysInMonth date.year date.month then
    DateTime.makeDate date.year date.month (date.day + 1)
  else if date.month < 12 then DateTime.makeDate date.year (date.month + 1) 1
  else DateTime.makeDate (date.year + 1) 1 1

/-- A date that is made has the given fields. -/
theorem fields_makeDate {year month day : Nat} {date : Date}
    (made : DateTime.makeDate year month day = some date) :
    date.year = year ∧ date.month = month ∧ date.day = day := by
  unfold DateTime.makeDate at made
  split at made
  · cases made
    exact ⟨rfl, rfl, rfl⟩
  · cases made

/-- The day after a date is the next. -/
theorem ordinal_next? {date later : Date} (next : date.next? = some later) :
    later.ordinal = date.ordinal + 1 := by
  obtain ⟨-, -, first, last, -, within⟩ := date.valid
  unfold next? at next
  rw [ordinal_eq, ordinal_eq]
  split at next
  case isTrue =>
    obtain ⟨year, month, day⟩ := fields_makeDate next
    rw [year, month, day]
    push_cast
    omega
  case isFalse ends =>
    have day' : date.day = daysInMonth date.year date.month := by omega
    have ended := daysBefore_succ date.year first
    split at next
    case isTrue =>
      obtain ⟨year, month, day⟩ := fields_makeDate next
      rw [year, month, day, ended, day']
      push_cast
      omega
    case isFalse december =>
      obtain ⟨year, month, day⟩ := fields_makeDate next
      have years := daysBeforeYear_succ date.year
      have january : daysBefore (date.year + 1) 1 = 0 := rfl
      have twelve : date.month + 1 = 13 := by omega
      rw [twelve] at ended
      rw [year, month, day, years, january, ended, day']
      push_cast
      omega

/-- `date + timedelta(days=count)`; `none` is an `OverflowError`. -/
def addDays (date : Date) : Nat → Option Date
  | 0 => some date
  | count + 1 => (addDays date count).bind next?

/-- Days that are added count. -/
theorem ordinal_addDays {date later : Date} {count : Nat} (added : date.addDays count = some later) :
    later.ordinal = date.ordinal + count := by
  induction count generalizing later with
  | zero =>
    cases added
    exact (Int.add_zero _).symm
  | succ more ih =>
    obtain ⟨before, earlier, next⟩ := Option.bind_eq_some_iff.mp added
    rw [ordinal_next? next, ih earlier]
    push_cast
    omega

end Date

namespace DateTime

/-- `strftime("%H:%M")`. -/
def clockText (time : DateTime) : String :=
  String.ofList (digits 2 time.hour ++ ':' :: digits 2 time.minute)

/-- `strftime("%a").lower()`. -/
def dayName (time : DateTime) : String :=
  match (time.date.ordinal + 6) % 7 with
  | 0 => "mon"
  | 1 => "tue"
  | 2 => "wed"
  | 3 => "thu"
  | 4 => "fri"
  | 5 => "sat"
  | _ => "sun"

/-- The number of the minute a time is in. -/
def minuteIndex (time : DateTime) : Int := time.instant / 60000000

/-- Two times in one minute have one date, hour and minute. -/
theorem fields_of_minuteIndex {first second : DateTime} (firstUtc : first.offset = some 0)
    (secondUtc : second.offset = some 0) (same : first.minuteIndex = second.minuteIndex) :
    first.date = second.date ∧ first.hour = second.hour ∧ first.minute = second.minute := by
  obtain ⟨firstHour, firstMinute, firstSecond, firstMicrosecond, -⟩ := first.valid
  obtain ⟨secondHour, secondMinute, secondSecond, secondMicrosecond, -⟩ := second.valid
  unfold minuteIndex instant at same
  rw [firstUtc, secondUtc] at same
  simp only [Option.getD_some] at same
  refine ⟨Date.ordinal_inj ?_, ?_, ?_⟩ <;> omega

/-- Two times of one date, hour and minute are in one minute. -/
theorem minuteIndex_of_fields {first second : DateTime} (firstUtc : first.offset = some 0)
    (secondUtc : second.offset = some 0) (date : first.date = second.date)
    (hour : first.hour = second.hour) (minute : first.minute = second.minute) :
    first.minuteIndex = second.minuteIndex := by
  obtain ⟨-, -, firstSecond, firstMicrosecond, -⟩ := first.valid
  obtain ⟨-, -, secondSecond, secondMicrosecond, -⟩ := second.valid
  unfold minuteIndex instant
  rw [firstUtc, secondUtc, date, hour, minute]
  simp only [Option.getD_some]
  omega

/-- An hour and a minute are known by their text. -/
theorem clockText_inj {first second : DateTime} (same : first.clockText = second.clockText) :
    first.hour = second.hour ∧ first.minute = second.minute := by
  obtain ⟨firstHour, firstMinute, -⟩ := first.valid
  obtain ⟨secondHour, secondMinute, -⟩ := second.valid
  obtain ⟨hours, rests⟩ := digits_inj (by omega) (by omega) (String.ofList_injective same)
  have minutes : digits 2 first.minute ++ [] = digits 2 second.minute ++ [] := by
    rw [List.append_nil, List.append_nil]
    exact (List.cons.inj rests).2
  exact ⟨hours, (digits_inj (by omega) (by omega) minutes).1⟩

/-- The number of the day a time is in. -/
def dayIndex (time : DateTime) : Int := time.instant / 86400000000

/-- The number of the hour a time is in. -/
def hourIndex (time : DateTime) : Int := time.instant / 3600000000

/-- Two UTC times are in one day when they have one date. -/
theorem dayIndex_inj {first second : DateTime} (firstUtc : first.offset = some 0)
    (secondUtc : second.offset = some 0) :
    first.dayIndex = second.dayIndex ↔ first.date = second.date := by
  obtain ⟨firstHour, firstMinute, firstSecond, firstMicrosecond, -⟩ := first.valid
  obtain ⟨secondHour, secondMinute, secondSecond, secondMicrosecond, -⟩ := second.valid
  unfold dayIndex instant
  rw [firstUtc, secondUtc]
  simp only [Option.getD_some]
  constructor
  · intro same
    apply Date.ordinal_inj
    omega
  · intro same
    rw [same]
    omega

/-- Two UTC times are in one hour when they have one date and hour. -/
theorem hourIndex_inj {first second : DateTime} (firstUtc : first.offset = some 0)
    (secondUtc : second.offset = some 0) :
    first.hourIndex = second.hourIndex ↔ first.date = second.date ∧ first.hour = second.hour := by
  obtain ⟨firstHour, firstMinute, firstSecond, firstMicrosecond, -⟩ := first.valid
  obtain ⟨secondHour, secondMinute, secondSecond, secondMicrosecond, -⟩ := second.valid
  unfold hourIndex instant
  rw [firstUtc, secondUtc]
  simp only [Option.getD_some]
  constructor
  · intro same
    refine ⟨Date.ordinal_inj ?_, ?_⟩ <;> omega
  · rintro ⟨date, hour⟩
    rw [date, hour]
    omega

/-- `strftime("%Y%m%dT%H%M%S")`. -/
def stamp (time : DateTime) : String :=
  String.ofList (digits 4 time.date.year ++ (digits 2 time.date.month ++ (digits 2 time.date.day ++
    'T' :: (digits 2 time.hour ++ (digits 2 time.minute ++ digits 2 time.second)))))

/-- The number of the second a time is in. -/
def secondIndex (time : DateTime) : Int := time.instant / 1000000

/-- Two UTC times have one stamp when they are in one second. -/
theorem stamp_inj {first second : DateTime} (firstUtc : first.offset = some 0)
    (secondUtc : second.offset = some 0) :
    first.stamp = second.stamp ↔ first.secondIndex = second.secondIndex := by
  obtain ⟨firstHour, firstMinute, firstSecond, firstMicrosecond, -⟩ := first.valid
  obtain ⟨secondHour, secondMinute, secondSecond, secondMicrosecond, -⟩ := second.valid
  have fits : ∀ date : Date, date.year < 10 ^ 4 ∧ date.month < 10 ^ 2 ∧ date.day < 10 ^ 2 := by
    intro date
    obtain ⟨-, year, -, month, -, -⟩ := date.valid
    have day := date.day_le
    omega
  obtain ⟨firstYear, firstMonth, firstDay⟩ := fits first.date
  obtain ⟨secondYear, secondMonth, secondDay⟩ := fits second.date
  unfold secondIndex instant
  rw [firstUtc, secondUtc]
  simp only [Option.getD_some]
  constructor
  · intro same
    obtain ⟨year, rest⟩ := digits_inj firstYear secondYear (String.ofList_injective same)
    obtain ⟨month, rest⟩ := digits_inj firstMonth secondMonth rest
    obtain ⟨day, rest⟩ := digits_inj firstDay secondDay rest
    obtain ⟨hour, rest⟩ := digits_inj (by omega) (by omega) (List.cons.inj rest).2
    obtain ⟨minute, rest⟩ := digits_inj (by omega) (by omega) rest
    have seconds : digits 2 first.second ++ [] = digits 2 second.second ++ [] := by
      rw [rest]
    have last := (digits_inj (by omega) (by omega) seconds).1
    rw [Date.ext year month day, hour, minute, last]
    omega
  · intro same
    have date : first.date = second.date := Date.ordinal_inj (by omega)
    have hour : first.hour = second.hour := by omega
    have minute : first.minute = second.minute := by omega
    have last : first.second = second.second := by omega
    unfold stamp
    rw [date, hour, minute, last]

end DateTime

namespace Date

/-- The day of the last date. -/
def lastOrdinal : Int := 3652059

/-- Every month has a day. -/
theorem daysInMonth_pos (year month : Nat) : 28 ≤ daysInMonth year month := by
  unfold daysInMonth
  split
  · split <;> omega
  · split <;> omega

/-- A date that is valid is made. -/
theorem exists_makeDate {year month day : Nat}
    (valid : 1 ≤ year ∧ year ≤ 9999 ∧ 1 ≤ month ∧ month ≤ 12 ∧ 1 ≤ day ∧
      day ≤ daysInMonth year month) :
    ∃ date, DateTime.makeDate year month day = some date := by
  unfold DateTime.makeDate
  rw [dif_pos valid]
  exact ⟨_, rfl⟩

/-- The day before a date, when the calendar has one. -/
def previous? (date : Date) : Option Date :=
  if 1 < date.day then DateTime.makeDate date.year date.month (date.day - 1)
  else if 1 < date.month then
    DateTime.makeDate date.year (date.month - 1) (daysInMonth date.year (date.month - 1))
  else DateTime.makeDate (date.year - 1) 12 31

/-- The day before a date is the one before. -/
theorem ordinal_previous? {date earlier : Date} (before : date.previous? = some earlier) :
    earlier.ordinal = date.ordinal - 1 := by
  have ⟨first, _, month, _, day, _⟩ := date.valid
  unfold previous? at before
  rw [ordinal_eq, ordinal_eq]
  by_cases within : 1 < date.day
  · rw [if_pos within] at before
    have ⟨sameYear, sameMonth, made⟩ := fields_makeDate before
    rw [sameYear, sameMonth, made]
    omega
  · rw [if_neg within] at before
    by_cases later : 1 < date.month
    · rw [if_pos later] at before
      have ⟨sameYear, made, last⟩ := fields_makeDate before
      have ended := daysBefore_succ date.year (show 1 ≤ date.month - 1 by omega)
      rw [show date.month - 1 + 1 = date.month by omega] at ended
      rw [sameYear, made, last, ended]
      push_cast
      omega
    · rw [if_neg later] at before
      have ⟨made, twelve, last⟩ := fields_makeDate before
      have years := daysBeforeYear_succ (date.year - 1)
      rw [show date.year - 1 + 1 = date.year by omega] at years
      have ended : daysBefore (date.year - 1) 13 =
          daysBefore (date.year - 1) 12 + daysInMonth (date.year - 1) 12 :=
        daysBefore_succ (date.year - 1) (show 1 ≤ 12 by omega)
      have december : daysInMonth (date.year - 1) 12 = 31 := rfl
      have january : daysBefore date.year 1 = 0 := rfl
      rw [show date.month = 1 by omega, show date.day = 1 by omega]
      rw [made, twelve, last, years, january]
      rw [december] at ended
      omega

/-- No date is before the first. -/
theorem ordinal_pos (date : Date) : 1 ≤ date.ordinal := by
  have ⟨first, _, _, _, day, _⟩ := date.valid
  rw [ordinal_eq]
  unfold daysBeforeYear
  omega

/-- No date is behind the last. -/
theorem ordinal_le_last (date : Date) : date.ordinal ≤ lastOrdinal := by
  have ⟨_, last, _⟩ := date.valid
  have within := date.day_le_year
  have ended := daysBeforeYear_of_lt (show date.year < 10000 by omega)
  have final : daysBeforeYear 10000 = 3652059 := rfl
  rw [ordinal_eq]
  unfold lastOrdinal
  omega

/-- Behind every date but the last there is another. -/
theorem exists_next? {date : Date} (early : date.ordinal < lastOrdinal) :
    ∃ later, date.next? = some later := by
  have ⟨first, last, month, twelve, day, within⟩ := date.valid
  unfold next?
  by_cases inside : date.day < daysInMonth date.year date.month
  · rw [if_pos inside]
    exact exists_makeDate ⟨first, last, month, twelve, by omega, by omega⟩
  · rw [if_neg inside]
    by_cases other : date.month < 12
    · have some' := daysInMonth_pos date.year (date.month + 1)
      rw [if_pos other]
      exact exists_makeDate ⟨first, last, by omega, by omega, by omega, by omega⟩
    · have year : date.year ≠ 9999 := by
        intro final
        have december : daysInMonth 9999 12 = 31 := rfl
        have before : daysBefore 9999 12 = 334 := rfl
        have years : daysBeforeYear 9999 = 3651694 := rfl
        rw [ordinal_eq, final, show date.month = 12 by omega, before, years] at early
        rw [final, show date.month = 12 by omega, december] at inside
        unfold lastOrdinal at early
        omega
      have some' := daysInMonth_pos (date.year + 1) 1
      rw [if_neg other]
      exact exists_makeDate ⟨by omega, by omega, by omega, by omega, by omega, by omega⟩

/-- Before every date but the first there is another. -/
theorem exists_previous? {date : Date} (late : 1 < date.ordinal) :
    ∃ earlier, date.previous? = some earlier := by
  have ⟨first, last, month, twelve, day, within⟩ := date.valid
  unfold previous?
  by_cases inside : 1 < date.day
  · rw [if_pos inside]
    exact exists_makeDate ⟨first, last, month, twelve, by omega, by omega⟩
  · rw [if_neg inside]
    by_cases other : 1 < date.month
    · have some' := daysInMonth_pos date.year (date.month - 1)
      rw [if_pos other]
      exact exists_makeDate ⟨first, last, by omega, by omega, by omega, by omega⟩
    · have year : date.year ≠ 1 := by
        intro one
        have years : daysBeforeYear 1 = 0 := rfl
        have before : daysBefore 1 1 = 0 := rfl
        rw [ordinal_eq, one, show date.month = 1 by omega, before, years] at late
        omega
      have december : daysInMonth (date.year - 1) 12 = 31 := rfl
      rw [if_neg other]
      exact exists_makeDate ⟨by omega, by omega, by omega, by omega, by omega, by omega⟩

/-- `date - timedelta(days=count)`; `none` is an `OverflowError`. -/
def subDays (date : Date) : Nat → Option Date
  | 0 => some date
  | count + 1 => (subDays date count).bind previous?

/-- `date + timedelta(days=count)`, for a count of any sign; `none` is an `OverflowError`. -/
def shiftDays (date : Date) : Int → Option Date
  | .ofNat count => date.addDays count
  | .negSucc count => date.subDays (count + 1)

/-- Days that are taken off count. -/
theorem ordinal_subDays {date earlier : Date} {count : Nat}
    (taken : date.subDays count = some earlier) : earlier.ordinal = date.ordinal - count := by
  induction count generalizing earlier with
  | zero =>
    cases taken
    exact (Int.sub_zero _).symm
  | succ more ih =>
    have ⟨after, later, before⟩ := Option.bind_eq_some_iff.mp taken
    rw [ordinal_previous? before, ih later]
    push_cast
    omega

/-- Days can be added up to the last date. -/
theorem exists_addDays (date : Date) {count : Nat} (within : date.ordinal + count ≤ lastOrdinal) :
    ∃ later, date.addDays count = some later := by
  induction count with
  | zero => exact ⟨date, rfl⟩
  | succ more ih =>
    push_cast at within
    have ⟨before, added⟩ := ih (by omega)
    have reached := ordinal_addDays added
    have ⟨later, next⟩ := exists_next? (show before.ordinal < lastOrdinal by omega)
    exact ⟨later, Option.bind_eq_some_iff.mpr ⟨before, added, next⟩⟩

/-- Days can be taken off down to the first date. -/
theorem exists_subDays (date : Date) {count : Nat} (within : 1 ≤ date.ordinal - count) :
    ∃ earlier, date.subDays count = some earlier := by
  induction count with
  | zero => exact ⟨date, rfl⟩
  | succ more ih =>
    push_cast at within
    have ⟨after, taken⟩ := ih (by omega)
    have reached := ordinal_subDays taken
    have ⟨earlier, before⟩ := exists_previous? (show 1 < after.ordinal by omega)
    exact ⟨earlier, Option.bind_eq_some_iff.mpr ⟨after, taken, before⟩⟩

/-- Days that are added or taken off count. -/
theorem ordinal_shiftDays {date other : Date} {count : Int}
    (shifted : date.shiftDays count = some other) : other.ordinal = date.ordinal + count := by
  cases count with
  | ofNat count => exact ordinal_addDays shifted
  | negSucc count =>
    have taken := ordinal_subDays (show date.subDays (count + 1) = some other from shifted)
    rw [taken]
    push_cast
    omega

/-- A date can be shifted exactly within the calendar. -/
theorem exists_shiftDays_iff (date : Date) (count : Int) :
    (∃ other, date.shiftDays count = some other) ↔
      1 ≤ date.ordinal + count ∧ date.ordinal + count ≤ lastOrdinal := by
  constructor
  · intro ⟨other, shifted⟩
    have reached := ordinal_shiftDays shifted
    rw [← reached]
    exact ⟨other.ordinal_pos, other.ordinal_le_last⟩
  · intro ⟨first, last⟩
    cases count with
    | ofNat count => exact exists_addDays date last
    | negSucc count =>
      exact exists_subDays date (by omega)

end Date

section Order

open DateTime

/-- One digit is ordered as the number it is of. -/
theorem digitChar_lt {first second : Nat} (fits : second < 10) (less : first < second) :
    Nat.digitChar first < Nat.digitChar second := by
  have all : ∀ second < 10, ∀ first < second, Nat.digitChar first < Nat.digitChar second := by
    decide
  exact all second fits first less

/-- Digits of one width are ordered as the numbers they write. -/
theorem digits_lt_mod {width first second : Nat}
    (less : first % 10 ^ width < second % 10 ^ width) (firstRest secondRest : List Char) :
    digits width first ++ firstRest < digits width second ++ secondRest := by
  induction width with
  | zero => simp [Nat.mod_one] at less
  | succ width ih =>
    have fits : second / 10 ^ width % 10 < 10 := Nat.mod_lt _ (by decide)
    have small : first % 10 ^ width < 10 ^ width := Nat.mod_lt _ (Nat.pow_pos (by decide))
    have bound : second % 10 ^ width < 10 ^ width := Nat.mod_lt _ (Nat.pow_pos (by decide))
    rw [Nat.mod_pow_succ, Nat.mod_pow_succ] at less
    simp only [digits, List.cons_append]
    apply List.cons_lt_cons_iff.mpr
    by_cases heads : first / 10 ^ width % 10 < second / 10 ^ width % 10
    · exact .inl (digitChar_lt fits heads)
    · have most : 10 ^ width * (second / 10 ^ width % 10) ≤
          10 ^ width * (first / 10 ^ width % 10) := Nat.mul_le_mul_left _ (by omega)
      have same : first / 10 ^ width % 10 = second / 10 ^ width % 10 := by
        by_contra apart
        have next : 10 ^ width * (second / 10 ^ width % 10 + 1) ≤
            10 ^ width * (first / 10 ^ width % 10) := Nat.mul_le_mul_left _ (by omega)
        rw [Nat.mul_add] at next
        omega
      rw [same] at less ⊢
      exact .inr ⟨rfl, ih (by omega)⟩

/-- Digits of one width are ordered as the numbers they are of. -/
theorem digits_lt {width first second : Nat} (fits : second < 10 ^ width) (less : first < second)
    (firstRest secondRest : List Char) :
    digits width first ++ firstRest < digits width second ++ secondRest := by
  apply digits_lt_mod
  rw [Nat.mod_eq_of_lt fits, Nat.mod_eq_of_lt (by omega)]
  exact less

/-- A date that is earlier is so by its year, or its month, or its day. -/
theorem Date.fields_of_lt {first second : Date} (earlier : first.ordinal < second.ordinal) :
    first.year < second.year ∨ first.year = second.year ∧ (first.month < second.month ∨
      first.month = second.month ∧ first.day < second.day) := by
  have firstYear := first.day_le_year
  have secondYear := second.day_le_year
  have ⟨_, _, firstMonth, _, firstDay, firstLast⟩ := first.valid
  have ⟨_, _, secondMonth, _, secondDay, secondLast⟩ := second.valid
  rw [ordinal_eq, ordinal_eq] at earlier
  have years : ¬ second.year < first.year := by
    intro past
    have ended := daysBeforeYear_of_lt past
    omega
  by_cases year : first.year = second.year
  · refine .inr ⟨year, ?_⟩
    rw [year] at earlier firstLast
    have months : ¬ second.month < first.month := by
      intro past
      have ended := daysBefore_of_lt second.year secondMonth past
      omega
    by_cases month : first.month = second.month
    · rw [month] at earlier
      exact .inr ⟨month, by omega⟩
    · exact .inl (by omega)
  · exact .inl (by omega)

/-- The texts of dates are ordered as the dates. -/
theorem Date.isoChars_lt {first second : Date} (earlier : first.ordinal < second.ordinal)
    (firstRest secondRest : List Char) :
    first.isoChars ++ firstRest < second.isoChars ++ secondRest := by
  have ⟨_, year, _, month, _⟩ := second.valid
  have day := second.day_le
  simp only [isoChars, List.append_assoc, List.cons_append]
  cases fields_of_lt earlier with
  | inl years => exact digits_lt (by omega) years _ _
  | inr same =>
    rw [same.1]
    apply List.append_left_lt
    apply List.cons_lt_cons_iff.mpr (.inr ⟨rfl, _⟩)
    cases same.2 with
    | inl months => exact digits_lt (by omega) months _ _
    | inr rest =>
      rw [rest.1]
      apply List.append_left_lt
      exact List.cons_lt_cons_iff.mpr (.inr ⟨rfl, digits_lt (by omega) rest.2 _ _⟩)

namespace DateTime

/-- Fractions of a second are ordered as their microseconds, in front of an offset of UTC. -/
theorem fractionChars_lt {first second : Nat} (fits : second < 1000000) (less : first < second) :
    fractionChars first ++ offsetChars (some 0) < fractionChars second ++ offsetChars (some 0) := by
  have after : second ≠ 0 := by omega
  unfold fractionChars
  rw [if_neg after, List.cons_append]
  by_cases whole : first = 0
  · rw [if_pos whole]
    exact List.cons_lt_cons_iff.mpr (.inl (by decide))
  · rw [if_neg whole, List.cons_append]
    exact List.cons_lt_cons_iff.mpr (.inr ⟨rfl, digits_lt fits less _ _⟩)

variable {first second : DateTime} (firstUtc : first.offset = some 0)
  (secondUtc : second.offset = some 0)
include firstUtc secondUtc

/-- Two UTC times are one when their instants are. -/
theorem instant_inj (same : first.instant = second.instant) : first = second := by
  have ⟨firstHour, firstMinute, firstSecond, firstMicrosecond, _⟩ := first.valid
  have ⟨secondHour, secondMinute, secondSecond, secondMicrosecond, _⟩ := second.valid
  unfold instant at same
  rw [firstUtc, secondUtc] at same
  simp only [Option.getD_some] at same
  apply DateTime.ext
  · exact Date.ordinal_inj (by omega)
  · omega
  · omega
  · omega
  · omega
  · rw [firstUtc, secondUtc]

/-- The text of an earlier time is less. -/
theorem isoformat_lt (earlier : first.instant < second.instant) :
    first.isoformat < second.isoformat := by
  have ⟨firstHour, firstMinute, firstSecond, firstMicrosecond, _⟩ := first.valid
  have ⟨secondHour, secondMinute, secondSecond, secondMicrosecond, _⟩ := second.valid
  unfold instant at earlier
  rw [firstUtc, secondUtc] at earlier
  simp only [Option.getD_some] at earlier
  have behind : ∀ {one other : List Char} (character : Char), one < other →
      character :: one < character :: other := fun _ less =>
    List.cons_lt_cons_iff.mpr (.inr ⟨rfl, less⟩)
  rw [String.lt_iff_toList_lt]
  unfold isoformat
  rw [String.toList_ofList, String.toList_ofList, firstUtc, secondUtc]
  simp only [List.append_assoc, List.cons_append]
  by_cases dates : first.date.ordinal < second.date.ordinal
  · exact Date.isoChars_lt dates _ _
  · have date : first.date = second.date := Date.ordinal_inj (by omega)
    rw [date] at earlier ⊢
    apply List.append_left_lt
    apply behind
    by_cases hours : first.hour < second.hour
    · exact digits_lt (by omega) hours _ _
    · have hour : first.hour = second.hour := by omega
      rw [hour] at earlier ⊢
      apply List.append_left_lt
      apply behind
      by_cases minutes : first.minute < second.minute
      · exact digits_lt (by omega) minutes _ _
      · have minute : first.minute = second.minute := by omega
        rw [minute] at earlier ⊢
        apply List.append_left_lt
        apply behind
        by_cases seconds : first.second < second.second
        · exact digits_lt (by omega) seconds _ _
        · have second' : first.second = second.second := by omega
          rw [second'] at earlier ⊢
          apply List.append_left_lt
          exact fractionChars_lt secondMicrosecond (by omega)

/-- The texts of UTC times are ordered as the times. -/
theorem isoformat_lt_iff : first.isoformat < second.isoformat ↔ first.instant < second.instant := by
  constructor
  · intro less
    by_contra other
    by_cases same : first.instant = second.instant
    · rw [instant_inj firstUtc secondUtc same] at less
      exact lt_irrefl _ less
    · exact lt_asymm less (isoformat_lt secondUtc firstUtc (by omega))
  · exact isoformat_lt firstUtc secondUtc

/-- The texts of UTC times are ordered as the times. -/
theorem isoformat_le_iff : first.isoformat ≤ second.isoformat ↔ first.instant ≤ second.instant := by
  rw [← not_lt, isoformat_lt_iff secondUtc firstUtc, not_lt]

end DateTime

end Order

end VelaFlow
