import Mathlib.Data.List.Basic
import Mathlib.Tactic.Ring

/-!
# Dates and times

Python's `datetime`, by its fields, as far as the modelled code reads them: `isoformat`,
`fromisoformat` of what `isoformat` writes, the date of a `strftime("%Y-%m-%d")`, and the order
of two aware values. A value without an offset is naive. Offsets are whole minutes.
-/
namespace VelaFlow

/-- The days of a month of the Gregorian calendar. -/
def daysInMonth (year month : Nat) : Nat :=
  if month = 2 then if (year % 4 = 0 ∧ year % 100 ≠ 0) ∨ year % 400 = 0 then 29 else 28
  else if month = 4 ∨ month = 6 ∨ month = 9 ∨ month = 11 then 30
  else 31

/-- `datetime.date`. -/
@[ext] structure Date where
  /-- `year`. -/
  year : Nat
  /-- `month`. -/
  month : Nat
  /-- `day`. -/
  day : Nat
  /-- The range of the fields. -/
  valid : 1 ≤ year ∧ year ≤ 9999 ∧ 1 ≤ month ∧ month ≤ 12 ∧ 1 ≤ day ∧ day ≤ daysInMonth year month
  deriving DecidableEq

/-- `datetime.datetime`. -/
@[ext] structure DateTime where
  /-- `date()`. -/
  date : Date
  /-- `hour`. -/
  hour : Nat
  /-- `minute`. -/
  minute : Nat
  /-- `second`. -/
  second : Nat
  /-- `microsecond`. -/
  microsecond : Nat
  /-- The offset from UTC in minutes, when the value is aware. -/
  offset : Option Int
  /-- The range of the fields. -/
  valid : hour < 24 ∧ minute < 60 ∧ second < 60 ∧ microsecond < 1000000 ∧
    ∀ minutes ∈ offset, minutes.natAbs < 1440
  deriving DecidableEq

/-- The last `width` decimal digits of a number. -/
def digits : Nat → Nat → List Char
  | 0, _ => []
  | width + 1, value => Nat.digitChar (value / 10 ^ width % 10) :: digits width value

/-- Reads `width` decimal digits behind the number read so far. -/
def readDigits : Nat → List Char → Nat → Option (Nat × List Char)
  | 0, text, read => some (read, text)
  | _ + 1, [], _ => none
  | width + 1, character :: rest, read =>
    if character.isDigit then readDigits width rest (read * 10 + (character.toNat - 48)) else none

/-- Reads one given character. -/
def readChar (expected : Char) : List Char → Option (List Char)
  | [] => none
  | character :: rest => if character = expected then some rest else none

/-- Reading digits back gives the number they were written from. -/
theorem readDigits_digits (width value read : Nat) (rest : List Char) :
    readDigits width (digits width value ++ rest) read =
      some (read * 10 ^ width + value % 10 ^ width, rest) := by
  induction width generalizing read with
  | zero => simp [readDigits, digits, Nat.mod_one]
  | succ width ih =>
    have small : value / 10 ^ width % 10 < 10 := Nat.mod_lt _ (by decide)
    have isDigit : (Nat.digitChar (value / 10 ^ width % 10)).isDigit = true := by
      simp [small]
    simp only [digits, List.cons_append, readDigits, isDigit, if_true, ih,
      Nat.toNat_digitChar_sub_48_of_lt_ten small]
    rw [Nat.mod_pow_succ, Nat.pow_succ]
    congr 2
    ring

/-- Numbers that fit the width are read back as they are. -/
theorem readDigits_digits_of_lt {width value : Nat} (fits : value < 10 ^ width)
    (rest : List Char) : readDigits width (digits width value ++ rest) 0 = some (value, rest) := by
  rw [readDigits_digits, Nat.mod_eq_of_lt fits, Nat.zero_mul, Nat.zero_add]

/-- A number that fits is known by its digits. -/
theorem digits_inj {width first second : Nat} (firstFits : first < 10 ^ width)
    (secondFits : second < 10 ^ width) {firstRest secondRest : List Char}
    (same : digits width first ++ firstRest = digits width second ++ secondRest) :
    first = second ∧ firstRest = secondRest := by
  have read := readDigits_digits_of_lt firstFits firstRest
  rw [same, readDigits_digits_of_lt secondFits] at read
  exact ⟨(Prod.mk.inj (Option.some.inj read)).1.symm,
    (Prod.mk.inj (Option.some.inj read)).2.symm⟩

/-- Decimal digits are digits. -/
theorem isDigit_of_mem_digits {width value : Nat} {character : Char}
    (inside : character ∈ digits width value) : character.isDigit = true := by
  induction width with
  | zero => cases inside
  | succ width ih =>
    cases List.mem_cons.mp inside with
    | inl is =>
      have small : value / 10 ^ width % 10 < 10 := Nat.mod_lt _ (by decide)
      rw [is]
      simp [small]
    | inr later => exact ih later

namespace Date

/-- No month has more than 31 days. -/
theorem day_le (date : Date) : date.day ≤ 31 := by
  have last := date.valid.2.2.2.2.2
  unfold daysInMonth at last
  split at last
  · split at last <;> omega
  · split at last <;> omega

/-- The days of a January are valid. -/
theorem valid_january {day : Nat} (within : 1 ≤ day ∧ day ≤ 31) :
    1 ≤ 2025 ∧ 2025 ≤ 9999 ∧ 1 ≤ 1 ∧ 1 ≤ 12 ∧ 1 ≤ day ∧ day ≤ daysInMonth 2025 1 := by
  have last : daysInMonth 2025 1 = 31 := rfl
  rw [last]
  omega

/-- The characters of `isoformat()`. -/
def isoChars (date : Date) : List Char :=
  digits 4 date.year ++ '-' :: digits 2 date.month ++ '-' :: digits 2 date.day

/-- `isoformat()`, which is also `strftime("%Y-%m-%d")`. -/
def isoformat (date : Date) : String := String.ofList date.isoChars

/-- A number that orders dates as the calendar does. -/
def number (date : Date) : Nat := (date.year * 16 + date.month) * 32 + date.day

/-- A date is known by its number. -/
theorem number_inj {first second : Date} (same : first.number = second.number) :
    first = second := by
  obtain ⟨-, -, -, firstMonth, -⟩ := first.valid
  obtain ⟨-, -, -, secondMonth, -⟩ := second.valid
  have firstDay := first.day_le
  have secondDay := second.day_le
  unfold number at same
  ext <;> omega

/-- A date is known by its text. -/
theorem isoformat_inj {first second : Date} (same : first.isoformat = second.isoformat) :
    first = second := by
  have characters : first.isoChars = second.isoChars := by
    simpa [isoformat] using congrArg String.toList same
  obtain ⟨-, firstYear, -, firstMonth, -⟩ := first.valid
  obtain ⟨-, secondYear, -, secondMonth, -⟩ := second.valid
  have firstDay := first.day_le
  have secondDay := second.day_le
  simp only [isoChars, List.append_assoc, List.cons_append] at characters
  obtain ⟨year, characters⟩ := digits_inj (by omega) (by omega) characters
  obtain ⟨month, characters⟩ := digits_inj (by omega) (by omega) (List.cons.inj characters).2
  obtain ⟨day, -⟩ := digits_inj (by omega) (by omega)
    (congrArg (· ++ []) (List.cons.inj characters).2)
  exact Date.ext year month day

/-- The days from the first of January of year one. -/
def ordinal (date : Date) : Int :=
  let before : Int := date.year - 1
  let months := ((List.range (date.month - 1)).map fun month =>
    (daysInMonth date.year (month + 1) : Int)).sum
  before * 365 + before / 4 - before / 100 + before / 400 + months + date.day

end Date

namespace DateTime

/-- Noon is a valid time. -/
theorem valid_noon : 12 < 24 ∧ 0 < 60 ∧ 0 < 60 ∧ 0 < 1000000 ∧
    ∀ minutes ∈ some (0 : Int), minutes.natAbs < 1440 := by
  simp

/-- The first of a January is a valid day. -/
theorem valid_newYear :
    1 ≤ 2025 ∧ 2025 ≤ 9999 ∧ 1 ≤ 1 ∧ 1 ≤ 12 ∧ 1 ≤ 1 ∧ 1 ≤ daysInMonth 2025 1 :=
  Date.valid_january ⟨Nat.le_refl 1, Nat.le_add_left 1 30⟩

/-- Noon of a new year's day, as a sample. -/
def newYear : DateTime := ⟨⟨2025, 1, 1, valid_newYear⟩, 12, 0, 0, 0, some 0, valid_noon⟩

/-- `strftime("%Y-%m-%d")` of a UTC time: the key of its day. -/
def dayKey (time : DateTime) : String := time.date.isoformat

/-- The microseconds from the start of year one in UTC; a naive value counts as UTC. -/
def instant (time : DateTime) : Int :=
  (((time.date.ordinal * 24 + time.hour) * 60 + time.minute - time.offset.getD 0) * 60 +
    time.second) * 1000000 + time.microsecond

/-- The characters of an offset in `isoformat()`. -/
def offsetChars : Option Int → List Char
  | none => []
  | some minutes =>
    (if minutes < 0 then '-' else '+') ::
      digits 2 (minutes.natAbs / 60) ++ ':' :: digits 2 (minutes.natAbs % 60)

/-- The characters of the fraction of a second in `isoformat()`. -/
def fractionChars (microsecond : Nat) : List Char :=
  if microsecond = 0 then [] else '.' :: digits 6 microsecond

/-- `isoformat()`. -/
def isoformat (time : DateTime) : String :=
  String.ofList (time.date.isoChars ++ 'T' :: digits 2 time.hour ++ ':' :: digits 2 time.minute ++
    ':' :: digits 2 time.second ++ fractionChars time.microsecond ++ offsetChars time.offset)

/-- Reads the fraction of a second, zero when there is none. -/
def readFraction (text : List Char) : Option (Nat × List Char) :=
  match text with
  | '.' :: rest => readDigits 6 rest 0
  | _ => some (0, text)

/-- Reads the offset at the end, none when there is none. -/
def readOffset (text : List Char) : Option (Option Int) :=
  match text with
  | [] => some none
  | sign :: rest => do
    let (hours, rest) ← readDigits 2 rest 0
    let rest ← readChar ':' rest
    let (minutes, rest) ← readDigits 2 rest 0
    let size : Int := hours * 60 + minutes
    match rest with
    | [] =>
      if sign = '+' then some (some size) else if sign = '-' then some (some (-size)) else none
    | _ => none

/-- A date of the given fields, when there is one. -/
def makeDate (year month day : Nat) : Option Date :=
  if valid : 1 ≤ year ∧ year ≤ 9999 ∧ 1 ≤ month ∧ month ≤ 12 ∧ 1 ≤ day ∧
      day ≤ daysInMonth year month then
    some ⟨year, month, day, valid⟩
  else none

/-- A time of the given fields, when there is one. -/
def make (date : Date) (hour minute second microsecond : Nat) (offset : Option Int) :
    Option DateTime :=
  if valid : hour < 24 ∧ minute < 60 ∧ second < 60 ∧ microsecond < 1000000 ∧
      ∀ minutes ∈ offset, minutes.natAbs < 1440 then
    some ⟨date, hour, minute, second, microsecond, offset, valid⟩
  else none

/-- Reads the fields of a date. -/
def readDate (text : List Char) : Option ((Nat × Nat × Nat) × List Char) := do
  let (year, rest) ← readDigits 4 text 0
  let rest ← readChar '-' rest
  let (month, rest) ← readDigits 2 rest 0
  let rest ← readChar '-' rest
  let (day, rest) ← readDigits 2 rest 0
  return ((year, month, day), rest)

/-- Reads the fields of a time of day. -/
def readTime (text : List Char) : Option ((Nat × Nat × Nat) × List Char) := do
  let (hour, rest) ← readDigits 2 text 0
  let rest ← readChar ':' rest
  let (minute, rest) ← readDigits 2 rest 0
  let rest ← readChar ':' rest
  let (second, rest) ← readDigits 2 rest 0
  return ((hour, minute, second), rest)

/-- `fromisoformat` of a text in the form `isoformat` writes; `none` is a `ValueError`. -/
def fromIsoformat (text : String) : Option DateTime := do
  let ((year, month, day), rest) ← readDate text.toList
  let rest ← readChar 'T' rest
  let ((hour, minute, second), rest) ← readTime rest
  let (microsecond, rest) ← readFraction rest
  let offset ← readOffset rest
  let date ← makeDate year month day
  make date hour minute second microsecond offset

/-- An offset is read back. -/
theorem readOffset_offsetChars {offset : Option Int}
    (bounded : ∀ minutes ∈ offset, minutes.natAbs < 1440) :
    readOffset (offsetChars offset) = some offset := by
  cases offset with
  | none => rfl
  | some minutes =>
    have size := bounded minutes rfl
    have hours : minutes.natAbs / 60 < 10 ^ 2 := by omega
    have rest : minutes.natAbs % 60 < 10 ^ 2 := by omega
    have whole : digits 2 (minutes.natAbs % 60) = digits 2 (minutes.natAbs % 60) ++ [] := by simp
    simp only [offsetChars, readOffset, List.cons_append]
    rw [whole]
    simp only [readDigits_digits_of_lt hours, readChar, readDigits_digits_of_lt rest, if_true,
      Option.bind_eq_bind, Option.bind_some]
    by_cases negative : minutes < 0
    · have value : -(((minutes.natAbs / 60 : Nat) : Int) * 60 +
          ((minutes.natAbs % 60 : Nat) : Int)) = minutes := by omega
      rw [if_pos negative, if_neg (by decide), if_pos rfl, value]
    · have value : ((minutes.natAbs / 60 : Nat) : Int) * 60 +
          ((minutes.natAbs % 60 : Nat) : Int) = minutes := by omega
      rw [if_neg negative, if_pos rfl, value]

/-- The fraction of a second is read back in front of an offset. -/
theorem readFraction_fractionChars {microsecond : Nat} (bounded : microsecond < 1000000)
    (offset : Option Int) :
    readFraction (fractionChars microsecond ++ offsetChars offset) =
      some (microsecond, offsetChars offset) := by
  by_cases whole : microsecond = 0
  · subst whole
    cases offset with
    | none => rfl
    | some minutes =>
      simp only [fractionChars, if_true, List.nil_append, offsetChars]
      split <;> rfl
  · simp only [fractionChars, whole, if_false, List.cons_append, readFraction]
    exact readDigits_digits_of_lt bounded _

/-- The fields of a date are read back. -/
theorem readDate_isoChars (date : Date) (rest : List Char) :
    readDate (date.isoChars ++ rest) = some ((date.year, date.month, date.day), rest) := by
  obtain ⟨-, year, -, month, -⟩ := date.valid
  have day := date.day_le
  unfold readDate Date.isoChars
  rw [List.append_assoc, List.cons_append, List.append_assoc, List.cons_append]
  rw [readDigits_digits_of_lt (by omega)]
  simp only [Option.bind_eq_bind, Option.bind_some, readChar, if_true]
  rw [readDigits_digits_of_lt (by omega)]
  simp only [Option.bind_some, if_true]
  rw [readDigits_digits_of_lt (by omega)]
  rfl

/-- The fields of a time of day are read back. -/
theorem readTime_digits {hour minute second : Nat}
    (bounded : hour < 24 ∧ minute < 60 ∧ second < 60) (rest : List Char) :
    readTime (digits 2 hour ++ ':' :: (digits 2 minute ++ ':' :: (digits 2 second ++ rest))) =
      some ((hour, minute, second), rest) := by
  obtain ⟨hours, minutes, seconds⟩ := bounded
  unfold readTime
  rw [readDigits_digits_of_lt (by omega)]
  simp only [Option.bind_eq_bind, Option.bind_some, readChar, if_true]
  rw [readDigits_digits_of_lt (by omega)]
  simp only [Option.bind_some, if_true]
  rw [readDigits_digits_of_lt (by omega)]
  rfl

/-- `fromisoformat` reads back what `isoformat` writes. -/
theorem fromIsoformat_isoformat (time : DateTime) : fromIsoformat time.isoformat = some time := by
  obtain ⟨hour, minute, second, microsecond, offset⟩ := time.valid
  have date : makeDate time.date.year time.date.month time.date.day = some time.date := by
    unfold makeDate
    rw [dif_pos time.date.valid]
  have made : make time.date time.hour time.minute time.second time.microsecond time.offset =
      some time := by
    unfold make
    rw [dif_pos time.valid]
  unfold fromIsoformat isoformat
  rw [String.toList_ofList]
  simp only [List.append_assoc, List.cons_append]
  rw [readDate_isoChars]
  simp only [Option.bind_eq_bind, Option.bind_some, readChar, if_true]
  rw [readTime_digits ⟨hour, minute, second⟩]
  simp only [Option.bind_some]
  rw [readFraction_fractionChars microsecond]
  simp only [Option.bind_some]
  rw [readOffset_offsetChars offset]
  simp only [Option.bind_some, date, made]

end DateTime

end VelaFlow
