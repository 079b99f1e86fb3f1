import Mathlib.Data.List.Basic
import Mathlib.Tactic.Ring

/-!
# JSON strings

How `json.dumps` writes a string in ASCII and `json.loads` reads one. A character is one code
unit, or two when it lies beyond the basic plane; a unit is written as itself, as a short escape
or as `\u` with four digits. What is written is read back in front of any rest.
-/
namespace VelaFlow

namespace JsonText

/-- The code units of a character in an escaped string. -/
def units (character : Char) : List Nat :=
  let code := character.toNat
  if code < 0x10000 then [code]
  else [0xD800 + (code - 0x10000) / 0x400, 0xDC00 + (code - 0x10000) % 0x400]

/-- Joins code units to characters; half of a surrogate pair alone is no character. -/
def joinUnits : List Nat → Option (List Char)
  | [] => some []
  | unit :: rest =>
    if 0xD800 ≤ unit ∧ unit < 0xDC00 then
      match rest with
      | [] => none
      | low :: rest =>
        if 0xDC00 ≤ low ∧ low < 0xE000 then
          (joinUnits rest).map
            (Char.ofNat (0x10000 + (unit - 0xD800) * 0x400 + (low - 0xDC00)) :: ·)
        else none
    else if 0xDC00 ≤ unit ∧ unit < 0xE000 then none
    else (joinUnits rest).map (Char.ofNat unit :: ·)

/-- A character is joined from its units. -/
theorem joinUnits_units (character : Char) (rest : List Nat) :
    joinUnits (units character ++ rest) = (joinUnits rest).map (character :: ·) := by
  have valid := character.valid
  have code : Char.ofNat character.toNat = character := Char.ofNat_toNat character
  unfold units
  by_cases plain : character.toNat < 0x10000
  · have high : ¬(0xD800 ≤ character.toNat ∧ character.toNat < 0xDC00) := by
      rcases valid with below | above
      · exact fun both => absurd below (Nat.not_lt_of_le both.1)
      · have last : 0xDFFF < character.toNat := above.1
        omega
    have low : ¬(0xDC00 ≤ character.toNat ∧ character.toNat < 0xE000) := by
      rcases valid with below | above
      · have first : character.toNat < 0xD800 := below
        omega
      · have last : 0xDFFF < character.toNat := above.1
        omega
    simp only [plain, if_true, List.cons_append, List.nil_append]
    rw [joinUnits.eq_def]
    simp only [high, low, if_false, code]
  · have small : character.toNat < 0x110000 := by
      rcases valid with below | above
      · exact absurd (Nat.lt_trans below (by decide)) plain
      · exact above.2
    have whole : 0x10000 + (0xD800 + (character.toNat - 0x10000) / 0x400 - 0xD800) * 0x400 +
        (0xDC00 + (character.toNat - 0x10000) % 0x400 - 0xDC00) = character.toNat := by omega
    have high : 0xD800 ≤ 0xD800 + (character.toNat - 0x10000) / 0x400 ∧
        0xD800 + (character.toNat - 0x10000) / 0x400 < 0xDC00 := by omega
    have low : 0xDC00 ≤ 0xDC00 + (character.toNat - 0x10000) % 0x400 ∧
        0xDC00 + (character.toNat - 0x10000) % 0x400 < 0xE000 := by omega
    simp only [plain, if_false, List.cons_append, List.nil_append, joinUnits, high, low, if_true,
      and_self, whole, code]

/-- A text is joined from its units. -/
theorem joinUnits_flatMap (text : List Char) : joinUnits (text.flatMap units) = some text := by
  induction text with
  | nil => rfl
  | cons character rest ih => rw [List.flatMap_cons, joinUnits_units, ih, Option.map_some]

/-- The value of a hexadecimal digit. -/
def hexValue? (character : Char) : Option Nat :=
  let code := character.toNat
  if 48 ≤ code ∧ code ≤ 57 then some (code - 48)
  else if 97 ≤ code ∧ code ≤ 102 then some (code - 87)
  else if 65 ≤ code ∧ code ≤ 70 then some (code - 55)
  else none

/-- Four hexadecimal digits of a code unit. -/
def hexDigits (unit : Nat) : List Char :=
  [Nat.digitChar (unit / 4096 % 16), Nat.digitChar (unit / 256 % 16),
   Nat.digitChar (unit / 16 % 16), Nat.digitChar (unit % 16)]

/-- Reads four hexadecimal digits. -/
def readHex : List Char → Option (Nat × List Char)
  | first :: second :: third :: fourth :: rest => do
    let thousands ← hexValue? first
    let hundreds ← hexValue? second
    let tens ← hexValue? third
    let ones ← hexValue? fourth
    some (((thousands * 16 + hundreds) * 16 + tens) * 16 + ones, rest)
  | _ => none

/-- A hexadecimal digit reads back. -/
theorem hexValue?_digitChar {digit : Nat} (small : digit < 16) :
    hexValue? (Nat.digitChar digit) = some digit := by
  have all : ∀ digit < 16, hexValue? (Nat.digitChar digit) = some digit := by decide
  exact all digit small

/-- Four hexadecimal digits read back. -/
theorem readHex_hexDigits {unit : Nat} (small : unit < 0x10000) (rest : List Char) :
    readHex (hexDigits unit ++ rest) = some (unit, rest) := by
  have value : ((unit / 4096 % 16 * 16 + unit / 256 % 16) * 16 + unit / 16 % 16) * 16 +
      unit % 16 = unit := by omega
  have digit : ∀ number, hexValue? (Nat.digitChar (number % 16)) = some (number % 16) :=
    fun number => hexValue?_digitChar (Nat.mod_lt _ (by decide))
  simp only [hexDigits, List.cons_append, List.nil_append, readHex, digit,
    Option.bind_eq_bind, Option.bind_some, value]

/-- The letter of a short escape and the code it stands for. -/
def shortEscapes : List (Char × Nat) :=
  [('\\', 92), ('"', 34), ('/', 47), ('b', 8), ('f', 12), ('n', 10), ('r', 13), ('t', 9)]

/-- The letter with which `json.dumps` escapes a code unit, when it is short. -/
def escapeLetter? (unit : Nat) : Option Char :=
  if unit = 92 then some '\\'
  else if unit = 34 then some '"'
  else if unit = 10 then some 'n'
  else if unit = 13 then some 'r'
  else if unit = 9 then some 't'
  else if unit = 12 then some 'f'
  else if unit = 8 then some 'b'
  else none

/-- How `json.dumps` writes a code unit. -/
def writeUnit (unit : Nat) : List Char :=
  match escapeLetter? unit with
  | some letter => ['\\', letter]
  | none => if 32 ≤ unit ∧ unit ≤ 126 then [Char.ofNat unit] else '\\' :: 'u' :: hexDigits unit

/-- Reads one code unit of a string, which has not ended. -/
def readUnit : List Char → Option (Nat × List Char)
  | [] => none
  | character :: rest =>
    if character = '\\' then
      match rest with
      | [] => none
      | letter :: rest =>
        if letter = 'u' then readHex rest
        else (shortEscapes.lookup letter).map (·, rest)
    else if character.toNat < 32 then none
    else some (character.toNat, rest)

/-- A printable unit is the code of its character. -/
theorem toNat_ofNat_of_printable {unit : Nat} (printable : 32 ≤ unit ∧ unit ≤ 126) :
    (Char.ofNat unit).toNat = unit := by
  have all : ∀ unit < 127, (Char.ofNat unit).toNat = unit := by decide
  exact all unit (Nat.lt_succ_of_le printable.2)

/-- The letter of a short escape is read as its unit. -/
theorem lookup_escapeLetter {unit : Nat} {letter : Char}
    (short : escapeLetter? unit = some letter) :
    letter ≠ 'u' ∧ shortEscapes.lookup letter = some unit := by
  unfold escapeLetter? at short
  split_ifs at short <;> (obtain rfl := Option.some.inj short; subst_vars; decide)

/-- A code unit reads back. -/
theorem readUnit_writeUnit {unit : Nat} (small : unit < 0x10000) (rest : List Char) :
    readUnit (writeUnit unit ++ rest) = some (unit, rest) := by
  unfold writeUnit
  cases short : escapeLetter? unit with
  | some letter =>
    obtain ⟨other, found⟩ := lookup_escapeLetter short
    simp [readUnit, other, found]
  | none =>
    by_cases printable : 32 ≤ unit ∧ unit ≤ 126
    · have code := toNat_ofNat_of_printable printable
      have plain : Char.ofNat unit ≠ '\\' := by
        intro same
        rw [same] at code
        have backslash : unit = 92 := by rw [← code]; rfl
        rw [backslash] at short
        cases short
      simp [printable, readUnit, plain, code]
    · simp [printable, readUnit, readHex_hexDigits small]

/-- No unit is written with a leading quote. -/
theorem writeUnit_head (unit : Nat) :
    ∃ first rest, writeUnit unit = first :: rest ∧ first ≠ '"' := by
  unfold writeUnit
  cases short : escapeLetter? unit with
  | some letter => exact ⟨_, _, rfl, by decide⟩
  | none =>
    by_cases printable : 32 ≤ unit ∧ unit ≤ 126
    · refine ⟨_, [], if_pos printable, ?_⟩
      intro same
      have code := toNat_ofNat_of_printable printable
      rw [same] at code
      have quote : unit = 34 := by rw [← code]; rfl
      rw [quote] at short
      cases short
    · exact ⟨_, _, if_neg printable, by decide⟩

/-- The text of a string between its quotes. -/
def writeUnits (unitList : List Nat) : List Char := unitList.flatMap writeUnit

/-- `json.dumps` of a string. -/
def writeString (text : List Char) : List Char :=
  '"' :: (writeUnits (text.flatMap units) ++ ['"'])

/-- Reads the code units of a string up to its closing quote. -/
def readUnits : Nat → List Char → Option (List Nat × List Char)
  | 0, _ => none
  | _ + 1, [] => none
  | fuel + 1, character :: rest =>
    if character = '"' then some ([], rest)
    else do
      let (unit, rest) ← readUnit (character :: rest)
      let (more, rest) ← readUnits fuel rest
      some (unit :: more, rest)

/-- Reads a string behind its opening quote. -/
def readString (text : List Char) : Option (List Char × List Char) := do
  let (unitList, rest) ← readUnits (text.length + 1) text
  let characters ← joinUnits unitList
  some (characters, rest)

/-- Code units read back up to the closing quote. -/
theorem readUnits_writeUnits {unitList : List Nat} (small : ∀ unit ∈ unitList, unit < 0x10000)
    {fuel : Nat} (enough : unitList.length < fuel) (rest : List Char) :
    readUnits fuel (writeUnits unitList ++ '"' :: rest) = some (unitList, rest) := by
  induction unitList generalizing fuel with
  | nil =>
    obtain ⟨fuel, rfl⟩ := Nat.exists_eq_succ_of_ne_zero (Nat.ne_zero_of_lt enough)
    rfl
  | cons unit more ih =>
    obtain ⟨fuel, rfl⟩ := Nat.exists_eq_succ_of_ne_zero (Nat.ne_zero_of_lt enough)
    have read := readUnit_writeUnit (small unit List.mem_cons_self) (writeUnits more ++ '"' :: rest)
    have later := ih (fun unit inside => small unit (List.mem_cons_of_mem _ inside))
      (Nat.lt_of_succ_lt_succ enough)
    obtain ⟨first, tail, written, other⟩ := writeUnit_head unit
    unfold writeUnits at read later ⊢
    rw [List.flatMap_cons, List.append_assoc]
    rw [written, List.cons_append] at read ⊢
    simp only [readUnits, other, if_false, read, Option.bind_eq_bind, Option.bind_some, later]

/-- Every unit of a text fits four hexadecimal digits. -/
theorem units_lt (text : List Char) : ∀ unit ∈ text.flatMap units, unit < 0x10000 := by
  intro unit inside
  obtain ⟨character, -, within⟩ := List.mem_flatMap.mp inside
  have small : character.toNat < 0x110000 := by
    rcases character.valid with below | above
    · exact Nat.lt_trans below (by decide)
    · exact above.2
  unfold units at within
  by_cases plain : character.toNat < 0x10000
  · simp only [plain, if_true, List.mem_singleton] at within
    rw [within]
    exact plain
  · simp only [plain, if_false, List.mem_cons, List.not_mem_nil, or_false] at within
    rcases within with first | second
    · rw [first]
      omega
    · rw [second]
      omega

/-- A unit is written with at least one character. -/
theorem length_le_writeUnits (unitList : List Nat) :
    unitList.length ≤ (writeUnits unitList).length := by
  induction unitList with
  | nil => exact Nat.le_refl _
  | cons unit more ih =>
    obtain ⟨first, tail, written, -⟩ := writeUnit_head unit
    unfold writeUnits at ih ⊢
    rw [List.flatMap_cons, List.length_append, List.length_cons, written, List.length_cons]
    omega

/-- A string reads back behind its opening quote. -/
theorem readString_writeString (text rest : List Char) :
    readString (writeUnits (text.flatMap units) ++ '"' :: rest) = some (text, rest) := by
  have enough := length_le_writeUnits (text.flatMap units)
  unfold readString
  rw [readUnits_writeUnits (units_lt text) (by rw [List.length_append]; omega)]
  simp only [Option.bind_eq_bind, Option.bind_some, joinUnits_flatMap]

end JsonText

end VelaFlow
