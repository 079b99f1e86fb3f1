import VelaFlow.Foundation.Python

/-!
# Base64 as Python reads and writes it

`base64.urlsafe_b64encode` writes groups of four characters and pads the last one. What
`base64.urlsafe_b64decode` reads is more than that: characters outside the alphabet are passed over,
a last group may have bits that no byte takes, and reading stops where the padding is complete.
-/
namespace VelaFlow.Base64

/-- The characters of the URL-safe alphabet, by their six bits. -/
def alphabet : List Char :=
  "ABCDEFGHIJKLMNOPQRSTUVWXYZabcdefghijklmnopqrstuvwxyz0123456789-_".toList

/-- The character of six bits. -/
def sextetChar (value : Nat) : Char := alphabet.getD value 'A'

/-- The six bits of a character, which may also be one of the standard alphabet. -/
def sextet? (character : Char) : Option Nat :=
  if character = '+' then some 62
  else if character = '/' then some 63
  else alphabet.idxOf? character

/-- `base64.urlsafe_b64encode`. -/
def encode : List UInt8 → List Char
  | [] => []
  | [one] => [sextetChar (one.toNat / 4), sextetChar (one.toNat % 4 * 16), '=', '=']
  | [one, two] =>
    [sextetChar (one.toNat / 4), sextetChar (one.toNat % 4 * 16 + two.toNat / 16),
      sextetChar (two.toNat % 16 * 4), '=']
  | one :: two :: three :: rest =>
    sextetChar (one.toNat / 4) :: sextetChar (one.toNat % 4 * 16 + two.toNat / 16) ::
      sextetChar (two.toNat % 16 * 4 + three.toNat / 64) :: sextetChar (three.toNat % 64) ::
        encode rest

/-- `binascii.a2b_base64`: reads on with the place in the group, the bits left over from it and the
padding seen in it. -/
def readGroups : (place left pads : Nat) → List Char → Option (List UInt8)
  | place, _, _, [] => if place = 0 then some [] else none
  | place, left, pads, character :: rest =>
    if character = '=' then
      if 2 ≤ place then
        if 4 ≤ place + (pads + 1) then some [] else readGroups place left (pads + 1) rest
      else readGroups place left pads rest
    else
      match sextet? character with
      | none => readGroups place left pads rest
      | some value =>
        match place with
        | 0 => readGroups 1 value 0 rest
        | 1 => (readGroups 2 (value % 16) 0 rest).map (UInt8.ofNat (left * 4 + value / 16) :: ·)
        | 2 => (readGroups 3 (value % 4) 0 rest).map (UInt8.ofNat (left * 16 + value / 4) :: ·)
        | _ => (readGroups 0 0 0 rest).map (UInt8.ofNat (left * 64 + value) :: ·)

/-- `base64.urlsafe_b64decode` of a text. -/
def decode (text : List Char) : Except PyException (List UInt8) :=
  if text.all fun character => decide (character.toNat < 128) then
    match readGroups 0 0 0 text with
    | some bytes => .ok bytes
    | none => .error (.valueError "Incorrect padding")
  else .error (.valueError "string argument should contain only ASCII characters")

/-- Six bits read back from their character, which is not padding. -/
theorem sextet?_sextetChar {value : Nat} (fits : value < 64) :
    sextet? (sextetChar value) = some value ∧ sextetChar value ≠ '=' ∧
      (sextetChar value).toNat < 128 := by
  have all : ∀ value < 64, sextet? (sextetChar value) = some value ∧ sextetChar value ≠ '=' ∧
      (sextetChar value).toNat < 128 := by decide +kernel
  exact all value fits

/-- Reading the first character of a group. -/
theorem readGroups_first {value : Nat} (fits : value < 64) (left pads : Nat) (rest : List Char) :
    readGroups 0 left pads (sextetChar value :: rest) = readGroups 1 value 0 rest := by
  obtain ⟨read, other, -⟩ := sextet?_sextetChar fits
  rw [readGroups, if_neg other, read]
  rfl

/-- Reading the second character of a group. -/
theorem readGroups_second {value : Nat} (fits : value < 64) (left pads : Nat) (rest : List Char) :
    readGroups 1 left pads (sextetChar value :: rest) =
      (readGroups 2 (value % 16) 0 rest).map (UInt8.ofNat (left * 4 + value / 16) :: ·) := by
  obtain ⟨read, other, -⟩ := sextet?_sextetChar fits
  rw [readGroups, if_neg other, read]
  rfl

/-- Reading the third character of a group. -/
theorem readGroups_third {value : Nat} (fits : value < 64) (left pads : Nat) (rest : List Char) :
    readGroups 2 left pads (sextetChar value :: rest) =
      (readGroups 3 (value % 4) 0 rest).map (UInt8.ofNat (left * 16 + value / 4) :: ·) := by
  obtain ⟨read, other, -⟩ := sextet?_sextetChar fits
  rw [readGroups, if_neg other, read]
  rfl

/-- Reading the last character of a group. -/
theorem readGroups_last {value : Nat} (fits : value < 64) (left pads : Nat) (rest : List Char) :
    readGroups 3 left pads (sextetChar value :: rest) =
      (readGroups 0 0 0 rest).map (UInt8.ofNat (left * 64 + value) :: ·) := by
  obtain ⟨read, other, -⟩ := sextet?_sextetChar fits
  rw [readGroups, if_neg other, read]
  rfl

/-- A byte is known by its number. -/
theorem ofNat_eq {byte : UInt8} {value : Nat} (same : value = byte.toNat) :
    UInt8.ofNat value = byte := by
  rw [same, UInt8.ofNat_toNat]

/-- Reading padding that completes a group. -/
theorem readGroups_pads (left : Nat) (rest : List Char) :
    readGroups 2 left 0 ('=' :: '=' :: rest) = some [] ∧
      readGroups 3 left 0 ('=' :: rest) = some [] := by
  constructor
  · rw [readGroups, if_pos rfl, if_pos (by decide), if_neg (by decide), readGroups, if_pos rfl,
      if_pos (by decide), if_pos (by decide)]
  · rw [readGroups, if_pos rfl, if_pos (by decide), if_pos (by decide)]

/-- What was written reads back, with an ending behind it that reads as nothing. -/
theorem readGroups_encode (bytes : List UInt8) {ending : List Char}
    (ends : readGroups 0 0 0 ending = some []) :
    readGroups 0 0 0 (encode bytes ++ ending) = some bytes := by
  induction bytes using encode.induct with
  | case1 => exact ends
  | case2 one =>
    have small := one.toNat_lt
    have first : UInt8.ofNat (one.toNat / 4 * 4 + one.toNat % 4 * 16 / 16) = one :=
      ofNat_eq (by omega)
    show readGroups 0 0 0 (sextetChar (one.toNat / 4) :: sextetChar (one.toNat % 4 * 16) ::
      '=' :: '=' :: ending) = some [one]
    rw [readGroups_first (by omega), readGroups_second (by omega), (readGroups_pads _ _).1, first]
    rfl
  | case3 one two =>
    have smallOne := one.toNat_lt
    have smallTwo := two.toNat_lt
    have first : UInt8.ofNat (one.toNat / 4 * 4 + (one.toNat % 4 * 16 + two.toNat / 16) / 16) =
        one := ofNat_eq (by omega)
    have second : UInt8.ofNat ((one.toNat % 4 * 16 + two.toNat / 16) % 16 * 16 +
        two.toNat % 16 * 4 / 4) = two := ofNat_eq (by omega)
    show readGroups 0 0 0 (sextetChar (one.toNat / 4) ::
      sextetChar (one.toNat % 4 * 16 + two.toNat / 16) :: sextetChar (two.toNat % 16 * 4) ::
        '=' :: ending) = some [one, two]
    rw [readGroups_first (by omega), readGroups_second (by omega), readGroups_third (by omega),
      (readGroups_pads _ _).2, first, second]
    rfl
  | case4 one two three rest ih =>
    have smallOne := one.toNat_lt
    have smallTwo := two.toNat_lt
    have smallThree := three.toNat_lt
    have first : UInt8.ofNat (one.toNat / 4 * 4 + (one.toNat % 4 * 16 + two.toNat / 16) / 16) =
        one := ofNat_eq (by omega)
    have second : UInt8.ofNat ((one.toNat % 4 * 16 + two.toNat / 16) % 16 * 16 +
        (two.toNat % 16 * 4 + three.toNat / 64) / 4) = two := ofNat_eq (by omega)
    have third : UInt8.ofNat ((two.toNat % 16 * 4 + three.toNat / 64) % 4 * 64 +
        three.toNat % 64) = three := ofNat_eq (by omega)
    show readGroups 0 0 0 (sextetChar (one.toNat / 4) ::
      sextetChar (one.toNat % 4 * 16 + two.toNat / 16) ::
        sextetChar (two.toNat % 16 * 4 + three.toNat / 64) :: sextetChar (three.toNat % 64) ::
          (encode rest ++ ending)) = some (one :: two :: three :: rest)
    rw [readGroups_first (by omega), readGroups_second (by omega), readGroups_third (by omega),
      readGroups_last (by omega), ih, first, second, third]
    rfl

/-- Bits are written in the alphabet. -/
theorem sextetChar_mem (value : Nat) : sextetChar value ∈ alphabet := by
  have first : 'A' ∈ alphabet := by decide
  unfold sextetChar
  rw [List.getD_eq_getElem?_getD]
  cases found : alphabet[value]? with
  | none => exact first
  | some character => exact List.mem_of_getElem? found

/-- What is written is in the alphabet, or padding. -/
theorem mem_encode {bytes : List UInt8} {character : Char} (written : character ∈ encode bytes) :
    character ∈ alphabet ∨ character = '=' := by
  induction bytes using encode.induct with
  | case1 => cases written
  | case2 one =>
    simp only [encode, List.mem_cons, List.not_mem_nil, or_false] at written
    rcases written with rfl | rfl | rfl | rfl <;> simp [sextetChar_mem]
  | case3 one two =>
    simp only [encode, List.mem_cons, List.not_mem_nil, or_false] at written
    rcases written with rfl | rfl | rfl | rfl <;> simp [sextetChar_mem]
  | case4 one two three rest ih =>
    simp only [encode, List.mem_cons] at written
    rcases written with rfl | rfl | rfl | rfl | later
    · exact Or.inl (sextetChar_mem _)
    · exact Or.inl (sextetChar_mem _)
    · exact Or.inl (sextetChar_mem _)
    · exact Or.inl (sextetChar_mem _)
    · exact ih later

/-- What is written is in ASCII. -/
theorem ascii_encode (bytes : List UInt8) :
    ∀ character ∈ encode bytes, character.toNat < 128 := by
  have small : alphabet.all (fun character => decide (character.toNat < 128)) = true := by
    decide +kernel
  have all : ∀ character ∈ alphabet, character.toNat < 128 := fun character inside =>
    of_decide_eq_true (List.all_eq_true.mp small character inside)
  intro character written
  cases mem_encode written with
  | inl inside => exact all character inside
  | inr pad =>
    rw [pad]
    decide

/-- What is written comes in groups of four characters. -/
theorem length_encode (bytes : List UInt8) : (encode bytes).length % 4 = 0 := by
  induction bytes using encode.induct with
  | case1 => rfl
  | case2 one => simp [encode]
  | case3 one two => simp [encode]
  | case4 one two three rest ih =>
    simp only [encode, List.length_cons]
    omega

/-- What was written with an ending that reads as nothing decodes. -/
theorem decode_encode_append (bytes : List UInt8) {ending : List Char}
    (ends : readGroups 0 0 0 ending = some [])
    (ascii : (ending.all fun character => decide (character.toNat < 128)) = true) :
    decode (encode bytes ++ ending) = .ok bytes := by
  have all : (encode bytes ++ ending).all fun character => decide (character.toNat < 128) := by
    rw [List.all_append, ascii, Bool.and_true, List.all_eq_true]
    exact fun character written => decide_eq_true (ascii_encode bytes character written)
  rw [decode, if_pos all, readGroups_encode bytes ends]

/-- What was written decodes. -/
theorem decode_encode (bytes : List UInt8) : decode (encode bytes) = .ok bytes := by
  have whole := @decode_encode_append bytes [] rfl rfl
  rwa [List.append_nil] at whole

end VelaFlow.Base64
