import Mathlib.Data.List.TakeWhile
import Mathlib.Data.String.Basic
import VelaFlow.Foundation.Json
import VelaFlow.Foundation.JsonString

/-!
# JSON text

`json.dumps` and `json.loads` of the values of `Json`. The text of a float is that of its
`repr`, which is a parameter; every other value has one text for each layout. What is written is
read back in front of any rest, so a text determines its value.
-/
namespace VelaFlow

namespace JsonText

/-- The characters of a number. -/
def isNumberChar (character : Char) : Bool :=
  character.isDigit || character == '-' || character == '+' || character == '.' ||
    character == 'e' || character == 'E'

/-- `0|[1-9]\d*`. -/
def isWhole : List Char → Bool
  | [] => false
  | first :: rest => first.isDigit && rest.all Char.isDigit && (first != '0' || rest.isEmpty)

/-- The text behind a minus sign, if it has one. -/
def unsigned : List Char → List Char
  | [] => []
  | first :: rest => if first = '-' then rest else first :: rest

/-- Whether a token is the literal of an integer. -/
def isIntLiteral (token : List Char) : Bool := isWhole (unsigned token)

/-- `[eE][-+]?\d+`. -/
def isExponent : List Char → Bool
  | [] => false
  | mark :: rest =>
    (mark == 'e' || mark == 'E') &&
      match rest with
      | [] => false
      | sign :: digits =>
        if sign == '-' || sign == '+' then !digits.isEmpty && digits.all Char.isDigit
        else rest.all Char.isDigit

/-- `(\.\d+)?([eE][-+]?\d+)?`, with one of the two present. -/
def isFraction : List Char → Bool
  | [] => false
  | first :: rest =>
    if first = '.' then
      !(rest.takeWhile Char.isDigit).isEmpty &&
        ((rest.dropWhile Char.isDigit).isEmpty || isExponent (rest.dropWhile Char.isDigit))
    else isExponent (first :: rest)

/-- Whether a token is the literal of a float. -/
def isFloatLiteral (token : List Char) : Bool :=
  token.all isNumberChar && isWhole ((unsigned token).takeWhile Char.isDigit) &&
    isFraction ((unsigned token).dropWhile Char.isDigit)

/-- `float.__repr__` and `float` of finite floats. -/
structure FloatText where
  /-- `repr(value)`. -/
  repr : ℚ → List Char
  /-- `float(text)` of a literal. -/
  read : List Char → ℚ
  /-- A finite float is written as the literal of a float. -/
  literal : ∀ value, isFloatLiteral (repr value) = true
  /-- `float(repr(value)) == value`. -/
  roundtrip : ∀ value, read (repr value) = value

/-- `int.__repr__`. -/
def writeInt : Int → List Char
  | .ofNat value => Nat.toDigits 10 value
  | .negSucc value => '-' :: Nat.toDigits 10 (value + 1)

/-- `int(text)` of a literal. -/
def readInt : List Char → Int
  | [] => 0
  | first :: rest =>
    if first = '-' then -(Nat.ofDigitChars 10 rest 0 : Int)
    else (Nat.ofDigitChars 10 (first :: rest) 0 : Int)

/-- The white space between tokens. -/
def isBlank (character : Char) : Bool :=
  character == ' ' || character == '\t' || character == '\n' || character == '\r'

/-- The text from its next token on. -/
def skipBlanks (text : List Char) : List Char := text.dropWhile isBlank

/-- The blanks `json.dumps` puts behind a comma or a colon. -/
structure Layout where
  /-- The blanks. -/
  gap : List Char
  /-- They are blanks. -/
  blank : gap.all isBlank = true

/-- The layout of `json.dumps` by default. -/
def Layout.spaced : Layout := ⟨[' '], rfl⟩

/-- The layout of `separators=(",", ":")`. -/
def Layout.compact : Layout := ⟨[], rfl⟩

section Write

variable (floats : FloatText) (layout : Layout)

mutual
/-- `json.dumps`. -/
def write : Json → List Char
  | .null => ['n', 'u', 'l', 'l']
  | .bool true => ['t', 'r', 'u', 'e']
  | .bool false => ['f', 'a', 'l', 's', 'e']
  | .int value => writeInt value
  | .float value => floats.repr value
  | .str value => writeString value.toList
  | .arr items => '[' :: (writeItems items ++ [']'])
  | .obj members => '{' :: (writeMembers members ++ ['}'])
/-- The items of a list. -/
def writeItems : List Json → List Char
  | [] => []
  | item :: rest =>
    match rest with
    | [] => write item
    | _ :: _ => write item ++ ',' :: (layout.gap ++ writeItems rest)
/-- The members of a dictionary. -/
def writeMembers : List (String × Json) → List Char
  | [] => []
  | (key, value) :: rest =>
    match rest with
    | [] => writeString key.toList ++ ':' :: (layout.gap ++ write value)
    | _ :: _ =>
      writeString key.toList ++ ':' :: (layout.gap ++ write value) ++
        ',' :: (layout.gap ++ writeMembers rest)
end

end Write

/-- The rest behind an expected character. -/
def expect (expected : Char) : List Char → Option (List Char)
  | [] => none
  | first :: rest => if first = expected then some rest else none

/-- Reads a fixed word as a value. -/
def readWord (word : List Char) (value : Json) (text : List Char) : Option (Json × List Char) :=
  if word.isPrefixOf text then some (value, text.drop word.length) else none

/-- Reads a number. -/
def readNumber (floats : FloatText) (text : List Char) : Option (Json × List Char) :=
  let token := text.takeWhile isNumberChar
  let rest := text.dropWhile isNumberChar
  if isIntLiteral token then some (.int (readInt token), rest)
  else if isFloatLiteral token then some (.float (floats.read token), rest)
  else none

mutual
/-- Reads a value; the members of a dictionary may still repeat a key. -/
def readValue (floats : FloatText) : Nat → List Char → Option (Json × List Char)
  | 0, _ => none
  | _ + 1, [] => none
  | fuel + 1, first :: rest =>
    if first = '"' then
      (readString rest).map fun read => (.str (String.ofList read.1), read.2)
    else if first = '[' then
      match expect ']' (skipBlanks rest) with
      | some rest => some (.arr [], rest)
      | none => (readItems floats fuel (skipBlanks rest)).map fun read => (.arr read.1, read.2)
    else if first = '{' then
      match expect '}' (skipBlanks rest) with
      | some rest => some (.obj [], rest)
      | none => (readMembers floats fuel (skipBlanks rest)).map fun read => (.obj read.1, read.2)
    else if first = 'n' then readWord ['u', 'l', 'l'] .null rest
    else if first = 't' then readWord ['r', 'u', 'e'] (.bool true) rest
    else if first = 'f' then readWord ['a', 'l', 's', 'e'] (.bool false) rest
    else readNumber floats (first :: rest)
/-- Reads the items of a list up to its closing bracket. -/
def readItems (floats : FloatText) : Nat → List Char → Option (List Json × List Char)
  | 0, _ => none
  | fuel + 1, text => do
    let (item, rest) ← readValue floats fuel text
    match expect ',' (skipBlanks rest) with
    | some rest => do
      let (more, rest) ← readItems floats fuel (skipBlanks rest)
      some (item :: more, rest)
    | none => do
      let rest ← expect ']' (skipBlanks rest)
      some ([item], rest)
/-- Reads the members of a dictionary up to its closing brace. -/
def readMembers (floats : FloatText) :
    Nat → List Char → Option (List (String × Json) × List Char)
  | 0, _ => none
  | fuel + 1, text => do
    let rest ← expect '"' text
    let (key, rest) ← readString rest
    let rest ← expect ':' (skipBlanks rest)
    let (value, rest) ← readValue floats fuel (skipBlanks rest)
    match expect ',' (skipBlanks rest) with
    | some rest => do
      let (more, rest) ← readMembers floats fuel (skipBlanks rest)
      some ((String.ofList key, value) :: more, rest)
    | none => do
      let rest ← expect '}' (skipBlanks rest)
      some ([(String.ofList key, value)], rest)
end

/-- Whether a text does not go on with a number. -/
def EndsNumber (text : List Char) : Prop := ∀ first ∈ text.head?, isNumberChar first = false

/-- A number that ends is taken from a text as a whole. -/
theorem takeWhile_number {token rest : List Char} (numeric : token.all isNumberChar = true)
    (ends : EndsNumber rest) :
    (token ++ rest).takeWhile isNumberChar = token ∧
      (token ++ rest).dropWhile isNumberChar = rest := by
  have every : ∀ character ∈ token, isNumberChar character = true := List.all_eq_true.mp numeric
  have none : rest.takeWhile isNumberChar = [] ∧ rest.dropWhile isNumberChar = rest := by
    cases rest with
    | nil => exact ⟨rfl, rfl⟩
    | cons first more =>
      have other : isNumberChar first = false := ends first rfl
      simp [other]
  rw [List.takeWhile_append_of_pos every, List.dropWhile_append_of_pos every, none.1, none.2,
    List.append_nil]
  exact ⟨rfl, rfl⟩

/-- The first digit of a positive number is not zero. -/
theorem head_toDigits_ne_zero {value : Nat} (positive : 0 < value) :
    ∀ first ∈ (Nat.toDigits 10 value).head?, first ≠ '0' := by
  induction value using Nat.strong_induction_on with
  | _ value ih =>
    by_cases small : value < 10
    · rw [Nat.toDigits_of_lt_base small]
      intro first is
      obtain rfl := Option.some.inj is
      have all : ∀ digit < 10, 0 < digit → Nat.digitChar digit ≠ '0' := by decide
      exact all value small positive
    · have split := Nat.toDigits_of_base_le (by decide : 1 < 10) (Nat.le_of_not_lt small)
      have shorter := ih (value / 10) (by omega) (by omega)
      rw [split]
      cases digits : Nat.toDigits 10 (value / 10) with
      | nil => exact absurd digits Nat.toDigits_ne_nil
      | cons first more =>
        rw [digits] at shorter
        exact shorter

/-- Decimal digits are a whole number's. -/
theorem isWhole_toDigits (value : Nat) : isWhole (Nat.toDigits 10 value) = true := by
  have every : ∀ digit ∈ Nat.toDigits 10 value, digit.isDigit = true :=
    fun digit inside => Nat.isDigit_of_mem_toDigits (by decide) (by decide) inside
  by_cases zero : value = 0
  · subst zero
    decide
  · have head := head_toDigits_ne_zero (Nat.pos_of_ne_zero zero)
    cases digits : Nat.toDigits 10 value with
    | nil => exact absurd digits Nat.toDigits_ne_nil
    | cons first rest =>
      rw [digits] at every head
      have first_ne : first ≠ '0' := head first rfl
      have all : rest.all Char.isDigit = true :=
        List.all_eq_true.mpr fun digit inside => every digit (List.mem_cons_of_mem _ inside)
      simp [isWhole, every first List.mem_cons_self, all, first_ne]

/-- Digits are characters of a number. -/
theorem isNumberChar_of_isDigit {character : Char} (digit : character.isDigit = true) :
    isNumberChar character = true := by
  simp [isNumberChar, digit]

/-- A digit is no minus sign. -/
theorem ne_minus_of_isDigit {character : Char} (digit : character.isDigit = true) :
    character ≠ '-' := by
  rintro rfl
  cases digit

/-- The digits of a number, with the first of them apart. -/
theorem exists_toDigits (value : Nat) :
    ∃ first rest, Nat.toDigits 10 value = first :: rest ∧ first.isDigit = true := by
  cases digits : Nat.toDigits 10 value with
  | nil => exact absurd digits Nat.toDigits_ne_nil
  | cons first rest =>
    refine ⟨first, rest, rfl, ?_⟩
    apply Nat.isDigit_of_mem_toDigits (b := 10) (n := value) (by decide) (by decide)
    rw [digits]
    exact List.mem_cons_self

/-- An integer is written in characters of a number. -/
theorem numeric_writeInt (value : Int) : (writeInt value).all isNumberChar = true := by
  have digits : ∀ number, (Nat.toDigits 10 number).all isNumberChar = true := by
    intro number
    apply List.all_eq_true.mpr
    intro digit inside
    exact isNumberChar_of_isDigit (Nat.isDigit_of_mem_toDigits (by decide) (by decide) inside)
  cases value with
  | ofNat number => exact digits number
  | negSucc number => simp [writeInt, digits, isNumberChar]

/-- An integer is written as a literal, which reads back. -/
theorem readInt_writeInt (value : Int) :
    isIntLiteral (writeInt value) = true ∧ readInt (writeInt value) = value := by
  have digits : ∀ number, Nat.ofDigitChars 10 (Nat.toDigits 10 number) 0 = number :=
    fun number => Nat.ofDigitChars_ten_toDigits
  cases value with
  | ofNat number =>
    obtain ⟨first, rest, written, digit⟩ := exists_toDigits number
    have whole := isWhole_toDigits number
    have value := digits number
    have plain := ne_minus_of_isDigit digit
    rw [written] at whole value
    simp only [isIntLiteral, writeInt, written, unsigned, readInt, plain, if_false, whole, value,
      true_and]
    rfl
  | negSucc number =>
    simp only [isIntLiteral, writeInt, unsigned, readInt, if_true, isWhole_toDigits, digits,
      true_and]
    rfl

/-- The literal of a float is none of an integer. -/
theorem not_isIntLiteral_of_isFloatLiteral {token : List Char}
    (float : isFloatLiteral token = true) : isIntLiteral token = false := by
  unfold isFloatLiteral at float
  simp only [Bool.and_eq_true] at float
  by_contra literal
  have whole : isWhole (unsigned token) = true := by simpa [isIntLiteral] using literal
  have digits : (unsigned token).dropWhile Char.isDigit = [] := by
    cases text : unsigned token with
    | nil => rfl
    | cons first rest =>
      rw [text] at whole
      simp only [isWhole, Bool.and_eq_true] at whole
      apply List.dropWhile_eq_nil_iff.mpr
      intro character inside
      rcases List.mem_cons.mp inside with rfl | inside
      · exact whole.1.1
      · exact List.all_eq_true.mp whole.1.2 character inside
  rw [digits] at float
  cases float.2

variable {floats : FloatText} {layout : Layout}

/-- An integer reads back in front of what is no number. -/
theorem readNumber_writeInt (value : Int) {rest : List Char} (ends : EndsNumber rest) :
    readNumber floats (writeInt value ++ rest) = some (.int value, rest) := by
  obtain ⟨taken, dropped⟩ := takeWhile_number (numeric_writeInt value) ends
  obtain ⟨literal, read⟩ := readInt_writeInt value
  simp only [readNumber, taken, dropped, literal, read, if_true]

/-- A float is written in characters of a number. -/
theorem numeric_repr (floats : FloatText) (value : ℚ) :
    (floats.repr value).all isNumberChar = true := by
  have literal := floats.literal value
  simp only [isFloatLiteral, Bool.and_eq_true] at literal
  exact literal.1.1

/-- A float reads back in front of what is no number. -/
theorem readNumber_repr (value : ℚ) {rest : List Char} (ends : EndsNumber rest) :
    readNumber floats (floats.repr value ++ rest) = some (.float value, rest) := by
  have literal := floats.literal value
  obtain ⟨taken, dropped⟩ := takeWhile_number (numeric_repr floats value) ends
  simp only [readNumber, taken, dropped, not_isIntLiteral_of_isFloatLiteral literal, literal,
    floats.roundtrip, if_true, Bool.false_eq_true, if_false]

/-- Blanks are skipped up to a token. -/
theorem skipBlanks_gap {first : Char} (token : isBlank first = false) (rest : List Char) :
    skipBlanks (layout.gap ++ first :: rest) = first :: rest := by
  unfold skipBlanks
  rw [List.dropWhile_append_of_pos (List.all_eq_true.mp layout.blank)]
  simp [token]

/-- A token needs no skipping. -/
theorem skipBlanks_cons {first : Char} (token : isBlank first = false) (rest : List Char) :
    skipBlanks (first :: rest) = first :: rest := by
  simp [skipBlanks, token]

/-- A character of a number opens or closes nothing. -/
theorem isNumberChar_ne {character : Char} (numeric : isNumberChar character = true) :
    isBlank character = false ∧ character ≠ ']' ∧ character ≠ '}' ∧ character ≠ '"' ∧
      character ≠ '[' ∧ character ≠ '{' ∧ character ≠ 'n' ∧ character ≠ 't' ∧ character ≠ 'f' := by
  refine ⟨?_, ?_, ?_, ?_, ?_, ?_, ?_, ?_, ?_⟩
  · by_contra blank
    simp only [isBlank, Bool.not_eq_false, Bool.or_eq_true, beq_iff_eq] at blank
    rcases blank with ((rfl | rfl) | rfl) | rfl <;> cases numeric
  all_goals
    rintro rfl
    cases numeric

/-- A token of numeric characters that is not empty begins with one. -/
theorem exists_numeric {token : List Char} (filled : token ≠ [])
    (numeric : token.all isNumberChar = true) :
    ∃ first rest, token = first :: rest ∧ isNumberChar first = true := by
  cases token with
  | nil => exact absurd rfl filled
  | cons first rest =>
    refine ⟨first, rest, rfl, ?_⟩
    simp only [List.all_cons, Bool.and_eq_true] at numeric
    exact numeric.1

/-- An integer is written in at least one character. -/
theorem writeInt_ne_nil (value : Int) : writeInt value ≠ [] := by
  cases value with
  | ofNat number => exact Nat.toDigits_ne_nil
  | negSucc number => exact List.cons_ne_nil _ _

/-- A float is written in at least one character. -/
theorem repr_ne_nil (floats : FloatText) (value : ℚ) : floats.repr value ≠ [] := by
  intro empty
  have literal := floats.literal value
  rw [empty] at literal
  cases literal

/-- What is written begins with a character that is no blank and closes nothing. -/
theorem write_head (floats : FloatText) (layout : Layout) (value : Json) :
    ∃ first rest, write floats layout value = first :: rest ∧ isBlank first = false ∧
      first ≠ ']' ∧ first ≠ '}' := by
  have number : ∀ token : List Char, token ≠ [] → token.all isNumberChar = true →
      ∃ first rest, token = first :: rest ∧ isBlank first = false ∧ first ≠ ']' ∧
        first ≠ '}' := by
    intro token filled numeric
    obtain ⟨first, rest, written, digit⟩ := exists_numeric filled numeric
    obtain ⟨blank, bracket, brace, -⟩ := isNumberChar_ne digit
    exact ⟨first, rest, written, blank, bracket, brace⟩
  cases value with
  | null => exact ⟨_, _, rfl, rfl, by decide, by decide⟩
  | bool value => cases value <;> exact ⟨_, _, rfl, rfl, by decide, by decide⟩
  | int value => exact number _ (writeInt_ne_nil value) (numeric_writeInt value)
  | float value => exact number _ (repr_ne_nil floats value) (numeric_repr floats value)
  | str value => exact ⟨_, _, rfl, rfl, by decide, by decide⟩
  | arr items => exact ⟨_, _, rfl, rfl, by decide, by decide⟩
  | obj members => exact ⟨_, _, rfl, rfl, by decide, by decide⟩

/-- A number is read when a value is expected. -/
theorem readValue_number {token rest : List Char} (filled : token ≠ [])
    (numeric : token.all isNumberChar = true) (fuel : Nat) :
    readValue floats (fuel + 1) (token ++ rest) = readNumber floats (token ++ rest) := by
  obtain ⟨first, more, rfl, digit⟩ := exists_numeric filled numeric
  obtain ⟨-, -, -, quote, bracket, brace, n, t, f⟩ := isNumberChar_ne digit
  simp only [List.cons_append, readValue, quote, bracket, brace, n, t, f, if_false]

/-- The items of a list begin as the first of them does. -/
theorem writeItems_head (item : Json) (more : List Json) :
    ∃ first rest, writeItems floats layout (item :: more) = first :: rest ∧
      isBlank first = false ∧ first ≠ ']' ∧ first ≠ '}' := by
  obtain ⟨first, rest, written, others⟩ := write_head floats layout item
  cases more with
  | nil => exact ⟨first, rest, by rw [writeItems, written], others⟩
  | cons second more =>
    refine ⟨first, rest ++ ',' :: (layout.gap ++ writeItems floats layout (second :: more)), ?_,
      others⟩
    rw [writeItems, written, List.cons_append]

/-- The members of a dictionary begin with the quote of a key. -/
theorem writeMembers_head (member : String × Json) (more : List (String × Json)) :
    ∃ rest, writeMembers floats layout (member :: more) = '"' :: rest := by
  obtain ⟨key, value⟩ := member
  cases more with
  | nil => exact ⟨_, rfl⟩
  | cons second more => exact ⟨_, rfl⟩

/-- A comma or a closing character ends a number. -/
theorem endsNumber_cons {first : Char} (other : isNumberChar first = false) (rest : List Char) :
    EndsNumber (first :: rest) := by
  intro character is
  obtain rfl := Option.some.inj is
  exact other

/-- A string reads back when one is expected. -/
theorem readString_text (text : String) (rest : List Char) :
    writeString text.toList ++ rest =
        '"' :: (writeUnits (text.toList.flatMap units) ++ '"' :: rest) ∧
      readString (writeUnits (text.toList.flatMap units) ++ '"' :: rest) =
        some (text.toList, rest) := by
  refine ⟨?_, readString_writeString text.toList rest⟩
  simp [writeString]

mutual
/-- A value reads back in front of what is no number. -/
theorem readValue_write (value : Json) {fuel : Nat} {rest : List Char}
    (enough : (write floats layout value).length < fuel) (ends : EndsNumber rest) :
    readValue floats fuel (write floats layout value ++ rest) = some (value, rest) := by
  obtain ⟨fuel, rfl⟩ := Nat.exists_eq_succ_of_ne_zero (Nat.ne_zero_of_lt enough)
  cases value with
  | null => rfl
  | bool value => cases value <;> rfl
  | int value =>
    rw [write, readValue_number (writeInt_ne_nil value) (numeric_writeInt value)]
    exact readNumber_writeInt value ends
  | float value =>
    rw [write, readValue_number (repr_ne_nil floats value) (numeric_repr floats value)]
    exact readNumber_repr value ends
  | str value =>
    obtain ⟨text, read⟩ := readString_text value rest
    rw [write, text]
    simp only [readValue, if_true, read, Option.map_some, String.ofList_toList]
  | arr items =>
    cases items with
    | nil => rfl
    | cons item more =>
      have shorter : (writeItems floats layout (item :: more)).length + 2 ≤ fuel := by
        simp only [write, List.length_cons, List.length_append, List.length_nil] at enough
        omega
      have items := readItems_write (item :: more) (List.cons_ne_nil _ _) shorter rest
      obtain ⟨first, tail, begins, blank, bracket, -⟩ :=
        @writeItems_head floats layout item more
      rw [begins] at items
      rw [write, begins]
      simp only [List.cons_append, List.append_assoc, List.nil_append] at items ⊢
      simp only [readValue, Char.reduceEq, if_false, if_true, skipBlanks_cons blank, expect,
        bracket, items, Option.map_some]
  | obj members =>
    cases members with
    | nil => rfl
    | cons member more =>
      have shorter : (writeMembers floats layout (member :: more)).length + 2 ≤ fuel := by
        simp only [write, List.length_cons, List.length_append, List.length_nil] at enough
        omega
      have members := readMembers_write (member :: more) (List.cons_ne_nil _ _) shorter rest
      obtain ⟨tail, begins⟩ := @writeMembers_head floats layout member more
      rw [begins] at members
      rw [write, begins]
      simp only [List.cons_append, List.append_assoc, List.nil_append] at members ⊢
      simp only [readValue, Char.reduceEq, if_false, if_true,
        skipBlanks_cons (by decide : isBlank '"' = false), expect, members, Option.map_some]
/-- The items of a list read back up to its closing bracket. -/
theorem readItems_write (items : List Json) {fuel : Nat} (filled : items ≠ [])
    (enough : (writeItems floats layout items).length + 2 ≤ fuel) (rest : List Char) :
    readItems floats fuel (writeItems floats layout items ++ ']' :: rest) =
      some (items, rest) := by
  obtain ⟨fuel, rfl⟩ := Nat.exists_eq_succ_of_ne_zero (Nat.ne_zero_of_lt enough)
  match items with
  | [] => exact absurd rfl filled
  | [item] =>
    simp only [writeItems] at enough
    have read : readValue floats fuel (write floats layout item ++ ']' :: rest) =
        some (item, ']' :: rest) :=
      readValue_write item (by omega) (endsNumber_cons (by decide) rest)
    simp only [writeItems, readItems, read, Option.bind_eq_bind, Option.bind_some,
      skipBlanks_cons (by decide : isBlank ']' = false), expect, Char.reduceEq, if_false, if_true]
  | item :: second :: more =>
    obtain ⟨first, tail, begins, blank, -⟩ :=
      @writeItems_head floats layout second more
    simp only [writeItems, List.length_append, List.length_cons] at enough
    let behind := ',' :: (layout.gap ++ writeItems floats layout (second :: more) ++ ']' :: rest)
    have read : readValue floats fuel (write floats layout item ++ behind) =
        some (item, behind) :=
      readValue_write item (by omega) (endsNumber_cons (by decide) _)
    have fits : (writeItems floats layout (second :: more)).length + 2 ≤ fuel := by
      simp only [writeItems] at enough ⊢
      omega
    have later := readItems_write (second :: more) (List.cons_ne_nil _ _) fits rest
    simp only [behind] at read
    simp only [begins] at read later
    rw [writeItems, begins]
    simp only [List.cons_append, List.append_assoc] at read later ⊢
    simp only [readItems, read, Option.bind_eq_bind, Option.bind_some,
      skipBlanks_cons (by decide : isBlank ',' = false), expect, if_true,
      skipBlanks_gap blank, later]
/-- The members of a dictionary read back up to its closing brace. -/
theorem readMembers_write (members : List (String × Json)) {fuel : Nat} (filled : members ≠ [])
    (enough : (writeMembers floats layout members).length + 2 ≤ fuel) (rest : List Char) :
    readMembers floats fuel (writeMembers floats layout members ++ '}' :: rest) =
      some (members, rest) := by
  obtain ⟨fuel, rfl⟩ := Nat.exists_eq_succ_of_ne_zero (Nat.ne_zero_of_lt enough)
  match members with
  | [] => exact absurd rfl filled
  | [(key, value)] =>
    simp only [writeMembers, List.length_append, List.length_cons] at enough
    obtain ⟨first, tail, begins, blank, -⟩ := write_head floats layout value
    have read : readValue floats fuel (write floats layout value ++ '}' :: rest) =
        some (value, '}' :: rest) :=
      readValue_write value (by omega) (endsNumber_cons (by decide) rest)
    obtain ⟨text, name⟩ := readString_text key
      (':' :: (layout.gap ++ write floats layout value ++ '}' :: rest))
    rw [begins] at read text name
    simp only [writeMembers, begins, List.cons_append, List.append_assoc] at read text name ⊢
    rw [text]
    simp only [readMembers, expect, if_true, Option.bind_eq_bind, Option.bind_some, name,
      skipBlanks_cons (by decide : isBlank ':' = false), skipBlanks_gap blank, read,
      skipBlanks_cons (by decide : isBlank '}' = false), Char.reduceEq, if_false,
      String.ofList_toList]
  | (key, value) :: second :: more =>
    obtain ⟨first, tail, begins, blank, -⟩ := write_head floats layout value
    obtain ⟨further, opens⟩ := @writeMembers_head floats layout second more
    simp only [writeMembers, List.length_append, List.length_cons] at enough
    let behind := ',' :: (layout.gap ++ writeMembers floats layout (second :: more) ++ '}' :: rest)
    have read : readValue floats fuel (write floats layout value ++ behind) =
        some (value, behind) :=
      readValue_write value (by omega) (endsNumber_cons (by decide) _)
    have fits : (writeMembers floats layout (second :: more)).length + 2 ≤ fuel := by
      simp only [writeMembers] at enough ⊢
      omega
    have later := readMembers_write (second :: more) (List.cons_ne_nil _ _) fits rest
    simp only [behind] at read
    obtain ⟨text, name⟩ := readString_text key
      (':' :: (layout.gap ++ write floats layout value ++
        ',' :: (layout.gap ++ writeMembers floats layout (second :: more) ++ '}' :: rest)))
    rw [begins, opens] at read text name
    rw [opens] at later
    rw [writeMembers, begins, opens]
    simp only [List.cons_append, List.append_assoc] at read later text name ⊢
    rw [text]
    simp only [readMembers, expect, if_true, Option.bind_eq_bind, Option.bind_some, name,
      skipBlanks_cons (by decide : isBlank ':' = false), skipBlanks_gap blank, read,
      skipBlanks_cons (by decide : isBlank ',' = false),
      skipBlanks_gap (by decide : isBlank '"' = false), later, String.ofList_toList]
end

/-- A fraction as a decimal literal: the numerator, a point and the denominator. -/
def writeFraction (value : ℚ) : List Char := writeInt value.num ++ '.' :: Nat.toDigits 10 value.den

/-- Reads what `writeFraction` writes. -/
def readFraction (token : List Char) : ℚ :=
  (readInt (token.takeWhile (· ≠ '.')) : ℚ) /
    (Nat.ofDigitChars 10 ((token.dropWhile (· ≠ '.')).drop 1) 0 : ℚ)

/-- Decimal digits are digits. -/
theorem isDigit_toDigits (value : Nat) : (Nat.toDigits 10 value).all Char.isDigit = true :=
  List.all_eq_true.mpr fun _ inside => Nat.isDigit_of_mem_toDigits (by decide) (by decide) inside

/-- A fraction is written as the literal of a float. -/
theorem isFloatLiteral_writeFraction (value : ℚ) : isFloatLiteral (writeFraction value) = true := by
  have whole : ∀ number, isFloatLiteral (Nat.toDigits 10 number ++ '.' :: Nat.toDigits 10 value.den) =
      true ∧ isFloatLiteral ('-' :: (Nat.toDigits 10 number ++ '.' :: Nat.toDigits 10 value.den)) =
      true := by
    intro number
    have digits := List.all_eq_true.mp (isDigit_toDigits number)
    have below := List.all_eq_true.mp (isDigit_toDigits value.den)
    have numeric : (Nat.toDigits 10 number ++ '.' :: Nat.toDigits 10 value.den).all isNumberChar =
        true := by
      rw [List.all_append, List.all_cons]
      simp only [Bool.and_eq_true, List.all_eq_true]
      exact ⟨fun digit inside => isNumberChar_of_isDigit (digits digit inside), rfl,
        fun digit inside => isNumberChar_of_isDigit (below digit inside)⟩
    have taken : (Nat.toDigits 10 number ++ '.' :: Nat.toDigits 10 value.den).takeWhile
        Char.isDigit = Nat.toDigits 10 number := by
      rw [List.takeWhile_append_of_pos digits, List.takeWhile_cons_of_neg (by decide),
        List.append_nil]
    have dropped : (Nat.toDigits 10 number ++ '.' :: Nat.toDigits 10 value.den).dropWhile
        Char.isDigit = '.' :: Nat.toDigits 10 value.den := by
      rw [List.dropWhile_append_of_pos digits, List.dropWhile_cons_of_neg (by decide)]
    have fraction : isFraction ('.' :: Nat.toDigits 10 value.den) = true := by
      have all : (Nat.toDigits 10 value.den).takeWhile Char.isDigit = Nat.toDigits 10 value.den :=
        List.takeWhile_eq_self_iff.mpr below
      have none : (Nat.toDigits 10 value.den).dropWhile Char.isDigit = [] :=
        List.dropWhile_eq_nil_iff.mpr below
      simp [isFraction, all, none, Nat.toDigits_ne_nil]
    obtain ⟨first, rest, written, digit⟩ := exists_toDigits number
    have plain := ne_minus_of_isDigit digit
    have same : unsigned (Nat.toDigits 10 number ++ '.' :: Nat.toDigits 10 value.den) =
        Nat.toDigits 10 number ++ '.' :: Nat.toDigits 10 value.den := by
      rw [written]
      simp [unsigned, plain]
    constructor
    · simp only [isFloatLiteral, same, numeric, taken, dropped, isWhole_toDigits, fraction,
        Bool.and_self]
    · simp only [isFloatLiteral, unsigned, if_true, List.all_cons, numeric, taken, dropped,
        isWhole_toDigits, fraction, Bool.and_true]
      rfl
  unfold writeFraction
  cases value.num with
  | ofNat number => exact (whole number).1
  | negSucc number => exact (whole (number + 1)).2

/-- A fraction reads back. -/
theorem readFraction_writeFraction (value : ℚ) : readFraction (writeFraction value) = value := by
  have pointless : ∀ character ∈ writeInt value.num, decide (character ≠ '.') = true := by
    have digits : ∀ number, ∀ character ∈ Nat.toDigits 10 number,
        decide (character ≠ '.') = true := by
      intro number character inside
      have digit := List.all_eq_true.mp (isDigit_toDigits number) character inside
      have other : character ≠ '.' := by
        rintro rfl
        cases digit
      simpa using other
    intro character inside
    cases sign : value.num with
    | ofNat number =>
      rw [sign] at inside
      exact digits number character inside
    | negSucc number =>
      rw [sign] at inside
      rcases List.mem_cons.mp inside with rfl | later
      · decide
      · exact digits (number + 1) character later
  unfold readFraction writeFraction
  rw [List.takeWhile_append_of_pos pointless, List.dropWhile_append_of_pos pointless,
    List.takeWhile_cons_of_neg (by decide), List.dropWhile_cons_of_neg (by decide),
    List.append_nil, (readInt_writeInt value.num).2, List.drop_one, List.tail_cons,
    Nat.ofDigitChars_ten_toDigits]
  exact value.num_div_den

/-- Floats as decimal literals of fractions. -/
def FloatText.fractions : FloatText where
  repr := writeFraction
  read := readFraction
  literal := isFloatLiteral_writeFraction
  roundtrip := readFraction_writeFraction

end JsonText

end VelaFlow
