import VelaFlow.Foundation.Base64

/-!
# What a base64 text has to hold to be read

The reader passes over what is neither padding nor of the alphabet, so a text is read as its
significant characters are. How many bytes come out depends only on how many characters of the
alphabet stand before the place where reading stops, and padding behind a text that is read already
adds nothing.
-/
namespace VelaFlow.Base64

/-- Whether a character is of the alphabet. -/
def isData (character : Char) : Bool := (sextet? character).isSome

/-- Whether the reader takes notice of a character. -/
def isSignificant (character : Char) : Bool := character == '=' || isData character

/-- How many characters of the alphabet a text has. -/
def dataCount (text : List Char) : Nat := text.countP isData

/-- A text has padding right where so many of its characters of the alphabet have been read. -/
def PaddedAfter (count : Nat) (text : List Char) : Prop :=
  ∃ before after, text = before ++ '=' :: after ∧ dataCount before = count

/-- Padding is not of the alphabet. -/
theorem isData_pad : isData '=' = false := by decide

section Steps

variable {character : Char} {place left pads : Nat} {rest : List Char}

/-- Reading padding early in a group. -/
theorem readGroups_pad_early (early : place < 2) :
    readGroups place left pads ('=' :: rest) = readGroups place left pads rest := by
  rw [readGroups, if_pos rfl, if_neg (by omega)]

/-- Reading padding that completes the group. -/
theorem readGroups_pad_last (late : 2 ≤ place) (complete : 4 ≤ place + (pads + 1)) :
    readGroups place left pads ('=' :: rest) = some [] := by
  rw [readGroups, if_pos rfl, if_pos late, if_pos complete]

/-- Reading padding that does not complete the group. -/
theorem readGroups_pad_on (late : 2 ≤ place) (open_ : ¬4 ≤ place + (pads + 1)) :
    readGroups place left pads ('=' :: rest) = readGroups place left (pads + 1) rest := by
  rw [readGroups, if_pos rfl, if_pos late, if_neg open_]

/-- Reading what is passed over. -/
theorem readGroups_skip (other : character ≠ '=') (none : sextet? character = none) :
    readGroups place left pads (character :: rest) = readGroups place left pads rest := by
  rw [readGroups, if_neg other, none]

/-- Reading a character of the alphabet moves on to the next place, with a byte unless it was the
first of its group. -/
theorem readGroups_data {value : Nat} (fits : place < 4) (other : character ≠ '=')
    (some : sextet? character = some value) :
    ∃ place' left' add, (∀ rest, readGroups place left pads (character :: rest) =
        (readGroups place' left' 0 rest).map (add ++ ·)) ∧
      place' = (place + 1) % 4 ∧ add.length = if place = 0 then 0 else 1 := by
  match place, fits with
  | 0, _ =>
    refine ⟨1, value, [], fun rest => ?_, rfl, rfl⟩
    rw [readGroups, if_neg other, some]
    exact Option.map_id'.symm
  | 1, _ =>
    refine ⟨2, value % 16, [UInt8.ofNat (left * 4 + value / 16)], fun rest => ?_, rfl, rfl⟩
    rw [readGroups, if_neg other, some]
    rfl
  | 2, _ =>
    refine ⟨3, value % 4, [UInt8.ofNat (left * 16 + value / 4)], fun rest => ?_, rfl, rfl⟩
    rw [readGroups, if_neg other, some]
    rfl
  | 3, _ =>
    refine ⟨0, 0, [UInt8.ofNat (left * 64 + value)], fun rest => ?_, rfl, rfl⟩
    rw [readGroups, if_neg other, some]
    rfl

/-- What a character is to the reader. -/
theorem character_cases (character : Char) :
    character = '=' ∨ (character ≠ '=' ∧ sextet? character = none) ∨
      (character ≠ '=' ∧ ∃ value, sextet? character = some value) := by
  by_cases pad : character = '='
  · exact .inl pad
  · cases data : sextet? character with
    | none => exact .inr (.inl ⟨pad, rfl⟩)
    | some value => exact .inr (.inr ⟨pad, value, rfl⟩)

end Steps

/-- One character counts when it is of the alphabet. -/
theorem dataCount_cons (character : Char) (text : List Char) :
    dataCount (character :: text) = dataCount text + if isData character then 1 else 0 :=
  List.countP_cons

/-- A text is read as its significant characters are. -/
theorem readGroups_filter (text : List Char) : ∀ {place : Nat} (left pads : Nat), place < 4 →
    readGroups place left pads (text.filter isSignificant) = readGroups place left pads text := by
  induction text with
  | nil => exact fun _ _ _ => rfl
  | cons character rest ih =>
    intro place left pads fits
    obtain rfl | ⟨other, none⟩ | ⟨other, value, some⟩ := character_cases character
    · rw [List.filter_cons_of_pos (by decide)]
      by_cases late : 2 ≤ place
      · by_cases complete : 4 ≤ place + (pads + 1)
        · rw [readGroups_pad_last late complete, readGroups_pad_last late complete]
        · rw [readGroups_pad_on late complete, readGroups_pad_on late complete, ih _ _ fits]
      · rw [readGroups_pad_early (by omega), readGroups_pad_early (by omega), ih _ _ fits]
    · have drop : ¬isSignificant character = true := by simp [isSignificant, isData, other, none]
      rw [List.filter_cons_of_neg drop, readGroups_skip other none, ih _ _ fits]
    · have keep : isSignificant character = true := by simp [isSignificant, isData, some]
      obtain ⟨place', left', add, reads, next, -⟩ := @readGroups_data character place left pads
        value fits other some
      rw [List.filter_cons_of_pos keep, reads, reads, ih _ _ (by omega)]

/-- Texts with the same significant characters read the same. -/
theorem readGroups_congr {text other : List Char}
    (same : text.filter isSignificant = other.filter isSignificant) :
    readGroups 0 0 0 text = readGroups 0 0 0 other := by
  rw [← readGroups_filter text 0 0 (by omega), same, readGroups_filter other 0 0 (by omega)]

/-- Where the reading of a text stopped, and how many bytes came of what was read. -/
theorem stops_of_readGroups (text : List Char) : ∀ {place left pads : Nat} {bytes : List UInt8},
    place < 4 → readGroups place left pads text = some bytes →
      ∃ before rest, text = before ++ rest ∧
        bytes.length + (place + dataCount before + 3) / 4 = dataCount before + (place + 3) / 4 ∧
        (rest = [] ∧ (place + dataCount before) % 4 = 0 ∨ ∃ after, rest = '=' :: after) := by
  induction text with
  | nil =>
    intro place left pads bytes fits read
    by_cases start : place = 0
    · rw [readGroups, if_pos start] at read
      cases read
      exact ⟨[], [], rfl, by simp [dataCount, start], .inl ⟨rfl, by simp [dataCount, start]⟩⟩
    · rw [readGroups, if_neg start] at read
      cases read
  | cons character rest ih =>
    intro place left pads bytes fits read
    -- What is read of the rest is put behind the character.
    have onward : ∀ {place' left' pads' : Nat} {more : List UInt8}, place' < 4 →
        readGroups place' left' pads' rest = some more →
        (∀ count, more.length + (place' + count + 3) / 4 = count + (place' + 3) / 4 →
          bytes.length + (place + (count + if isData character then 1 else 0) + 3) / 4 =
            (count + if isData character then 1 else 0) + (place + 3) / 4) →
        (∀ count, (place' + count) % 4 = 0 →
          (place + (count + if isData character then 1 else 0)) % 4 = 0) →
        ∃ before rest', character :: rest = before ++ rest' ∧
          bytes.length + (place + dataCount before + 3) / 4 =
            dataCount before + (place + 3) / 4 ∧
          (rest' = [] ∧ (place + dataCount before) % 4 = 0 ∨ ∃ after, rest' = '=' :: after) := by
      intro place' left' pads' more fits' reads counts closes
      obtain ⟨before, rest', rfl, length, ends⟩ := ih fits' reads
      refine ⟨character :: before, rest', rfl, ?_, ?_⟩
      · rw [dataCount_cons]
        exact counts _ length
      · rw [dataCount_cons]
        exact ends.imp_left fun both => ⟨both.1, closes _ both.2⟩
    obtain rfl | ⟨other, none⟩ | ⟨other, value, some⟩ := character_cases character
    · by_cases late : 2 ≤ place
      · by_cases complete : 4 ≤ place + (pads + 1)
        · rw [readGroups_pad_last late complete] at read
          cases read
          exact ⟨[], '=' :: rest, rfl, by simp [dataCount], .inr ⟨rest, rfl⟩⟩
        · rw [readGroups_pad_on late complete] at read
          exact onward fits read (fun _ counts => by simpa [isData_pad] using counts)
            fun _ closes => by simpa [isData_pad] using closes
      · rw [readGroups_pad_early (by omega)] at read
        exact onward fits read (fun _ counts => by simpa [isData_pad] using counts)
          fun _ closes => by simpa [isData_pad] using closes
    · rw [readGroups_skip other none] at read
      exact onward fits read (fun _ counts => by simpa [isData, none] using counts)
        fun _ closes => by simpa [isData, none] using closes
    · obtain ⟨place', left', add, reads, next, length⟩ := @readGroups_data character place left
        pads value fits other some
      rw [reads] at read
      obtain ⟨more, readsRest, rfl⟩ := Option.map_eq_some_iff.mp read
      have counted : isData character = true := by simp [isData, some]
      refine onward (by omega) readsRest ?_ ?_
      · intro count counts
        rw [counted, if_pos rfl, List.length_append, length]
        by_cases start : place = 0
        · rw [if_pos start]
          omega
        · rw [if_neg start]
          omega
      · intro count closes
        rw [counted, if_pos rfl]
        omega

/-- A text with padding behind the third character of a group is read. -/
theorem readGroups_of_padded (after before : List Char) : ∀ {place left pads : Nat}, place < 4 →
    (place + dataCount before) % 4 = 3 →
      ∃ bytes, readGroups place left pads (before ++ '=' :: after) = some bytes := by
  induction before with
  | nil =>
    intro place left pads fits third
    have late : place = 3 := by
      rw [dataCount, List.countP_nil] at third
      omega
    exact ⟨[], readGroups_pad_last (by omega) (by omega)⟩
  | cons character rest ih =>
    intro place left pads fits third
    rw [dataCount_cons] at third
    rw [List.cons_append]
    obtain rfl | ⟨other, none⟩ | ⟨other, value, some⟩ := character_cases character
    · rw [isData_pad, if_neg (by decide), Nat.add_zero] at third
      by_cases late : 2 ≤ place
      · by_cases complete : 4 ≤ place + (pads + 1)
        · exact ⟨[], readGroups_pad_last late complete⟩
        · rw [readGroups_pad_on late complete]
          exact ih fits third
      · rw [readGroups_pad_early (by omega)]
        exact ih fits third
    · have skipped : isData character = false := by simp [isData, none]
      rw [skipped, if_neg (by decide), Nat.add_zero] at third
      rw [readGroups_skip other none]
      exact ih fits third
    · have counted : isData character = true := by simp [isData, some]
      rw [counted, if_pos rfl] at third
      obtain ⟨place', left', add, reads, next, -⟩ := @readGroups_data character place left pads
        value fits other some
      obtain ⟨more, readsRest⟩ := @ih place' left' 0 (by omega) (by omega)
      exact ⟨add ++ more, by rw [reads, readsRest, Option.map_some]⟩

/-- Some padding of a text has this in front of it and behind it. -/
def PadAt (here : List Char → List Char → Prop) (text : List Char) : Prop :=
  ∃ before after, text = before ++ '=' :: after ∧ here before after

/-- What the reader needs of a text from a place in a group, with or without padding seen in it: the
group ends with the text, or padding closes it. -/
def ClosedFrom (place pads : Nat) (text : List Char) : Prop :=
  (place + dataCount text) % 4 = 0 ∨
  PadAt (fun before after => (place + dataCount before) % 4 = 3 ∨
    (place + dataCount before) % 4 = 2 ∧ PadAt (fun between _ => dataCount between = 0) after) text ∨
  place = 2 ∧ 1 ≤ pads ∧ PadAt (fun before _ => dataCount before = 0) text

/-- A text is read as base64 when its characters of the alphabet come in whole groups, or when
padding stands behind the third of a group, or twice behind the second. -/
def Closed (text : List Char) : Prop :=
  dataCount text % 4 = 0 ∨
  PadAt (fun before after => dataCount before % 4 = 3 ∨
    dataCount before % 4 = 2 ∧ PadAt (fun between _ => dataCount between = 0) after) text

section Closing

variable {character : Char} {place pads : Nat} {rest : List Char}

/-- Padding of a text is its first character or in the rest. -/
theorem padAt_cons {here : List Char → List Char → Prop} :
    PadAt here (character :: rest) ↔
      character = '=' ∧ here [] rest ∨ PadAt (fun before => here (character :: before)) rest := by
  constructor
  · intro ⟨before, after, split, holds⟩
    cases before with
    | nil =>
      cases split
      exact .inl ⟨rfl, holds⟩
    | cons first before =>
      cases split
      exact .inr ⟨before, after, rfl, holds⟩
  · intro either
    cases either with
    | inl first => exact ⟨[], rest, by rw [first.1]; rfl, first.2⟩
    | inr later =>
      have ⟨before, after, split, holds⟩ := later
      exact ⟨character :: before, after, by rw [split]; rfl, holds⟩

/-- What is passed over closes nothing. -/
theorem closedFrom_skip (other : character ≠ '=') (skipped : isData character = false) :
    ClosedFrom place pads (character :: rest) ↔ ClosedFrom place pads rest := by
  simp [ClosedFrom, padAt_cons, dataCount_cons, other, skipped]

/-- A character of the alphabet moves on to the next place. -/
theorem closedFrom_data {next : Nat} (onward : next = (place + 1) % 4) (other : character ≠ '=')
    (counted : isData character = true) :
    ClosedFrom place pads (character :: rest) ↔ ClosedFrom next 0 rest := by
  have shift : ∀ count, (place + (count + 1)) % 4 = (next + count) % 4 := by omega
  have never : ¬PadAt (fun _ _ => False) rest := fun ⟨_, _, _, absurd⟩ => absurd
  simp [ClosedFrom, padAt_cons, dataCount_cons, other, counted, shift, never]

/-- Padding early in a group is passed over. -/
theorem closedFrom_pad_early (early : place < 2) :
    ClosedFrom place pads ('=' :: rest) ↔ ClosedFrom place pads rest := by
  have third : ¬place % 4 = 3 := by omega
  have second : ¬place % 4 = 2 := by omega
  have here : ¬place = 2 := by omega
  simp [ClosedFrom, padAt_cons, isData_pad, dataCount, third, second, here]

/-- The first padding behind the second character of a group waits for another. -/
theorem closedFrom_pad_on : ClosedFrom 2 0 ('=' :: rest) ↔ ClosedFrom 2 1 rest := by
  have free : dataCount [] = 0 := rfl
  simp [ClosedFrom, padAt_cons, dataCount_cons, isData_pad, free, or_comm]

/-- Padding that completes a group closes the text. -/
theorem closedFrom_pad_last (fits : place < 4) (late : 2 ≤ place)
    (complete : 4 ≤ place + (pads + 1)) : ClosedFrom place pads ('=' :: rest) := by
  by_cases third : place = 3
  · exact .inr (.inl ⟨[], rest, rfl, .inl (by simp [third, dataCount])⟩)
  · exact .inr (.inr ⟨by omega, by omega, [], rest, rfl, rfl⟩)

/-- A text is read from a place in a group exactly when it is closed from there. -/
theorem readGroups_isSome_iff (text : List Char) : ∀ {place : Nat} (left pads : Nat), place < 4 →
    ((readGroups place left pads text).isSome = true ↔ ClosedFrom place pads text) := by
  induction text with
  | nil =>
    intro place left pads fits
    have bare : ∀ here, ¬PadAt here [] := by
      intro here ⟨before, after, split, _⟩
      cases before <;> cases split
    have whole : ClosedFrom place pads [] ↔ place = 0 := by
      simp only [ClosedFrom, bare, and_false, or_false, dataCount, List.countP_nil]
      omega
    rw [whole, readGroups]
    by_cases start : place = 0 <;> simp [start]
  | cons character rest ih =>
    intro place left pads fits
    obtain rfl | ⟨other, none⟩ | ⟨other, value, some⟩ := character_cases character
    · by_cases late : 2 ≤ place
      · by_cases complete : 4 ≤ place + (pads + 1)
        · rw [readGroups_pad_last late complete]
          exact iff_of_true rfl (closedFrom_pad_last fits late complete)
        · have second : place = 2 := by omega
          have first : pads = 0 := by omega
          rw [readGroups_pad_on late complete, second, first, closedFrom_pad_on]
          exact ih left 1 (by omega)
      · rw [readGroups_pad_early (by omega), closedFrom_pad_early (by omega)]
        exact ih left pads fits
    · have skipped : isData character = false := by simp [isData, none]
      rw [readGroups_skip other none, closedFrom_skip other skipped]
      exact ih left pads fits
    · have counted : isData character = true := by simp [isData, some]
      obtain ⟨place', left', add, reads, next, _⟩ := @readGroups_data character place left pads
        value fits other some
      rw [reads, Option.isSome_map, closedFrom_data next other counted]
      exact ih left' 0 (by omega)

end Closing

/-- A text decodes exactly when it is in ASCII and closed. -/
theorem decode_iff (text : List Char) :
    (∃ bytes, decode text = .ok bytes) ↔
      (∀ character ∈ text, character.toNat < 128) ∧ Closed text := by
  have start : ClosedFrom 0 0 text ↔ Closed text := by simp [ClosedFrom, Closed]
  rw [← start, ← readGroups_isSome_iff text 0 0 (by omega)]
  unfold decode
  by_cases ascii : ∀ character ∈ text, character.toNat < 128
  · rw [if_pos (List.all_eq_true.mpr fun character inside => decide_eq_true (ascii character inside))]
    cases readGroups 0 0 0 text with
    | none => exact iff_of_false (fun read => by cases read.choose_spec) fun both => by cases both.2
    | some bytes => exact iff_of_true ⟨bytes, rfl⟩ ⟨ascii, rfl⟩
  · rw [if_neg fun all => ascii fun character inside =>
      of_decide_eq_true (List.all_eq_true.mp all character inside)]
    exact iff_of_false (fun read => by cases read.choose_spec) fun both => ascii both.1

/-- Padding alone reads as nothing at the start of a group. -/
theorem readGroups_replicate (count left pads : Nat) :
    readGroups 0 left pads (List.replicate count '=') = some [] := by
  induction count with
  | zero => rfl
  | succ count ih =>
    rw [List.replicate_succ, readGroups_pad_early (by omega)]
    exact ih

/-- Padding behind a text that is read adds nothing. -/
theorem readGroups_append_pads (count : Nat) (text : List Char) :
    ∀ {place left pads : Nat} {bytes : List UInt8}, place < 4 →
      readGroups place left pads text = some bytes →
        readGroups place left pads (text ++ List.replicate count '=') = some bytes := by
  induction text with
  | nil =>
    intro place left pads bytes fits read
    by_cases start : place = 0
    · rw [readGroups, if_pos start] at read
      cases read
      rw [List.nil_append, start]
      exact readGroups_replicate count left pads
    · rw [readGroups, if_neg start] at read
      cases read
  | cons character rest ih =>
    intro place left pads bytes fits read
    rw [List.cons_append]
    obtain rfl | ⟨other, none⟩ | ⟨other, value, some⟩ := character_cases character
    · by_cases late : 2 ≤ place
      · by_cases complete : 4 ≤ place + (pads + 1)
        · rw [readGroups_pad_last late complete] at read ⊢
          exact read
        · rw [readGroups_pad_on late complete] at read ⊢
          exact ih fits read
      · rw [readGroups_pad_early (by omega)] at read ⊢
        exact ih fits read
    · rw [readGroups_skip other none] at read ⊢
      exact ih fits read
    · obtain ⟨place', left', add, reads, next, -⟩ := @readGroups_data character place left pads
        value fits other some
      rw [reads] at read ⊢
      obtain ⟨more, readsRest, rfl⟩ := Option.map_eq_some_iff.mp read
      exact Option.map_eq_some_iff.mpr ⟨more, ih (by omega) readsRest, rfl⟩

/-- Two readings of a text with padding behind it are of the same bytes. -/
theorem readGroups_pads_unique {text : List Char} {count other : Nat} {bytes more : List UInt8}
    (read : readGroups 0 0 0 (text ++ List.replicate count '=') = some bytes)
    (reads : readGroups 0 0 0 (text ++ List.replicate other '=') = some more) : more = bytes := by
  have far := readGroups_append_pads other _ (by omega) read
  have near := readGroups_append_pads count _ (by omega) reads
  rw [List.append_assoc, List.replicate_append_replicate] at far near
  rw [Nat.add_comm, near] at far
  exact Option.some.inj far

/-- Bytes that fill no whole groups were read of a text with padding right behind them. -/
theorem paddedAfter_of_readGroups {text : List Char} {bytes : List UInt8} {groups : Nat}
    (read : readGroups 0 0 0 text = some bytes) (length : bytes.length = 3 * groups + 2) :
    PaddedAfter (4 * groups + 3) text := by
  obtain ⟨before, rest, rfl, counts, ends⟩ := stops_of_readGroups text (by omega) read
  obtain ⟨-, closed⟩ | ⟨after, rfl⟩ := ends
  · omega
  · exact ⟨before, after, rfl, by omega⟩

/-- A text with padding right behind the third character of a group is read. -/
theorem readGroups_of_paddedAfter {text : List Char} {groups : Nat}
    (padded : PaddedAfter (4 * groups + 3) text) :
    ∃ bytes, readGroups 0 0 0 text = some bytes := by
  obtain ⟨before, after, rfl, counts⟩ := padded
  exact readGroups_of_padded after before (by omega) (by omega)

/-- A significant character is one of the padding and the alphabet. -/
theorem mem_of_isSignificant {character : Char} (noticed : isSignificant character = true) :
    character ∈ '=' :: '+' :: '/' :: alphabet := by
  by_cases listed : character = '=' ∨ character = '+' ∨ character = '/'
  · obtain rfl | rfl | rfl := listed
    · decide
    · decide
    · decide
  · rw [not_or, not_or] at listed
    obtain ⟨pad, plus, slash⟩ := listed
    have data : (sextet? character).isSome = true := by
      simpa [isSignificant, isData, pad] using noticed
    rw [sextet?, if_neg plus, if_neg slash, List.isSome_idxOf?] at data
    exact List.mem_cons_of_mem _ (List.mem_cons_of_mem _ (List.mem_cons_of_mem _ data))

/-- White space is passed over. -/
theorem isSignificant_of_isSpace {character : Char} (space : isSpace character = true) :
    isSignificant character = false := by
  have clear : (('=' :: '+' :: '/' :: alphabet).all fun each => !isSpace each) = true := by
    decide +kernel
  cases noticed : isSignificant character with
  | false => rfl
  | true =>
    have free := List.all_eq_true.mp clear character (mem_of_isSignificant noticed)
    rw [space] at free
    cases free

/-- White space in front goes with what is passed over. -/
theorem filter_dropWhile_isSpace (text : List Char) :
    (text.dropWhile isSpace).filter isSignificant = text.filter isSignificant := by
  induction text with
  | nil => rfl
  | cons character rest ih =>
    cases space : isSpace character with
    | false => rw [List.dropWhile_cons_of_neg (by simp [space])]
    | true =>
      rw [List.dropWhile_cons_of_pos space, ih,
        List.filter_cons_of_neg (by simp [isSignificant_of_isSpace space])]

/-- A stripped text has the significant characters of the text. -/
theorem filter_strip (text : List Char) :
    (strip text).filter isSignificant = text.filter isSignificant := by
  rw [strip, List.filter_reverse, filter_dropWhile_isSpace, List.filter_reverse,
    List.reverse_reverse, filter_dropWhile_isSpace]

/-- The characters that are written for bits are not padding. -/
theorem sextetChar_ne_pad (value : Nat) : sextetChar value ≠ '=' := by
  have free : '=' ∉ alphabet := by decide
  intro same
  exact free (same ▸ sextetChar_mem value)

/-- What is written has its padding, of fewer than four characters, at the end. -/
theorem encode_eq_append_pads (bytes : List UInt8) :
    ∃ data count, encode bytes = data ++ List.replicate count '=' ∧ '=' ∉ data ∧ count < 4 := by
  induction bytes using encode.induct with
  | case1 => exact ⟨[], 0, rfl, List.not_mem_nil, by omega⟩
  | case2 one =>
    refine ⟨[sextetChar (one.toNat / 4), sextetChar (one.toNat % 4 * 16)], 2, rfl, ?_, by omega⟩
    simp [(sextetChar_ne_pad _).symm]
  | case3 one two =>
    refine ⟨[sextetChar (one.toNat / 4), sextetChar (one.toNat % 4 * 16 + two.toNat / 16),
      sextetChar (two.toNat % 16 * 4)], 1, rfl, ?_, by omega⟩
    simp [(sextetChar_ne_pad _).symm]
  | case4 one two three rest ih =>
    obtain ⟨data, count, written, free, few⟩ := ih
    refine ⟨sextetChar (one.toNat / 4) :: sextetChar (one.toNat % 4 * 16 + two.toNat / 16) ::
      sextetChar (two.toNat % 16 * 4 + three.toNat / 64) :: sextetChar (three.toNat % 64) :: data,
      count, ?_, ?_, few⟩
    · rw [encode, written]
      rfl
    · simp [(sextetChar_ne_pad _).symm, free]

/-- A text without padding is not closed by any. -/
theorem not_paddedAfter {text : List Char} (free : '=' ∉ text) (count : Nat) :
    ¬PaddedAfter count text := by
  rintro ⟨before, after, rfl, -⟩
  exact free (List.mem_append_right before (List.mem_cons_self ..))

end VelaFlow.Base64
