import VelaFlow.Installer.ConfigBuilder

/-!
# What an installer run keeps of the configuration

The writer escapes a value before it quotes it, and the reader takes the quotes off and leaves the
escapes. So a value returns as its escaped text, and one with a carriage return, at which the reader
ends the line, does not return at all. The configuration is kept exactly when no value has a
character that the writer escapes or the reader takes for a line end.
-/
namespace VelaFlow.Installer

open Storage

section Escapes

variable {old : Char} {new text : List Char}

/-- A text without the character is left as it is. -/
theorem replaceChar_of_not_mem (absent : old ∉ text) : replaceChar old new text = text := by
  induction text with
  | nil => rfl
  | cons first rest ih =>
    rw [List.mem_cons, not_or] at absent
    unfold replaceChar at ih ⊢
    rw [List.flatMap_cons, if_neg (Ne.symm absent.1), ih absent.2]
    rfl

/-- What is in the text afterwards was put in or was in it and is not replaced. -/
theorem mem_replaceChar {character : Char} (member : character ∈ replaceChar old new text) :
    character ∈ new ∨ character ∈ text ∧ character ≠ old := by
  obtain ⟨source, inside, made⟩ := List.mem_flatMap.mp member
  split at made
  case isTrue is => exact Or.inl made
  case isFalse other =>
    rw [List.mem_singleton.mp made]
    exact Or.inr ⟨inside, other⟩

/-- A replacement by two characters adds one for each character that is replaced. -/
theorem length_replaceChar (two : new.length = 2) :
    (replaceChar old new text).length = text.length + text.count old := by
  induction text with
  | nil => rfl
  | cons first rest ih =>
    unfold replaceChar at ih ⊢
    rw [List.flatMap_cons, List.length_append, ih, List.count_cons, List.length_cons]
    split
    case isTrue is =>
      rw [two, if_pos (beq_iff_eq.mpr is)]
      omega
    case isFalse other =>
      have not : ¬ (first == old) = true := fun is => other (beq_iff_eq.mp is)
      rw [if_neg not, List.length_singleton]
      omega

/-- The characters that the writer escapes. -/
def escaped : List Char := ['\\', '"', '\n']

/-- An escaped value is the value exactly when nothing in it is escaped. -/
theorem escapeEnvValue_eq_self_iff (value : String) :
    escapeEnvValue value = value ↔ ∀ character ∈ escaped, character ∉ value.toList := by
  unfold escapeEnvValue
  constructor
  · intro same
    have texts : replaceChar '\n' ['\\', 'n'] (replaceChar '"' ['\\', '"']
        (replaceChar '\\' ['\\', '\\'] value.toList)) = value.toList := by
      have parts := congrArg String.toList same
      rwa [String.toList_ofList] at parts
    have lengths := congrArg List.length texts
    rw [length_replaceChar rfl, length_replaceChar rfl, length_replaceChar rfl] at lengths
    have noBackslash : '\\' ∉ value.toList := List.count_eq_zero.mp (by omega)
    rw [replaceChar_of_not_mem noBackslash] at lengths
    have noQuote : '"' ∉ value.toList := List.count_eq_zero.mp (by omega)
    rw [replaceChar_of_not_mem noQuote] at lengths
    have noLineFeed : '\n' ∉ value.toList := List.count_eq_zero.mp (by omega)
    intro character special
    simp only [escaped, List.mem_cons, List.not_mem_nil, or_false] at special
    rcases special with rfl | rfl | rfl
    · exact noBackslash
    · exact noQuote
    · exact noLineFeed
  · intro plain
    have backslash := plain '\\' (by decide)
    have quote := plain '"' (by decide)
    have lineFeed := plain '\n' (by decide)
    rw [replaceChar_of_not_mem backslash, replaceChar_of_not_mem quote,
      replaceChar_of_not_mem lineFeed, String.ofList_toList]

/-- An escaped value is on one line. -/
theorem lineFeed_not_mem_escapeEnvValue (value : String) :
    '\n' ∉ (escapeEnvValue value).toList := by
  unfold escapeEnvValue
  rw [String.toList_ofList]
  intro member
  rcases mem_replaceChar member with put | ⟨-, kept⟩
  · exact absurd put (by decide)
  · exact kept rfl

/-- Escaping brings no carriage return. -/
theorem return_not_mem_escapeEnvValue {value : String} (absent : '\r' ∉ value.toList) :
    '\r' ∉ (escapeEnvValue value).toList := by
  unfold escapeEnvValue
  rw [String.toList_ofList]
  intro member
  rcases mem_replaceChar member with put | ⟨inside, -⟩
  · exact absurd put (by decide)
  · rcases mem_replaceChar inside with put | ⟨inside, -⟩
    · exact absurd put (by decide)
    · rcases mem_replaceChar inside with put | ⟨inside, -⟩
      · exact absurd put (by decide)
      · exact absent inside

end Escapes

section Lines

/-- `[A-Z]`. -/
def capitals : List Char := "ABCDEFGHIJKLMNOPQRSTUVWXYZ".toList

/-- `[A-Z0-9_]`. -/
def nameCharacters : List Char := capitals ++ "0123456789_".toList

/-- A name of the form `[A-Z][A-Z0-9_]*`. -/
structure IsName (name : String) : Prop where
  /-- It begins with a capital letter. -/
  opens : ∃ first ∈ name.toList.head?, first ∈ capitals
  /-- Each character is a capital letter, a digit or an underscore. -/
  characters : ∀ character ∈ name.toList, character ∈ nameCharacters

/-- No character of a name is white space or has a meaning in a line. -/
theorem solid_of_mem_nameCharacters {character : Char} (named : character ∈ nameCharacters) :
    isSpace character = false ∧ character ≠ '=' ∧ character ≠ '#' := by
  have each : (nameCharacters.all fun other =>
      !isSpace other && decide (other ≠ '=') && decide (other ≠ '#')) = true := by decide
  have solid := List.all_eq_true.mp each character named
  simp only [Bool.and_eq_true, Bool.not_eq_true', decide_eq_true_eq] at solid
  exact ⟨solid.1.1, solid.1.2, solid.2⟩

/-- A text that begins with no white space is stripped at its end only. -/
theorem strip_cons {first : Char} (solid : isSpace first = false) (rest : List Char) :
    strip (first :: rest) = first :: (rest.reverse.dropWhile isSpace).reverse := by
  have here : ¬ isSpace first = true := by rw [solid]; exact Bool.false_ne_true
  unfold strip
  rw [List.dropWhile_cons_of_neg here, List.reverse_cons, List.dropWhile_append]
  split
  case isTrue nothing =>
    rw [List.isEmpty_iff.mp nothing, List.dropWhile_cons_of_neg here]
    rfl
  case isFalse some => rw [List.reverse_append]; rfl

/-- A comment is not read. -/
theorem readLine_comment {line : List Char} (comment : line.head? = some '#') :
    readLine line = none := by
  obtain ⟨rest, rfl⟩ := List.head?_eq_some_iff.mp comment
  unfold readLine
  rw [strip_cons rfl]
  exact if_neg fun entry => entry.2.1 rfl

/-- A value between quotes is unquoted. -/
theorem unquote_quoted (value : List Char) : unquote ('"' :: (value ++ ['"'])) = value := by
  have quoted : 2 ≤ ('"' :: (value ++ ['"'])).length ∧
      ('"' :: (value ++ ['"'])).head? = ('"' :: (value ++ ['"'])).getLast? ∧
      (('"' :: (value ++ ['"'])).head? = some '"' ∨
        ('"' :: (value ++ ['"'])).head? = some singleQuote) := by
    refine ⟨?_, ?_, Or.inl rfl⟩
    · rw [List.length_cons, List.length_append, List.length_singleton]
      omega
    · rw [← List.cons_append, List.getLast?_concat]
      rfl
  unfold unquote
  rw [if_pos quoted]
  exact List.dropLast_concat

/-- A text whose first and last characters are no white space is not stripped. -/
theorem strip_between_solid {first last : Char} (opens : isSpace first = false)
    (closes : isSpace last = false) (middle : List Char) :
    strip (first :: (middle ++ [last])) = first :: (middle ++ [last]) := by
  apply strip_eq_self
  · intro character is
    obtain rfl := Option.some.inj is
    exact opens
  · intro character is
    rw [← List.cons_append, List.getLast?_concat] at is
    obtain rfl := Option.some.inj is
    exact closes

/-- A line of a name and a quoted text is read as the two. -/
theorem readLine_quoted {first : Char} {rest : List Char}
    (named : ∀ character ∈ first :: rest, character ∈ nameCharacters) (value : List Char) :
    readLine (first :: rest ++ '=' :: '"' :: (value ++ ['"'])) =
      some (String.ofList (first :: rest), String.ofList value) := by
  have solid := fun character inside => solid_of_mem_nameCharacters (named character inside)
  have opens := solid first List.mem_cons_self
  have whole : strip (first :: rest ++ '=' :: '"' :: (value ++ ['"'])) =
      first :: rest ++ '=' :: '"' :: (value ++ ['"']) := by
    have shape : first :: rest ++ '=' :: '"' :: (value ++ ['"']) =
        first :: ((rest ++ '=' :: '"' :: value) ++ ['"']) := by
      rw [List.append_assoc]
      rfl
    rw [shape]
    exact strip_between_solid opens.1 rfl _
  have unlike : ∀ character ∈ first :: rest, decide (character ≠ '=') = true :=
    fun character inside => decide_eq_true (solid character inside).2.1
  have key : (first :: rest ++ '=' :: '"' :: (value ++ ['"'])).takeWhile
      (fun character => character ≠ '=') = first :: rest := by
    rw [List.takeWhile_append_of_pos unlike]
    exact List.append_nil (first :: rest)
  have val : ((first :: rest ++ '=' :: '"' :: (value ++ ['"'])).dropWhile
      fun character => character ≠ '=').tail = '"' :: (value ++ ['"']) := by
    rw [List.dropWhile_append_of_pos unlike]
    rfl
  have entry : first :: rest ++ '=' :: '"' :: (value ++ ['"']) ≠ [] ∧
      (first :: rest ++ '=' :: '"' :: (value ++ ['"'])).head? ≠ some '#' ∧
      '=' ∈ first :: rest ++ '=' :: '"' :: (value ++ ['"']) :=
    ⟨List.cons_ne_nil _ _, fun is => opens.2.2 (Option.some.inj is),
      List.mem_append_right _ List.mem_cons_self⟩
  have bare : strip (first :: rest) = first :: rest := by
    apply strip_eq_self
    · exact fun character is => (solid character (List.mem_of_mem_head? is)).1
    · exact fun character is => (solid character (List.mem_of_mem_getLast? is)).1
  have quoted : strip ('"' :: (value ++ ['"'])) = '"' :: (value ++ ['"']) :=
    strip_between_solid rfl rfl value
  unfold readLine
  dsimp only
  rw [whole, if_pos entry, key, val, bare, quoted, unquote_quoted]

/-- The characters of the line of a key. -/
theorem toList_entryLine (entry : String × String) : (entryLine entry).toList =
    entry.1.toList ++ '=' :: '"' :: ((escapeEnvValue entry.2).toList ++ ['"']) := by
  have mark : "=\"".toList = ['=', '"'] := rfl
  have quote : "\"".toList = ['"'] := rfl
  unfold entryLine
  rw [String.toList_append, String.toList_append, String.toList_append, mark, quote,
    List.append_assoc, List.append_assoc, List.cons_append, List.singleton_append]

/-- The line of a key is read as the key and its escaped value. -/
theorem readLine_entryLine {entry : String × String} (named : IsName entry.1) :
    readLine (entryLine entry).toList = some (entry.1, escapeEnvValue entry.2) := by
  obtain ⟨first, isFirst, -⟩ := named.opens
  obtain ⟨rest, spelled⟩ := List.head?_eq_some_iff.mp isFirst
  have characters := named.characters
  rw [spelled] at characters
  rw [toList_entryLine, spelled, readLine_quoted characters, ← spelled, String.ofList_toList,
    String.ofList_toList]

end Lines

section Files

/-- The characters that end a line in text mode. -/
def breaks : List Char := ['\n', '\r']

/-- A line that is not read and not broken. -/
structure Passive (line : String) : Prop where
  /-- Nothing is read of it. -/
  skipped : readLine line.toList = none
  /-- It is one line. -/
  unbroken : ∀ character ∈ breaks, character ∉ line.toList

/-- A text without line ends. -/
def OneLine (text : String) : Prop :=
  (text.toList.all fun character => !breaks.contains character) = true

/-- A text of two without line ends has none. -/
theorem unbroken_append {first second : String} (one : OneLine first) (other : OneLine second) :
    OneLine (first ++ second) := by
  unfold OneLine at *
  rw [String.toList_append, List.all_append, one, other]
  rfl

/-- A repeated text without line ends has none. -/
theorem unbroken_join {piece : String} (unbroken : OneLine piece) (count : Nat) :
    OneLine (String.join (List.replicate count piece)) := by
  unfold OneLine at *
  rw [String.toList_join, List.all_eq_true]
  intro character member
  obtain ⟨other, inside, within⟩ := List.mem_flatMap.mp member
  rw [List.eq_of_mem_replicate inside] at within
  exact List.all_eq_true.mp unbroken character within

/-- A comment on one line is passive. -/
theorem passive_comment {opening rest : String} (comment : opening.toList.head? = some '#')
    (unbroken : OneLine (opening ++ rest)) : Passive (opening ++ rest) := by
  constructor
  · apply readLine_comment
    rw [String.toList_append, List.head?_append, comment]
    rfl
  · intro character ends inside
    have free := List.all_eq_true.mp unbroken character inside
    rw [List.contains_iff_mem.mpr ends] at free
    cases free

/-- An empty line is passive. -/
theorem passive_empty : Passive "" := ⟨rfl, fun _ _ => List.not_mem_nil⟩

/-- The text of a time is on one line. -/
theorem unbroken_stampText (time : DateTime) : OneLine (stampText time) := by
  have digit (width value : Nat) :
      (digits width value).all (fun character => !breaks.contains character) = true := by
    apply List.all_eq_true.mpr
    intro character inside
    have isDigit := isDigit_of_mem_digits inside
    rw [Bool.not_eq_true', ← Bool.not_eq_true, List.contains_iff_mem]
    intro ends
    simp only [breaks, List.mem_cons, List.not_mem_nil, or_false] at ends
    rcases ends with rfl | rfl
    · cases isDigit
    · cases isDigit
  have separators : (!breaks.contains '-') = true ∧ (!breaks.contains ' ') = true ∧
      (!breaks.contains ':') = true := by decide
  unfold OneLine stampText Date.isoChars
  rw [String.toList_ofList]
  simp only [List.all_append, List.all_cons, digit, separators, Bool.and_true]

/-- The lines before the groups are passive. -/
theorem passive_headerLines (time : DateTime) : ∀ line ∈ headerLines time, Passive line := by
  have rule : Passive ruleLine := by
    have piece : OneLine "â•\u0090" := by unfold OneLine; decide +kernel
    have opening : OneLine "# " := by unfold OneLine; decide +kernel
    exact passive_comment rfl (unbroken_append opening (unbroken_join piece 63))
  have title : Passive "# VelaFlow â€” Configuration (auto-generated by installer)" := by
    have whole : OneLine ("# VelaFlow â€” Configuration (auto-generated by installer)" ++ "") := by
      unfold OneLine
      decide +kernel
    exact passive_comment rfl whole
  have stamp : Passive ("# Generated: " ++ stampText time) := by
    have opening : OneLine "# Generated: " := by unfold OneLine; decide +kernel
    exact passive_comment rfl (unbroken_append opening (unbroken_stampText time))
  simp only [headerLines, List.forall_mem_cons]
  exact ⟨rule, title, stamp, rule, passive_empty, List.forall_mem_nil _⟩

/-- A heading is passive when its name has no line ends. -/
theorem passive_heading {opening : String} (comment : opening.toList.head? = some '#')
    (unbroken : OneLine opening) (count : Nat) :
    Passive (opening ++ String.join (List.replicate count "â”€")) := by
  have piece : OneLine "â”€" := by unfold OneLine; decide +kernel
  exact passive_comment comment (unbroken_append unbroken (unbroken_join piece count))

/-- The lines above the groups are passive. -/
theorem passive_groupLine : ∀ group ∈ groups, Passive (groupLine group.1) := by
  have names : ∀ group ∈ groups,
      (group.1.toList.all fun character => !breaks.contains character) = true := by
    decide +kernel
  have opening : OneLine "# â”€â”€ " := by unfold OneLine; decide +kernel
  have blank : OneLine " " := by unfold OneLine; decide +kernel
  intro group listed
  apply passive_heading
  · rw [String.toList_append, String.toList_append]
    rfl
  · exact unbroken_append (unbroken_append opening (names group listed)) blank

/-- The line above the other keys is passive. -/
theorem passive_otherLine : Passive otherLine := by
  have opening : OneLine "# â”€â”€ Other " := by unfold OneLine; decide +kernel
  exact passive_heading rfl opening 45

/-- The entries read of some lines. -/
def reads (lines : List String) : List (String × String) :=
  (lines.map String.toList).filterMap readLine

/-- The entries of two lists of lines. -/
theorem reads_append (first second : List String) :
    reads (first ++ second) = reads first ++ reads second := by
  unfold reads
  rw [List.map_append, List.filterMap_append]

/-- Nothing is read of passive lines. -/
theorem reads_of_passive {lines : List String} (passive : ∀ line ∈ lines, Passive line) :
    reads lines = [] := by
  unfold reads
  rw [List.filterMap_eq_nil_iff, List.forall_mem_map]
  exact fun line inside => (passive line inside).skipped

/-- The lines of keys are read as the keys and their escaped values. -/
theorem reads_entryLines {entries : List (String × String)}
    (named : ∀ entry ∈ entries, IsName entry.1) :
    reads (entries.map entryLine) = entries.map fun entry => (entry.1, escapeEnvValue entry.2) := by
  unfold reads
  rw [List.map_map, List.filterMap_map, ← List.filterMap_eq_map]
  apply List.filterMap_congr
  exact fun entry inside => readLine_entryLine (named entry inside)

/-- The lines of a group are read as its entries with their values escaped. -/
theorem reads_section {heading : String} (passive : Passive heading)
    {entries : List (String × String)} (named : ∀ entry ∈ entries, IsName entry.1) :
    reads (heading :: entries.map entryLine ++ [""]) =
      entries.map fun entry => (entry.1, escapeEnvValue entry.2) := by
  have first : reads [heading] = [] := reads_of_passive (List.forall_mem_singleton.mpr passive)
  have last : reads [""] = [] := rfl
  have parts : heading :: entries.map entryLine ++ [""] =
      [heading] ++ entries.map entryLine ++ [""] := rfl
  rw [parts, reads_append, reads_append, first, last, reads_entryLines named, List.append_nil,
    List.nil_append]

/-- The lines of a group have no line end in them when no line of its keys has. -/
theorem not_mem_section {heading : String} (passive : Passive heading) {character : Char}
    (ends : character ∈ breaks) {entries : List (String × String)}
    (absent : ∀ entry ∈ entries, character ∉ (entryLine entry).toList) :
    ∀ line ∈ heading :: entries.map entryLine ++ [""], character ∉ line.toList :=
  List.forall_mem_append.mpr
    ⟨List.forall_mem_cons.mpr ⟨passive.unbroken character ends, List.forall_mem_map.mpr absent⟩,
      List.forall_mem_singleton.mpr List.not_mem_nil⟩

/-- A line end is in the line of a key only when it is a carriage return in the value. -/
theorem not_mem_entryLine {entry : String × String} (named : IsName entry.1) {character : Char}
    (ends : character ∈ breaks) (absent : character ∉ (escapeEnvValue entry.2).toList) :
    character ∉ (entryLine entry).toList := by
  have solid : (nameCharacters.all fun other => !breaks.contains other) = true := by decide
  have marks : (['=', '"'].all fun other => !breaks.contains other) = true := by decide
  have apart {others : List Char} (free : (others.all fun other => !breaks.contains other) = true) :
      character ∉ others := by
    intro inside
    have excluded := List.all_eq_true.mp free character inside
    rw [List.contains_iff_mem.mpr ends] at excluded
    cases excluded
  have notMark := apart marks
  rw [List.mem_cons, List.mem_singleton, not_or] at notMark
  rw [toList_entryLine, List.mem_append, List.mem_cons, List.mem_cons, List.mem_append,
    List.mem_singleton]
  rintro (inName | equals | quote | inValue | quote)
  · exact apart solid (named.characters character inName)
  · exact notMark.1 equals
  · exact notMark.2 quote
  · exact absent inValue
  · exact notMark.2 quote

namespace ConfigBuilder

variable {builder : ConfigBuilder}

/-- What is found is an entry. -/
theorem find_eq_some_iff {key value : String} :
    builder.find key = some value ↔ (key, value) ∈ builder.values := by
  constructor
  · exact mem_of_lookup
  · exact fun inside => lookup_of_mem builder.distinct inside

/-- The entries in the order in which they are written. -/
def entries (builder : ConfigBuilder) : List (String × String) :=
  (groups.flatMap fun group => builder.groupEntries group.2) ++ builder.extras

/-- The entries of a group are those whose key it has. -/
theorem mem_groupEntries {keys : List String} {entry : String × String} :
    entry ∈ builder.groupEntries keys ↔ entry.1 ∈ keys ∧ entry ∈ builder.values := by
  unfold groupEntries
  rw [List.mem_filterMap]
  constructor
  · rintro ⟨key, inside, is⟩
    obtain ⟨value, found, rfl⟩ := Option.map_eq_some_iff.mp is
    exact ⟨inside, find_eq_some_iff.mp found⟩
  · rintro ⟨inside, stored⟩
    exact ⟨entry.1, inside, Option.map_eq_some_iff.mpr ⟨entry.2, find_eq_some_iff.mpr stored, rfl⟩⟩

/-- Every entry is written. -/
theorem mem_entries {entry : String × String} :
    entry ∈ builder.entries ↔ entry ∈ builder.values := by
  have extra : entry ∈ builder.extras ↔
      entry ∈ builder.values ∧ entry.1 ∉ groups.flatMap Prod.snd := by
    unfold extras
    rw [(stablySorted_sortBy _ _).perm.mem_iff, List.mem_filter, Bool.not_eq_true',
      ← Bool.not_eq_true, List.contains_iff_mem]
  unfold entries
  rw [List.mem_append, extra, List.mem_flatMap]
  constructor
  · rintro (⟨group, -, grouped⟩ | ⟨stored, -⟩)
    · exact (mem_groupEntries.mp grouped).2
    · exact stored
  · intro stored
    by_cases known : entry.1 ∈ groups.flatMap Prod.snd
    · obtain ⟨group, listed, inside⟩ := List.mem_flatMap.mp known
      exact Or.inl ⟨group, listed, mem_groupEntries.mpr ⟨inside, stored⟩⟩
    · exact Or.inr ⟨stored, known⟩

/-- What is read of the written lines are the entries with their values escaped. -/
theorem reads_lines (named : ∀ entry ∈ builder.values, IsName entry.1) (time : DateTime) :
    reads (builder.lines time) =
      builder.entries.map fun entry => (entry.1, escapeEnvValue entry.2) := by
  have group (group : String × List String) (listed : group ∈ groups) :
      reads (builder.groupLines group) =
        (builder.groupEntries group.2).map fun entry => (entry.1, escapeEnvValue entry.2) := by
    unfold groupLines
    split
    case isTrue some =>
      exact reads_section (passive_groupLine group listed) fun entry inside =>
        named entry (mem_groupEntries.mp inside).2
    case isFalse none =>
      have nothing : builder.groupEntries group.2 = [] := by
        rw [List.eq_nil_iff_forall_not_mem]
        intro entry inside
        obtain ⟨grouped, stored⟩ := mem_groupEntries.mp inside
        refine none (List.any_eq_true.mpr ⟨entry.1, grouped, ?_⟩)
        rw [find_eq_some_iff.mpr stored]
        rfl
      rw [nothing]
      rfl
  have extra : reads builder.extraLines =
      builder.extras.map fun entry => (entry.1, escapeEnvValue entry.2) := by
    unfold extraLines
    split
    case isTrue none =>
      rw [none]
      rfl
    case isFalse some =>
      exact reads_section passive_otherLine fun entry inside =>
        named entry (mem_entries.mp (List.mem_append_right _ inside))
  have grouped (listed : List (String × List String)) (known : ∀ group ∈ listed, group ∈ groups) :
      reads (listed.flatMap builder.groupLines) =
        (listed.flatMap fun group => builder.groupEntries group.2).map
          fun entry => (entry.1, escapeEnvValue entry.2) := by
    induction listed with
    | nil => rfl
    | cons first rest ih =>
      have later := ih fun other inside => known other (List.mem_cons_of_mem first inside)
      rw [List.flatMap_cons, reads_append, group first (known first List.mem_cons_self), later,
        List.flatMap_cons, List.map_append]
  unfold lines entries
  rw [reads_append, reads_append, reads_of_passive (passive_headerLines time),
    grouped groups fun _ listed => listed, extra, List.nil_append, List.map_append]

/-- No written line has a line end in it when no line of a key has. -/
theorem not_mem_lines {character : Char} (ends : character ∈ breaks)
    (absent : ∀ entry ∈ builder.values, character ∉ (entryLine entry).toList) (time : DateTime) :
    ∀ line ∈ builder.lines time, character ∉ line.toList := by
  have grouped (group : String × List String) (listed : group ∈ groups) :
      ∀ line ∈ builder.groupLines group, character ∉ line.toList := by
    unfold groupLines
    split
    case isTrue some =>
      exact not_mem_section (passive_groupLine group listed) ends fun entry inside =>
        absent entry (mem_groupEntries.mp inside).2
    case isFalse none => exact List.forall_mem_nil _
  have extra : ∀ line ∈ builder.extraLines, character ∉ line.toList := by
    unfold extraLines
    split
    case isTrue none => exact List.forall_mem_nil _
    case isFalse some =>
      exact not_mem_section passive_otherLine ends fun entry inside =>
        absent entry (mem_entries.mp (List.mem_append_right _ inside))
  unfold lines
  rw [List.forall_mem_append, List.forall_mem_append]
  refine ⟨⟨fun line inside => (passive_headerLines time line inside).unbroken character ends, ?_⟩,
    extra⟩
  intro line inside
  obtain ⟨group, listed, made⟩ := List.mem_flatMap.mp inside
  exact grouped group listed line made

/-- The file is its lines, each ended by a line feed. -/
theorem write_eq (time : DateTime) : builder.write time =
    ['\n'].intercalate ((builder.lines time).map String.toList ++ [[]]) := by
  have some : builder.lines time ≠ [] :=
    List.append_ne_nil_of_left_ne_nil (List.append_ne_nil_of_left_ne_nil (List.cons_ne_nil _ _) _) _
  have ended : "\n".intercalate (builder.lines time) ++ "\n" =
      "\n".intercalate (builder.lines time ++ [""]) := by
    rw [String.intercalate_append_of_ne_nil some (List.cons_ne_nil "" []),
      String.intercalate_singleton, String.append_empty]
  unfold write
  rw [ended, String.toList_intercalate, List.map_append]
  rfl

/-- What a builder finds after a text was read is found among what was read of its lines. -/
theorem load_values (text : List Char) : (load text).values =
    (((newlines text).splitOn '\n').filterMap readLine).foldl
      (fun entries entry => VelaFlow.assign entries entry.1 entry.2) [] := by
  have folded (read : List (String × String)) (start : ConfigBuilder) :
      (read.foldl (fun builder entry => builder.assign entry.1 entry.2) start).values =
        read.foldl (fun entries entry => VelaFlow.assign entries entry.1 entry.2) start.values := by
    induction read generalizing start with
    | nil => rfl
    | cons entry rest ih => exact ih (start.assign entry.1 entry.2)
  exact folded _ empty

/-- A builder that reads the file finds each key with its value escaped, when no value has a
carriage return. -/
theorem find_load_write (named : ∀ entry ∈ builder.values, IsName entry.1)
    (plain : ∀ entry ∈ builder.values, '\r' ∉ entry.2.toList) (time : DateTime) (key : String) :
    (load (builder.write time)).find key = (builder.find key).map escapeEnvValue := by
  have lineFeed : ∀ line ∈ builder.lines time, '\n' ∉ line.toList :=
    not_mem_lines (by decide) (fun entry stored => not_mem_entryLine (named entry stored) (by decide)
      (lineFeed_not_mem_escapeEnvValue entry.2)) time
  have carriage : ∀ line ∈ builder.lines time, '\r' ∉ line.toList :=
    not_mem_lines (by decide) (fun entry stored => not_mem_entryLine (named entry stored) (by decide)
      (return_not_mem_escapeEnvValue (plain entry stored))) time
  have text : newlines (builder.write time) = builder.write time := by
    rw [newlines_eq_self_iff, write_eq]
    intro inside
    rcases mem_intercalate inside with is | ⟨piece, listed, has⟩
    · cases is
    · rcases List.mem_append.mp listed with written | last
      · obtain ⟨line, made, rfl⟩ := List.mem_map.mp written
        exact carriage line made has
      · rw [List.mem_singleton.mp last] at has
        cases has
  have pieces : (builder.write time).splitOn '\n' =
      (builder.lines time).map String.toList ++ [[]] := by
    rw [write_eq]
    apply List.splitOn_intercalate
    · refine List.forall_mem_append.mpr ⟨List.forall_mem_map.mpr lineFeed, ?_⟩
      exact List.forall_mem_singleton.mpr List.not_mem_nil
    · exact List.append_ne_nil_of_right_ne_nil _ (List.cons_ne_nil [] [])
  have read : ((newlines (builder.write time)).splitOn '\n').filterMap readLine =
      builder.entries.map fun entry => (entry.1, escapeEnvValue entry.2) := by
    have last : [([] : List Char)].filterMap readLine = [] := rfl
    rw [text, pieces, List.filterMap_append, last, List.append_nil]
    exact reads_lines named time
  let escapedOf (key : String) := escapeEnvValue ((builder.find key).getD "")
  have each : ∀ entry ∈ builder.entries.map fun entry => (entry.1, escapeEnvValue entry.2),
      entry.2 = escapedOf entry.1 := by
    refine List.forall_mem_map.mpr fun entry inside => ?_
    dsimp only [escapedOf]
    rw [find_eq_some_iff.mpr (mem_entries.mp inside)]
    rfl
  have keys : (builder.entries.map fun entry => (entry.1, escapeEnvValue entry.2)).map Prod.fst =
      builder.entries.map Prod.fst := by
    rw [List.map_map]
    rfl
  unfold find
  rw [load_values, read, lookup_foldl_assign each, keys]
  cases found : builder.values.lookup key with
  | none =>
    refine if_neg fun inside => ?_
    obtain ⟨entry, written, rfl⟩ := List.mem_map.mp inside
    exact not_mem_of_lookup found (List.mem_map_of_mem (mem_entries.mp written))
  | some value =>
    have inside : key ∈ builder.entries.map Prod.fst :=
      List.mem_map.mpr ⟨(key, value), mem_entries.mpr (mem_of_lookup found), rfl⟩
    have known : builder.find key = some value := found
    rw [if_pos inside]
    dsimp only [escapedOf]
    rw [known]
    rfl

/-- What is read of a line lies in it. -/
theorem mem_of_readLine {line : List Char} {entry : String × String}
    (read : readLine line = some entry) {character : Char} (inside : character ∈ entry.2.toList) :
    character ∈ line := by
  have stripped (text : List Char) (member : character ∈ strip text) : character ∈ text := by
    unfold strip at member
    rw [List.mem_reverse] at member
    have within := (List.dropWhile_sublist _).subset member
    rw [List.mem_reverse] at within
    exact (List.dropWhile_sublist _).subset within
  have unquoted (text : List Char) (member : character ∈ unquote text) : character ∈ text := by
    unfold unquote at member
    split at member
    · exact List.mem_of_mem_tail (List.mem_of_mem_dropLast member)
    · exact member
  unfold readLine at read
  dsimp only at read
  split at read
  case isTrue whole =>
    obtain rfl := Option.some.inj read
    rw [String.toList_ofList] at inside
    have within := List.mem_of_mem_tail (stripped _ (unquoted _ inside))
    exact stripped line ((List.dropWhile_sublist _).subset within)
  case isFalse none => cases read

/-- No builder reads a carriage return. -/
theorem return_not_mem_load (text : List Char) :
    ∀ entry ∈ (load text).values, '\r' ∉ entry.2.toList := by
  have assigned (read : List (String × String)) (plain : ∀ entry ∈ read, '\r' ∉ entry.2.toList)
      (start : List (String × String)) (before : ∀ entry ∈ start, '\r' ∉ entry.2.toList) :
      ∀ entry ∈ read.foldl (fun entries entry => VelaFlow.assign entries entry.1 entry.2) start,
        '\r' ∉ entry.2.toList := by
    induction read generalizing start with
    | nil => exact before
    | cons first rest ih =>
      refine ih (fun entry later => plain entry (List.mem_cons_of_mem first later)) _ ?_
      intro entry member
      rcases mem_assign member with rfl | stays
      · exact plain first List.mem_cons_self
      · exact before entry stays
  rw [load_values]
  refine assigned _ ?_ [] (List.forall_mem_nil _)
  intro entry read inside
  obtain ⟨line, listed, made⟩ := List.mem_filterMap.mp read
  have inLine := mem_of_readLine made inside
  have inText : '\r' ∈ ['\n'].intercalate ((newlines text).splitOn '\n') :=
    mem_intercalate_of_mem listed inLine
  rw [List.intercalate_splitOn] at inText
  exact not_mem_newlines text inText

/-- The characters that a value loses or gains in an installer run. -/
def specials : List Char := '\r' :: escaped

/-- Builders that find the same hold the same entries. -/
theorem mem_values_of_find {other : ConfigBuilder}
    (same : ∀ key, other.find key = builder.find key) {entry : String × String} :
    entry ∈ other.values ↔ entry ∈ builder.values := by
  rw [← find_eq_some_iff, same, find_eq_some_iff]

/-- One installer run keeps every value exactly when none has a special character. -/
theorem find_load_write_eq_iff (named : ∀ entry ∈ builder.values, IsName entry.1)
    (time : DateTime) : (∀ key, (load (builder.write time)).find key = builder.find key) ↔
      ∀ entry ∈ builder.values, ∀ character ∈ specials, character ∉ entry.2.toList := by
  constructor
  · intro same
    have plain : ∀ entry ∈ builder.values, '\r' ∉ entry.2.toList := fun entry stored =>
      return_not_mem_load (builder.write time) entry ((mem_values_of_find same).mpr stored)
    intro entry stored
    refine List.forall_mem_cons.mpr ⟨plain entry stored, ?_⟩
    have kept := same entry.1
    rw [find_load_write named plain, find_eq_some_iff.mpr stored] at kept
    exact (escapeEnvValue_eq_self_iff entry.2).mp (Option.some.inj kept)
  · intro plain key
    rw [find_load_write named fun entry stored => plain entry stored '\r' List.mem_cons_self]
    cases found : builder.find key with
    | none => rfl
    | some value =>
      have special := plain (key, value) (find_eq_some_iff.mp found)
      have unchanged := (escapeEnvValue_eq_self_iff value).mpr fun character inside =>
        special character (List.mem_cons_of_mem '\r' inside)
      exact congrArg some unchanged

/-- One run writes the file and reads it. -/
theorem after_singleton (builder : ConfigBuilder) (time : DateTime) :
    builder.after [time] = load (builder.write time) := rfl

/-- Any number of installer runs that change nothing leave every value as it is exactly when no
value has a carriage return or a character that the writer escapes. -/
theorem find_after_eq_iff (named : ∀ entry ∈ builder.values, IsName entry.1) :
    (∀ times key, (builder.after times).find key = builder.find key) ↔
      ∀ entry ∈ builder.values, ∀ character ∈ specials, character ∉ entry.2.toList := by
  constructor
  · intro same
    have once := same [DateTime.newYear]
    rw [after_singleton] at once
    exact (find_load_write_eq_iff named DateTime.newYear).mp once
  · intro plain times
    induction times using List.reverseRecOn with
    | nil => exact fun key => rfl
    | append_singleton earlier time ih =>
      have stored {entry : String × String} : entry ∈ (builder.after earlier).values ↔
          entry ∈ builder.values := mem_values_of_find ih
      have names : ∀ entry ∈ (builder.after earlier).values, IsName entry.1 :=
        fun entry inside => named entry (stored.mp inside)
      have run := (find_load_write_eq_iff names time).mpr
        fun entry inside => plain entry (stored.mp inside)
      intro key
      have last : builder.after (earlier ++ [time]) = load ((builder.after earlier).write time) :=
        List.foldl_concat _ _ _ _
      rw [last, run, ih]

/-- A configuration of a grouped key and another. -/
def sample : ConfigBuilder := (empty.set "SMTP_HOST" "smtp.example.org").set "MY_KEY" "a=b c"

/-- A text is a name when its characters are. -/
theorem isName_of_all {name : String} (opens : (name.toList.head?.any capitals.contains) = true)
    (characters : name.toList.all nameCharacters.contains = true) : IsName name := by
  refine ⟨?_, fun character inside => ?_⟩
  · obtain ⟨first, isFirst, capital⟩ := (Option.any_eq_true _ _).mp opens
    exact ⟨first, isFirst, List.contains_iff_mem.mp capital⟩
  · exact List.contains_iff_mem.mp (List.all_eq_true.mp characters character inside)

/-- The keys of the sample are names. -/
theorem named_sample : ∀ entry ∈ sample.values, IsName entry.1 := by
  have values : sample.values = [("SMTP_HOST", "smtp.example.org"), ("MY_KEY", "a=b c")] := by
    decide +kernel
  rw [values, List.forall_mem_cons, List.forall_mem_singleton]
  exact ⟨isName_of_all (by decide +kernel) (by decide +kernel),
    isName_of_all (by decide +kernel) (by decide +kernel)⟩

/-- The sample is kept. -/
theorem find_after_sample :
    (∀ times key, (sample.after times).find key = sample.find key) ↔
      ∀ entry ∈ sample.values, ∀ character ∈ specials, character ∉ entry.2.toList :=
  find_after_eq_iff named_sample

/-- A configuration whose password has a quote. -/
def quoted : ConfigBuilder := empty.set "SMTP_PASSWORD" "p\"w"

/-- The password is read with the backslash that the writer set before the quote. -/
theorem password_changed :
    quoted.find "SMTP_PASSWORD" = some "p\"w" ∧
      (quoted.after [DateTime.newYear]).find "SMTP_PASSWORD" = some "p\\\"w" := by
  have values : quoted.values = [("SMTP_PASSWORD", "p\"w")] := by decide +kernel
  have named : ∀ entry ∈ quoted.values, IsName entry.1 := by
    rw [values, List.forall_mem_singleton]
    exact isName_of_all (by decide +kernel) (by decide +kernel)
  have plain : ∀ entry ∈ quoted.values, '\r' ∉ entry.2.toList := by
    rw [values, List.forall_mem_singleton]
    decide +kernel
  have held : quoted.find "SMTP_PASSWORD" = some "p\"w" := by decide +kernel
  have read := find_load_write named plain DateTime.newYear "SMTP_PASSWORD"
  have escaping : escapeEnvValue "p\"w" = "p\\\"w" := by decide +kernel
  rw [held, Option.map_some, escaping] at read
  rw [after_singleton]
  exact ⟨held, read⟩

end ConfigBuilder

end Files

end VelaFlow.Installer
