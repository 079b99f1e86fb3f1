import Mathlib.Data.List.Basic

/-!
# Python exceptions and text

The exceptions the modelled code raises, each with its message, and the `str` operations it
uses. White space is what `str.isspace`, `str.strip` and the `\s` of `re` agree on.
-/
namespace VelaFlow

/-- An exception that `except Exception` catches. -/
inductive PyException where
  /-- `ValueError`. -/
  | valueError (message : String)
  /-- `KeyError`, with the missing key. -/
  | keyError (key : String)
  /-- `TypeError`. -/
  | typeError (message : String)
  /-- `RuntimeError`. -/
  | runtimeError (message : String)
  /-- `PermissionError`. -/
  | permissionError (message : String)
  /-- `ImportError`. -/
  | importError (message : String)
  /-- `CredentialNotDecryptable`. -/
  | credentialNotDecryptable (message : String)
  /-- Any other exception of a library, by its class and message. -/
  | other (className message : String)
  deriving DecidableEq, Repr

/-- `str(exception)`. -/
def PyException.text : PyException → String
  | valueError message | keyError message | typeError message | runtimeError message
  | permissionError message | importError message | credentialNotDecryptable message
  | other _ message => message

/-- A sequence returns when both its parts do. -/
theorem bind_ok_iff {ε α β : Type} {first : Except ε α} {rest : α → Except ε β} {value : β} :
    (first >>= rest) = .ok value ↔ ∃ one, first = .ok one ∧ rest one = .ok value := by
  cases first with
  | error exception =>
    constructor
    · intro same
      cases same
    · rintro ⟨one, same, -⟩
      cases same
  | ok one =>
    constructor
    · exact fun same => ⟨one, rfl, same⟩
    · rintro ⟨_, is, same⟩
      cases is
      exact same

/-- A list is mapped when its first element and its others are. -/
theorem mapM_cons_ok_iff {α β : Type} {function : α → Except PyException β} {first : α}
    {rest : List α} {results : List β} : (first :: rest).mapM function = .ok results ↔
      ∃ one more, function first = .ok one ∧ rest.mapM function = .ok more ∧
        results = one :: more := by
  rw [List.mapM_cons, bind_ok_iff]
  constructor
  · rintro ⟨one, isOne, later⟩
    obtain ⟨more, isMore, result⟩ := bind_ok_iff.mp later
    cases result
    exact ⟨one, more, isOne, isMore, rfl⟩
  · rintro ⟨one, more, isOne, isMore, rfl⟩
    exact ⟨one, isOne, bind_ok_iff.mpr ⟨more, isMore, rfl⟩⟩

/-- A list is mapped to the results of its elements. -/
theorem mapM_eq_map {α β : Type} {function : α → Except PyException β} {value : α → β}
    {items : List α} (each : ∀ item ∈ items, function item = .ok (value item)) :
    items.mapM function = .ok (items.map value) := by
  induction items with
  | nil => rfl
  | cons item rest ih =>
    have later := ih fun other inside => each other (List.mem_cons_of_mem item inside)
    exact mapM_cons_ok_iff.mpr ⟨_, _, each item List.mem_cons_self, later, rfl⟩

/-- A list is mapped when each of its elements is. -/
theorem mapM_ok_exists_iff {α β : Type} {function : α → Except PyException β} {items : List α} :
    (∃ results, items.mapM function = .ok results) ↔
      ∀ item ∈ items, ∃ result, function item = .ok result := by
  induction items with
  | nil => exact iff_of_true ⟨[], rfl⟩ fun _ nothing => absurd nothing List.not_mem_nil
  | cons item rest ih =>
    rw [List.forall_mem_cons, ← ih]
    constructor
    · rintro ⟨results, mapped⟩
      obtain ⟨one, more, isOne, areMore, -⟩ := mapM_cons_ok_iff.mp mapped
      exact ⟨⟨one, isOne⟩, more, areMore⟩
    · rintro ⟨⟨one, isOne⟩, more, areMore⟩
      exact ⟨one :: more, mapM_cons_ok_iff.mpr ⟨one, more, isOne, areMore, rfl⟩⟩

/-- What each result has of its element, the results have of the elements. -/
theorem map_of_mapM {α β γ : Type} {function : α → Except PyException β} {items : List α}
    {results : List β} (mapped : items.mapM function = .ok results) {value : β → γ} {other : α → γ}
    (each : ∀ item result, function item = .ok result → value result = other item) :
    results.map value = items.map other := by
  induction items generalizing results with
  | nil =>
    cases mapped
    rfl
  | cons item rest ih =>
    obtain ⟨one, more, isOne, areMore, rfl⟩ := mapM_cons_ok_iff.mp mapped
    rw [List.map_cons, List.map_cons, each item one isOne, ih areMore]

/-- As many results as elements. -/
theorem length_mapM {α β : Type} {function : α → Except PyException β} {items : List α}
    {results : List β} (mapped : items.mapM function = .ok results) :
    results.length = items.length := by
  induction items generalizing results with
  | nil =>
    cases mapped
    rfl
  | cons item rest ih =>
    obtain ⟨one, more, -, areMore, rfl⟩ := mapM_cons_ok_iff.mp mapped
    rw [List.length_cons, List.length_cons, ih areMore]

/-- The first result that is selected is that of the first element that is chosen, when results are
selected as their elements are chosen. -/
theorem find?_of_mapM {α β : Type} {function : α → Except PyException β} {items : List α}
    {results : List β} (mapped : items.mapM function = .ok results) {select : β → Bool}
    {choose : α → Bool} (each : ∀ item result, function item = .ok result →
      select result = choose item) :
    (items.find? choose = none → results.find? select = none) ∧
      ∀ item, items.find? choose = some item → ∃ result, function item = .ok result ∧
        results.find? select = some result := by
  induction items generalizing results with
  | nil =>
    cases mapped
    exact ⟨fun _ => rfl, fun item found => by cases found⟩
  | cons first rest ih =>
    obtain ⟨one, more, isOne, areMore, rfl⟩ := mapM_cons_ok_iff.mp mapped
    have level := each first one isOne
    have later := ih areMore
    rw [List.find?_cons, List.find?_cons, level]
    cases chosen : choose first with
    | false => exact later
    | true =>
      refine ⟨fun nothing => (by cases nothing), fun item found => ?_⟩
      cases found
      exact ⟨one, isOne, rfl⟩

/-- The characters of Python's white space. -/
def isSpace (character : Char) : Bool :=
  let code := character.toNat
  (9 ≤ code && code ≤ 13) || (28 ≤ code && code ≤ 32) || code == 0x85 || code == 0xA0 ||
    code == 0x1680 || (0x2000 ≤ code && code ≤ 0x200A) || code == 0x2028 || code == 0x2029 ||
    code == 0x202F || code == 0x205F || code == 0x3000

/-- `str.strip()`. -/
def strip (text : List Char) : List Char :=
  ((text.dropWhile isSpace).reverse.dropWhile isSpace).reverse

/-- A text that begins and ends with no white space has nothing to strip. -/
theorem strip_eq_self {text : List Char} (opens : ∀ first ∈ text.head?, isSpace first = false)
    (closes : ∀ last ∈ text.getLast?, isSpace last = false) : strip text = text := by
  have left : text.dropWhile isSpace = text := by
    cases text with
    | nil => rfl
    | cons first rest => exact List.dropWhile_cons_of_neg (by simp [opens first rfl])
  have right : text.reverse.dropWhile isSpace = text.reverse := by
    cases reversed : text.reverse with
    | nil => rfl
    | cons last rest =>
      apply List.dropWhile_cons_of_neg
      have is : text.getLast? = some last := by
        rw [← List.head?_reverse, reversed]
        rfl
      simp [closes last is]
  unfold strip
  rw [left, right, List.reverse_reverse]

/-- A white space at the end is stripped. -/
theorem strip_concat {last : Char} (space : isSpace last = true) (text : List Char) :
    strip (text ++ [last]) = strip text := by
  unfold strip
  rw [List.dropWhile_append]
  cases left : text.dropWhile isSpace with
  | nil => simp [space]
  | cons first rest => simp [space]

/-- What is joined begins as its first part does. -/
theorem head?_intercalate (separator : Char) {first : List Char} (some : first ≠ [])
    (rest : List (List Char)) : ([separator].intercalate (first :: rest)).head? = first.head? := by
  cases first with
  | nil => exact absurd rfl some
  | cons character more =>
    cases rest with
    | nil => simp
    | cons second others => simp [List.intercalate_cons_of_ne_nil]

/-- Every character of what is joined is the separator or comes from a part. -/
theorem mem_intercalate {mark : Char} {parts : List (List Char)} {character : Char}
    (member : character ∈ [mark].intercalate parts) :
    character = mark ∨ ∃ part ∈ parts, character ∈ part := by
  induction parts with
  | nil => cases member
  | cons first rest ih =>
    cases rest with
    | nil =>
      rw [List.intercalate_singleton] at member
      exact Or.inr ⟨first, List.mem_cons_self, member⟩
    | cons second others =>
      rw [List.intercalate_cons_cons, List.append_assoc, List.mem_append, List.singleton_append,
        List.mem_cons] at member
      rcases member with here | separates | later
      · exact Or.inr ⟨first, List.mem_cons_self, here⟩
      · exact Or.inl separates
      · rcases ih later with separates | ⟨part, inside, has⟩
        · exact Or.inl separates
        · exact Or.inr ⟨part, List.mem_cons_of_mem first inside, has⟩

/-- Every character of a part is in what is joined. -/
theorem mem_intercalate_of_mem {mark : Char} {parts : List (List Char)} {part : List Char}
    (listed : part ∈ parts) {character : Char} (inside : character ∈ part) :
    character ∈ [mark].intercalate parts := by
  induction parts with
  | nil => cases listed
  | cons first rest ih =>
    cases rest with
    | nil =>
      rw [List.intercalate_singleton, ← List.mem_singleton.mp listed]
      exact inside
    | cons second others =>
      rw [List.intercalate_cons_cons, List.append_assoc]
      rcases List.mem_cons.mp listed with rfl | later
      · exact List.mem_append_left _ inside
      · exact List.mem_append_right _ (List.mem_append_right _ (ih later))

/-- What stands before and after the first mark is known from the whole. -/
theorem append_mark_inj {mark : Char} {first second : List Char} (freeFirst : mark ∉ first)
    (freeSecond : mark ∉ second) {left right : List Char}
    (same : first ++ mark :: left = second ++ mark :: right) : first = second ∧ left = right := by
  induction first generalizing second with
  | nil =>
    cases second with
    | nil => exact ⟨rfl, (List.cons.inj same).2⟩
    | cons character rest =>
      obtain ⟨is, -⟩ := List.cons.inj same
      exact absurd (is ▸ List.mem_cons_self) freeSecond
  | cons character rest ih =>
    cases second with
    | nil =>
      obtain ⟨is, -⟩ := List.cons.inj same
      exact absurd (is ▸ List.mem_cons_self) freeFirst
    | cons other more =>
      obtain ⟨rfl, tails⟩ := List.cons.inj same
      obtain ⟨rfl, rest⟩ := ih (fun inside => freeFirst (List.mem_cons_of_mem _ inside))
        (fun inside => freeSecond (List.mem_cons_of_mem _ inside)) tails
      exact ⟨rfl, rest⟩

/-- `" ".join(parts)`. -/
def joinSpace (parts : List String) : String := " ".intercalate parts

end VelaFlow
