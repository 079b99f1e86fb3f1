import VelaFlow.Foundation.Python

/-!
# Storage paths

How `LocalStorageBackend._resolve` reads a relative key, as `pathlib` splits it: on slashes, a
backslash counting as one, without empty parts and single dots, and refusing `..`. A path is a
list of such parts, so no other path exists. Absolute keys are left out: every key of the
modelled code starts with a fixed name.
-/
namespace VelaFlow.Storage

/-- Splits a text at its slashes. -/
def segments : List Char → List (List Char)
  | [] => [[]]
  | character :: rest =>
    if character = '/' then [] :: segments rest
    else
      match segments rest with
      | [] => [[character]]
      | first :: others => (character :: first) :: others

/-- `key.replace("\\", "/")`. -/
def forwardSlashes (key : String) : List Char :=
  key.toList.map fun character => if character = '\\' then '/' else character

/-- Whether `pathlib` keeps a part. -/
def keeps (part : List Char) : Bool := decide (part ≠ []) && decide (part ≠ ['.'])

/-- `Path(key).parts` of a relative key. -/
def keyParts (key : String) : List (List Char) := (segments (forwardSlashes key)).filter keeps

/-- What can be a part of a path. -/
def IsPart (part : List Char) : Prop :=
  part ≠ [] ∧ part ≠ ['.'] ∧ part ≠ ['.', '.'] ∧ '/' ∉ part ∧ '\\' ∉ part

instance : DecidablePred IsPart := fun _ => by unfold IsPart; infer_instance

/-- A path below the base directory. -/
@[ext] structure Path where
  /-- Its parts, the outermost directory first. -/
  parts : List (List Char)
  /-- Every part can be one. -/
  areParts : ∀ part ∈ parts, IsPart part
  deriving DecidableEq

/-- A text has at least one segment. -/
theorem segments_ne_nil (text : List Char) : segments text ≠ [] := by
  cases text with
  | nil => simp [segments]
  | cons character rest =>
    unfold segments
    split
    · simp
    · split <;> simp

/-- A slash separates segments. -/
theorem segments_append_slash (first second : List Char) :
    segments (first ++ '/' :: second) = segments first ++ segments second := by
  induction first with
  | nil => simp [segments]
  | cons character rest ih =>
    by_cases slash : character = '/'
    · simp [segments, slash, ih]
    · simp only [List.cons_append, segments, slash, if_false, ih]
      cases split : segments rest with
      | nil => exact absurd split (segments_ne_nil rest)
      | cons head tail => simp

/-- A text without a slash is one segment. -/
theorem segments_of_not_mem {text : List Char} (plain : '/' ∉ text) : segments text = [text] := by
  induction text with
  | nil => rfl
  | cons character rest ih =>
    have notSlash : character ≠ '/' := fun same => plain (by simp [same])
    have restPlain : '/' ∉ rest := fun inside => plain (List.mem_cons_of_mem character inside)
    simp [segments, notSlash, ih restPlain]

/-- No segment has a slash. -/
theorem slash_not_mem_segments {text segment : List Char} (member : segment ∈ segments text) :
    '/' ∉ segment := by
  induction text generalizing segment with
  | nil =>
    obtain rfl := List.mem_singleton.mp member
    exact List.not_mem_nil
  | cons character rest ih =>
    unfold segments at member
    split at member
    case isTrue slash =>
      rcases List.mem_cons.mp member with rfl | inside
      · exact List.not_mem_nil
      · exact ih inside
    case isFalse other =>
      split at member
      case h_1 empty => exact absurd empty (segments_ne_nil rest)
      case h_2 head tail shape =>
        rw [shape] at ih
        rcases List.mem_cons.mp member with rfl | inside
        · intro slash
          rcases List.mem_cons.mp slash with same | inHead
          · exact other same.symm
          · exact ih List.mem_cons_self inHead
        · exact ih (List.mem_cons_of_mem head inside)

/-- Every character of a segment comes from the text. -/
theorem mem_of_mem_segments {text segment : List Char} (member : segment ∈ segments text)
    {character : Char} (inside : character ∈ segment) : character ∈ text := by
  induction text generalizing segment with
  | nil =>
    obtain rfl := List.mem_singleton.mp member
    exact inside
  | cons first rest ih =>
    unfold segments at member
    split at member
    case isTrue slash =>
      rcases List.mem_cons.mp member with rfl | later
      · cases inside
      · exact List.mem_cons_of_mem first (ih later inside)
    case isFalse other =>
      split at member
      case h_1 empty => exact absurd empty (segments_ne_nil rest)
      case h_2 head tail shape =>
        rw [shape] at ih
        rcases List.mem_cons.mp member with rfl | later
        · rcases List.mem_cons.mp inside with rfl | inHead
          · exact List.mem_cons_self
          · exact List.mem_cons_of_mem first (ih List.mem_cons_self inHead)
        · exact List.mem_cons_of_mem first (ih (List.mem_cons_of_mem head later) inside)

/-- What follows the last slash of a text is part of its last segment. -/
theorem segments_append_of_not_mem (text : List Char) {suffix : List Char}
    (plain : '/' ∉ suffix) :
    ∃ before last, segments (text ++ suffix) = before ++ [last ++ suffix] := by
  induction text with
  | nil => exact ⟨[], [], by simp [segments_of_not_mem plain]⟩
  | cons character rest ih =>
    obtain ⟨before, last, shape⟩ := ih
    by_cases slash : character = '/'
    · exact ⟨[] :: before, last, by simp [segments, slash, shape]⟩
    · cases before with
      | nil => exact ⟨[], character :: last, by simp [segments, slash, shape]⟩
      | cons head tail => exact ⟨(character :: head) :: tail, last, by simp [segments, slash, shape]⟩

/-- Every part of a key but `..` can be a part of a path. -/
theorem isPart_of_mem_keyParts {key : String} {part : List Char} (member : part ∈ keyParts key)
    (up : part ≠ ['.', '.']) : IsPart part := by
  obtain ⟨inside, kept⟩ := List.mem_filter.mp member
  simp only [keeps, Bool.and_eq_true, decide_eq_true_eq] at kept
  refine ⟨kept.1, kept.2, up, slash_not_mem_segments inside, ?_⟩
  intro backslash
  obtain ⟨character, -, same⟩ := List.mem_map.mp (mem_of_mem_segments inside backslash)
  split at same
  · cases same
  · case isFalse other => exact other same

/-- `_resolve` of a relative key. -/
def resolve (key : String) : Except PyException Path :=
  if up : ['.', '.'] ∈ keyParts key then
    .error (.valueError ("Path traversal detected: " ++ key))
  else
    .ok ⟨keyParts key, fun _ member =>
      isPart_of_mem_keyParts member fun same => up (same ▸ member)⟩

/-- `str(path.relative_to(self._base))`. -/
def Path.toKey (path : Path) : String :=
  String.ofList (['/'].intercalate path.parts)

/-- The parts of a key with a slash are those on both its sides. -/
theorem keyParts_append_slash (first second : String) :
    keyParts (first ++ "/" ++ second) = keyParts first ++ keyParts second := by
  have split : forwardSlashes (first ++ "/" ++ second) =
      forwardSlashes first ++ '/' :: forwardSlashes second := by
    simp [forwardSlashes]
  rw [keyParts, split, segments_append_slash, List.filter_append]
  rfl

/-- A name that can be a part is the only part of its key. -/
theorem keyParts_of_isPart {name : String} (part : IsPart name.toList) :
    keyParts name = [name.toList] := by
  obtain ⟨nonempty, notDot, -, plain, noBackslash⟩ := part
  have same : forwardSlashes name = name.toList := by
    unfold forwardSlashes
    rw [List.map_congr_left (g := id), List.map_id]
    intro character member
    have other : character ≠ '\\' := fun is => noBackslash (is ▸ member)
    simp [other]
  rw [keyParts, same, segments_of_not_mem plain]
  simp [keeps, nonempty, notDot]

/-- A key resolves to its parts when none is `..`. -/
theorem resolve_eq_ok {key : String} {path : Path} (same : keyParts key = path.parts) :
    resolve key = .ok path := by
  have down : ['.', '.'] ∉ keyParts key := by
    rw [same]
    intro up
    exact (path.areParts _ up).2.2.1 rfl
  unfold resolve
  rw [dif_neg down]
  congr 1
  exact Path.ext same

/-- What a key resolves to has its parts. -/
theorem parts_of_resolve {key : String} {path : Path} (resolved : resolve key = .ok path) :
    path.parts = keyParts key := by
  unfold resolve at resolved
  split at resolved
  · cases resolved
  · obtain rfl := Except.ok.inj resolved
    rfl

/-- Joining parts with slashes and splitting there gives the parts. -/
theorem segments_intercalate {parts : List (List Char)} (some : parts ≠ [])
    (plain : ∀ part ∈ parts, '/' ∉ part) : segments (['/'].intercalate parts) = parts := by
  induction parts with
  | nil => exact absurd rfl some
  | cons first rest ih =>
    have firstPlain := plain first List.mem_cons_self
    cases rest with
    | nil => simpa [List.intercalate] using segments_of_not_mem firstPlain
    | cons second others =>
      have later := ih (by simp) (fun part member => plain part (List.mem_cons_of_mem first member))
      have joined : ['/'].intercalate (first :: second :: others) =
          first ++ '/' :: ['/'].intercalate (second :: others) := by
        simp [List.intercalate, List.intersperse]
      rw [joined, segments_append_slash, segments_of_not_mem firstPlain, later]
      rfl

/-- The key of a path resolves to the path. -/
theorem resolve_toKey (path : Path) : resolve path.toKey = .ok path := by
  apply resolve_eq_ok
  have noBackslash : ∀ character ∈ ['/'].intercalate path.parts, character ≠ '\\' := by
    intro character member same
    subst same
    rcases mem_intercalate member with slash | ⟨part, inside, has⟩
    · cases slash
    · exact (path.areParts part inside).2.2.2.2 has
  have same : forwardSlashes path.toKey = ['/'].intercalate path.parts := by
    unfold forwardSlashes Path.toKey
    rw [String.toList_ofList, List.map_congr_left (g := id), List.map_id]
    intro character member
    simp [noBackslash character member]
  have kept : path.parts.filter keeps = path.parts := by
    rw [List.filter_eq_self]
    intro part member
    have isPart := path.areParts part member
    simp [keeps, isPart.1, isPart.2.1]
  rw [keyParts, same]
  by_cases empty : path.parts = []
  · rw [empty]
    rfl
  · rw [segments_intercalate empty (fun part member => (path.areParts part member).2.2.2.1), kept]

end VelaFlow.Storage
