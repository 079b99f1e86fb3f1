import VelaFlow.Foundation.Filesystem
import VelaFlow.Storage.Path

/-!
# Paths as `pathlib` reads them

A POSIX path is its leading slashes and its parts. Empty parts and single dots are dropped and `..`
is kept, as it may lead through a link. Two leading slashes are told from one, as POSIX leaves their
meaning open. `os.path.abspath` starts at the working directory and drops a part for each `..`.
-/
namespace VelaFlow.Storage

/-- What can be the name of a file. -/
def IsFileName (name : List Char) : Prop :=
  name ≠ [] ∧ name ≠ ['.'] ∧ name ≠ ['.', '.'] ∧ '/' ∉ name

instance : DecidablePred IsFileName := fun _ => by unfold IsFileName; infer_instance

/-- The name of a file. -/
abbrev FileName := {name : List Char // IsFileName name}

/-- The step a part of a path stands for. -/
def step? (part : List Char) : Option (PathStep FileName) :=
  if named : IsFileName part then some (.down ⟨part, named⟩)
  else if part = ['.', '.'] then some .up
  else none

/-- The part that stands for a step. -/
def stepText : PathStep FileName → List Char
  | .up => ['.', '.']
  | .down name => name.val

/-- The slashes a path starts with. -/
inductive Anchor where
  /-- None: the path is relative. -/
  | relative
  /-- One, or three and more. -/
  | slash
  /-- Two. -/
  | slashes
  deriving DecidableEq

/-- The slashes of an anchor. -/
def Anchor.text : Anchor → List Char
  | .relative => []
  | .slash => ['/']
  | .slashes => ['/', '/']

/-- The anchor of a text. -/
def anchorOf : List Char → Anchor
  | '/' :: '/' :: '/' :: _ => .slash
  | '/' :: '/' :: _ => .slashes
  | '/' :: _ => .slash
  | _ => .relative

/-- A `PurePosixPath`. -/
structure PurePath where
  /-- Its root. -/
  anchor : Anchor
  /-- Its parts after the root. -/
  steps : List (PathStep FileName)
  deriving DecidableEq

namespace PurePath

/-- `Path(text)`. -/
def parse (text : List Char) : PurePath := ⟨anchorOf text, (segments text).filterMap step?⟩

/-- `str(path)`. -/
def text (path : PurePath) : List Char :=
  if path.anchor = .relative ∧ path.steps = [] then ['.']
  else path.anchor.text ++ ['/'].intercalate (path.steps.map stepText)

/-- `path / other`. -/
def join (path other : PurePath) : PurePath :=
  if other.anchor = .relative then ⟨path.anchor, path.steps ++ other.steps⟩ else other

/-- `path.parent`. -/
def parent (path : PurePath) : PurePath := ⟨path.anchor, path.steps.dropLast⟩

/-- `".." in path.parts`. -/
def climbs (path : PurePath) : Bool := decide (.up ∈ path.steps)

/-- The part of a step stands for the step. -/
theorem step?_stepText (step : PathStep FileName) : step? (stepText step) = some step := by
  cases step with
  | up => rfl
  | down name => exact dif_pos name.property

/-- The part of a step has no slash and is not empty. -/
theorem stepText_plain (step : PathStep FileName) :
    '/' ∉ stepText step ∧ stepText step ≠ [] := by
  cases step with
  | up => exact ⟨by decide, List.cons_ne_nil _ _⟩
  | down name => exact ⟨name.property.2.2.2, name.property.1⟩

/-- Joined parts are read as their steps. -/
theorem steps_intercalate (steps : List (PathStep FileName)) :
    (segments (['/'].intercalate (steps.map stepText))).filterMap step? = steps := by
  cases steps with
  | nil => rfl
  | cons step rest =>
    have parts : segments (['/'].intercalate ((step :: rest).map stepText)) =
        (step :: rest).map stepText := by
      apply segments_intercalate (List.cons_ne_nil _ _)
      intro part member
      change part ∈ (step :: rest).map stepText at member
      obtain ⟨other, -, rfl⟩ := List.mem_map.mp member
      exact (stepText_plain other).1
    rw [parts, List.filterMap_map]
    have same : step? ∘ stepText = some := funext step?_stepText
    rw [same, List.filterMap_some]

/-- Joined parts start with no slash. -/
theorem intercalate_head (steps : List (PathStep FileName)) :
    ∀ first ∈ (['/'].intercalate (steps.map stepText)).head?, first ≠ '/' := by
  cases steps with
  | nil => exact fun first member => nomatch member
  | cons step rest =>
    obtain ⟨plain, nonempty⟩ := stepText_plain step
    cases part : stepText step with
    | nil => exact absurd part nonempty
    | cons character others =>
      rw [part] at plain
      have front : (['/'].intercalate ((step :: rest).map stepText)).head? = some character := by
        rw [List.map_cons, part]
        cases rest <;> rfl
      intro first member same
      rw [front] at member
      obtain rfl := Option.some.inj member
      exact plain (same ▸ List.mem_cons_self)

/-- The slashes before what starts with none are its anchor. -/
theorem anchorOf_text (anchor : Anchor) {rest : List Char}
    (plain : ∀ first ∈ rest.head?, first ≠ '/') :
    anchorOf (anchor.text ++ rest) = anchor := by
  cases rest with
  | nil => cases anchor <;> rfl
  | cons first others =>
    have other : first ≠ '/' := plain first rfl
    cases anchor <;> simp [Anchor.text, anchorOf, other]

/-- The parts after an anchor are those without it. -/
theorem steps_text (anchor : Anchor) (rest : List Char) :
    (segments (anchor.text ++ rest)).filterMap step? = (segments rest).filterMap step? := by
  cases anchor <;> simp [Anchor.text, segments, step?, IsFileName]

/-- Reading the text of a path gives the path. -/
theorem parse_text (path : PurePath) : parse path.text = path := by
  unfold text
  split
  · next blank =>
    obtain ⟨anchor, steps⟩ := path
    obtain ⟨rfl, rfl⟩ := blank
    rfl
  · rw [parse, steps_text, steps_intercalate, anchorOf_text _ (intercalate_head path.steps)]

/-- The text of a path that is not relative starts with a slash. -/
theorem exists_text {path : PurePath} (anchored : path.anchor ≠ .relative) :
    ∃ rest, path.text = '/' :: rest := by
  obtain ⟨anchor, steps⟩ := path
  rw [text, if_neg fun blank => anchored blank.1]
  cases anchor with
  | relative => exact absurd rfl anchored
  | slash => exact ⟨_, rfl⟩
  | slashes => exact ⟨_, rfl⟩

end PurePath

/-- An absolute path without `..`. -/
structure NormalPath where
  /-- Whether it starts with two slashes. -/
  doubled : Bool
  /-- Its parts. -/
  names : List FileName
  deriving DecidableEq

namespace NormalPath

/-- The path of a normal path. -/
def toPure (path : NormalPath) : PurePath :=
  ⟨if path.doubled then .slashes else .slash, path.names.map .down⟩

/-- `str(path)`. -/
def text (path : NormalPath) : List Char := path.toPure.text

/-- The steps of a normal path from the root. -/
def steps (path : NormalPath) : List (PathStep FileName) := path.names.map .down

/-- A normal path is not relative. -/
theorem toPure_anchored (path : NormalPath) : path.toPure.anchor ≠ .relative := by
  obtain ⟨doubled, names⟩ := path
  cases doubled <;> exact fun same => nomatch same

/-- The text of a normal path starts with a slash. -/
theorem exists_text (path : NormalPath) : ∃ rest, path.text = '/' :: rest :=
  PurePath.exists_text path.toPure_anchored

end NormalPath

/-- Takes the steps of a path by its text alone. -/
def climb : List FileName → List (PathStep FileName) → List FileName
  | names, [] => names
  | names, .up :: rest => climb names.dropLast rest
  | names, .down name :: rest => climb (names ++ [name]) rest

namespace PurePath

/-- `Path(os.path.abspath(str(path)))`. -/
def abspath (cwd : NormalPath) (path : PurePath) : NormalPath :=
  match path.anchor with
  | .relative => ⟨cwd.doubled, climb cwd.names path.steps⟩
  | .slash => ⟨false, climb [] path.steps⟩
  | .slashes => ⟨true, climb [] path.steps⟩

/-- The steps of a path from the root. -/
def fromRoot (cwd : NormalPath) (path : PurePath) : List (PathStep FileName) :=
  match path.anchor with
  | .relative => cwd.steps ++ path.steps
  | _ => path.steps

end PurePath

/-- The steps from the root of a path with slashes are its own. -/
theorem fromRoot_anchored {path : PurePath} (anchored : path.anchor ≠ .relative)
    (cwd : NormalPath) : path.fromRoot cwd = path.steps := by
  obtain ⟨anchor, steps⟩ := path
  cases anchor with
  | relative => exact absurd rfl anchored
  | slash => rfl
  | slashes => rfl

/-- Names are added one after the other. -/
theorem climb_down (front names : List FileName) :
    climb front (names.map .down) = front ++ names := by
  induction names generalizing front with
  | nil => exact (List.append_nil front).symm
  | cons name rest ih =>
    rw [List.map_cons, climb, ih, List.append_assoc]
    rfl

/-- A normal path is what it is normalised to. -/
theorem abspath_toPure (cwd path : NormalPath) : path.toPure.abspath cwd = path := by
  obtain ⟨doubled, names⟩ := path
  cases doubled <;> simp [PurePath.abspath, NormalPath.toPure, climb_down]

/-- The text of a normal path is read and normalised to it. -/
theorem abspath_parse_text (cwd path : NormalPath) :
    (PurePath.parse path.text).abspath cwd = path := by
  rw [NormalPath.text, PurePath.parse_text, abspath_toPure]

end VelaFlow.Storage
