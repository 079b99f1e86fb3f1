import Mathlib.Data.List.TakeWhile
import VelaFlow.Foundation.Python
import VelaFlow.Storage.PurePath

/-!
# Paths from outside

`security/safe_path.py` on POSIX. A path is accepted when its text, made absolute, goes on from that
of an allowed base. Links are never followed for it, so an accepted path is in a base where its last
link leads back there, and in no base where it leads elsewhere.
-/
namespace VelaFlow.Security.SafePath

open Storage

variable {B : Type}

/-- What `safe_resolve` raises. -/
inductive Refusal where
  /-- `UnsafePathError`. -/
  | unsafePath (message : String)
  /-- The error of `mkdir`. -/
  | osError (error : FileError)
  deriving DecidableEq

/-- `_normalize(Path(text))`. -/
def normalize (cwd : NormalPath) (text : List Char) : NormalPath :=
  (PurePath.parse text).abspath cwd

/-- `_assert_within`. -/
def assertWithin (candidate base : NormalPath) : Bool :=
  decide (candidate.doubled = base.doubled) && base.names.isPrefixOf candidate.names

/-- `safe_resolve`, with the file system it leaves. -/
def safeResolve (cwd : NormalPath) (tree : FileTree FileName B) (untrusted : Option (List Char))
    (allowedBases : List (List Char)) (mustExist createParents : Bool) :
    Except Refusal NormalPath × FileTree FileName B :=
  match untrusted with
  | none => (.error (.unsafePath "refusing empty path from untrusted source"), tree)
  | some text =>
    if strip text = [] then
      (.error (.unsafePath "refusing empty path from untrusted source"), tree)
    else if allowedBases = [] then (.error (.unsafePath "no allowed bases configured"), tree)
    else if (allowedBases.map (normalize cwd)).any (assertWithin (normalize cwd text)) = false then
      (.error (.unsafePath "path escapes every allowed base directory (Snyk CWE-22 guard)"), tree)
    else if mustExist && !tree.leads (normalize cwd text).steps then
      (.error (.unsafePath "resolved path does not exist"), tree)
    else if createParents then
      match tree.mkdirs (normalize cwd text).names.dropLast.reverse with
      | ⟨after, _, none⟩ => (.ok (normalize cwd text), after)
      | ⟨after, _, some error⟩ => (.error (.osError error), after)
    else (.ok (normalize cwd text), tree)

/-- The variables and directories `default_bases` reads. -/
structure Surroundings where
  /-- `VELAFLOW_DATA_DIR`, when it is set. -/
  dataDir? : Option (List Char)
  /-- `Path.home()`. -/
  home : List Char
  /-- `tempfile.gettempdir()`. -/
  tempDir : List Char

/-- `default_bases`. -/
def defaultBases (cwd : NormalPath) (surroundings : Surroundings) : List (List Char) :=
  [(normalize cwd (surroundings.dataDir?.getD "./data".toList)).text,
    (normalize cwd surroundings.home).text, (normalize cwd cwd.text).text,
    (normalize cwd "/var/log/brain".toList).text, (normalize cwd surroundings.tempDir).text]

/-- What a base holds is what goes on from it. -/
theorem assertWithin_iff {candidate base : NormalPath} :
    assertWithin candidate base = true ↔
      candidate.doubled = base.doubled ∧ base.names <+: candidate.names := by
  rw [assertWithin, Bool.and_eq_true, decide_eq_true_eq, List.isPrefixOf_iff_prefix]

/-- A path that is returned is the text made absolute and in a base, and links stay. -/
theorem safeResolve_ok {cwd : NormalPath} {tree after : FileTree FileName B}
    {untrusted : Option (List Char)} {allowedBases : List (List Char)}
    {mustExist createParents : Bool} {candidate : NormalPath}
    (returned : safeResolve cwd tree untrusted allowedBases mustExist createParents =
      (.ok candidate, after)) :
    tree.Grows after ∧ (∀ text ∈ untrusted, candidate = normalize cwd text) ∧
      ∃ base ∈ allowedBases, assertWithin candidate (normalize cwd base) = true := by
  unfold safeResolve at returned
  split at returned
  · cases returned
  · next text =>
    split at returned
    · cases returned
    · split at returned
      · cases returned
      · split at returned
        · cases returned
        · next within =>
          rw [Bool.not_eq_false, List.any_map, List.any_eq_true] at within
          split at returned
          · cases returned
          · split at returned
            · split at returned
              · next parents _ made =>
                cases returned
                have grows :=
                  (FileTree.mkdirs_grows tree (normalize cwd text).names.dropLast.reverse).1
                rw [made] at grows
                exact ⟨grows, fun _ same => Option.some.inj same ▸ rfl, within⟩
              · cases returned
            · cases returned
              exact ⟨FileTree.Grows.refl tree, fun _ same => Option.some.inj same ▸ rfl, within⟩

/-- The text of a path that is not relative is not blank. -/
theorem strip_text_ne_nil {path : PurePath} (anchored : path.anchor ≠ .relative) :
    strip path.text ≠ [] := by
  obtain ⟨rest, shape⟩ := PurePath.exists_text anchored
  have plain : isSpace '/' = false := by decide
  rw [shape, strip, List.dropWhile_cons, plain, if_neg Bool.false_ne_true, List.reverse_cons]
  intro nothing
  have dropped := List.dropWhile_eq_nil_iff.mp (List.reverse_eq_nil_iff.mp nothing) '/'
    (List.mem_append_right _ List.mem_cons_self)
  rw [plain] at dropped
  cases dropped

/-- A path that need not be there is returned in normal form when a base holds that. -/
theorem safeResolve_pure {cwd : NormalPath} (tree : FileTree FileName B)
    {allowedBases : List (List Char)} (some_base : allowedBases ≠ []) {path : PurePath}
    (anchored : path.anchor ≠ .relative) :
    safeResolve cwd tree (some path.text) allowedBases false false =
      if (allowedBases.map (normalize cwd)).any (assertWithin (path.abspath cwd)) = false then
        (.error (.unsafePath "path escapes every allowed base directory (Snyk CWE-22 guard)"), tree)
      else (.ok (path.abspath cwd), tree) := by
  have itself : normalize cwd path.text = path.abspath cwd :=
    congrArg (PurePath.abspath cwd) (PurePath.parse_text path)
  simp only [safeResolve, strip_text_ne_nil anchored, some_base, itself, if_false,
    Bool.false_and, Bool.false_eq_true]

/-- A normal path in a base is returned as it is, when it need not be there. -/
theorem safeResolve_text {cwd : NormalPath} (tree : FileTree FileName B)
    {allowedBases : List (List Char)} {candidate : NormalPath} {base : List Char}
    (allowed : base ∈ allowedBases) (within : assertWithin candidate (normalize cwd base) = true) :
    safeResolve cwd tree (some candidate.text) allowedBases false false = (.ok candidate, tree) := by
  have accepted : (allowedBases.map (normalize cwd)).any (assertWithin candidate) = true := by
    rw [List.any_map, List.any_eq_true]
    exact ⟨base, allowed, within⟩
  rw [NormalPath.text, safeResolve_pure tree (List.ne_nil_of_mem allowed) candidate.toPure_anchored,
    abspath_toPure, accepted, if_neg (Bool.true_eq_false ▸ id)]

/-- A place is where an allowed base leads, or below. -/
def Under (tree : FileTree FileName B) (cwd : NormalPath) (allowedBases : List (List Char))
    (place : List FileName) : Prop :=
  ∃ base ∈ allowedBases, ∃ real,
    tree.real? ((PurePath.parse base).fromRoot cwd) = some real ∧ real <+: place

/-- Wherever a path leads is under an allowed base. -/
def Contained (tree : FileTree FileName B) (cwd : NormalPath) (allowedBases : List (List Char))
    (candidate : NormalPath) : Prop :=
  ∀ place, tree.real? candidate.steps = some place → Under tree cwd allowedBases place

section Containment

variable {cwd : NormalPath} {tree after : FileTree FileName B} {allowedBases : List (List Char)}
  {place : List FileName}

/-- What is below what is under an allowed base is under it. -/
theorem Under.append (under : Under tree cwd allowedBases place) (rest : List FileName) :
    Under tree cwd allowedBases (place ++ rest) := by
  obtain ⟨base, allowed, real, leads, inside⟩ := under
  exact ⟨base, allowed, real, leads, inside.trans (List.prefix_append place rest)⟩

/-- Links alone decide what is under an allowed base. -/
theorem under_grows (grows : tree.Grows after) :
    Under after cwd allowedBases place ↔ Under tree cwd allowedBases place := by
  rw [Under, Under, grows.real?]

/-- A path is contained when where its last link leads, and on, is under an allowed base. -/
theorem contained_iff_lastLink {candidate : NormalPath} :
    Contained tree cwd allowedBases candidate ↔
      ∀ front rest place, candidate.names = front ++ rest → tree.LastLink front rest place →
        Under tree cwd allowedBases (place ++ rest) := by
  constructor
  · intro contained front rest place split last
    apply contained
    rw [NormalPath.steps, split]
    exact FileTree.real?_of_lastLink last
  · intro under place leads
    obtain ⟨front, rest, middle, split, last⟩ := FileTree.exists_lastLink leads
    have whole := FileTree.real?_of_lastLink last
    rw [← split] at whole
    obtain rfl := Option.some.inj (leads.symm.trans whole)
    exact under front rest middle split last

/-- Where a base in normal form leads, and where the links below it do. -/
def Exit (tree : FileTree FileName B) (base : NormalPath) (front place : List FileName) : Prop :=
  base.names <+: front ∧ tree.real? (front.map .down) = some place ∧
    (front = base.names ∨ ∃ outer name start, front = outer ++ [name] ∧
      tree.real? (outer.map .down) = some start ∧ (tree.link? (start ++ [name])).isSome = true)

/-- A path in a base is contained when the base and every link below it lead under a base. -/
theorem contained_of_exits {candidate : NormalPath} {base : List Char}
    (within : assertWithin candidate (normalize cwd base) = true)
    (exits : ∀ front place, Exit tree (normalize cwd base) front place →
      Under tree cwd allowedBases place) : Contained tree cwd allowedBases candidate := by
  apply contained_iff_lastLink.mpr
  intro front rest place split last
  have inside := (assertWithin_iff.mp within).2
  have before : front <+: candidate.names := ⟨rest, split.symm⟩
  by_cases below : (normalize cwd base).names <+: front
  · apply Under.append
    refine exits front place ⟨below, last.leads, ?_⟩
    cases last.ends with
    | inl none =>
      left
      rw [none] at below ⊢
      exact (List.prefix_nil.mp below).symm
    | inr link => exact Or.inr link
  · have above := (List.prefix_or_prefix_of_prefix before inside).resolve_right below
    obtain ⟨middle, shape⟩ := above
    obtain ⟨tail, whole⟩ := inside
    have parts : rest = middle ++ tail := by
      apply List.append_cancel_left
      rw [← split, ← whole, ← shape, List.append_assoc]
    have base_leads : tree.real? ((normalize cwd base).names.map .down) = some (place ++ middle) := by
      rw [← shape]
      refine FileTree.real?_of_lastLink ⟨last.leads, last.ends, fun inner name within => ?_⟩
      exact last.plain inner name (within.trans ⟨tail, parts.symm⟩)
    rw [parts, ← List.append_assoc]
    exact (exits _ _ ⟨List.prefix_rfl, base_leads, Or.inl rfl⟩).append tail

/-- Every path that can be returned is contained exactly when no allowed base in normal form, and no
link below one, leads out of the allowed bases. -/
theorem all_contained_iff :
    (∀ untrusted mustExist createParents candidate after,
      safeResolve cwd tree untrusted allowedBases mustExist createParents =
        (.ok candidate, after) → Contained after cwd allowedBases candidate) ↔
      ∀ base ∈ allowedBases, ∀ front place, Exit tree (normalize cwd base) front place →
        Under tree cwd allowedBases place := by
  constructor
  · intro contained base allowed front place exit
    obtain ⟨below, leads, -⟩ := exit
    let candidate : NormalPath := ⟨(normalize cwd base).doubled, front⟩
    have within : assertWithin candidate (normalize cwd base) = true :=
      assertWithin_iff.mpr ⟨rfl, below⟩
    exact contained _ _ _ candidate tree (safeResolve_text tree allowed within) place leads
  · intro exits untrusted mustExist createParents candidate after returned
    obtain ⟨grows, -, base, allowed, within⟩ := safeResolve_ok returned
    have here := contained_of_exits within (exits base allowed)
    intro place leads
    rw [grows.real?] at leads
    exact (under_grows grows).mpr (here place leads)

end Containment

section Samples

end Samples

end VelaFlow.Security.SafePath
