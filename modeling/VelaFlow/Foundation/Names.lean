import Mathlib.Data.List.Count

/-!
# Names in texts

The pattern of a name, and the replacement of one text in another, which goes from left to right
and goes on behind what it replaced. A text with fewer of some element than what is to be replaced
has no place where it could be.
-/
namespace VelaFlow

/-- `[a-zA-Z0-9_-]`. -/
def isNameChar (character : Char) : Bool :=
  character.isAlphanum || character == '_' || character == '-'

/-- `re.match(r"^[a-zA-Z0-9_-]{1,limit}$", text)`. The dollar also stands before a last newline. -/
def matchesName (limit : Nat) (text : String) : Bool :=
  let taken := if text.toList.getLast? = some '\n' then text.toList.dropLast else text.toList
  decide (0 < taken.length ∧ taken.length ≤ limit) && taken.all isNameChar

/-- A name has no character but those of names, and a line break at its end. -/
theorem not_mem_of_matchesName {limit : Nat} {text : String} (matched : matchesName limit text = true)
    {mark : Char} (unnamed : isNameChar mark = false) (visible : mark ≠ '\n') :
    mark ∉ text.toList := by
  intro inside
  have all := List.all_eq_true.mp (Bool.and_eq_true_iff.mp matched).2
  have named : mark ∈ (if text.toList.getLast? = some '\n' then text.toList.dropLast
      else text.toList) := by
    by_cases ends : text.toList.getLast? = some '\n'
    · obtain ⟨before, whole⟩ := List.getLast?_eq_some_iff.mp ends
      rw [if_pos ends, whole, List.dropLast_concat]
      rw [whole] at inside
      have last : mark ∈ before ∨ mark ∈ ['\n'] := List.mem_append.mp inside
      exact last.resolve_right fun same => visible (List.mem_singleton.mp same)
    · rwa [if_neg ends]
  have is := all mark named
  rw [unnamed] at is
  cases is

section Replacement

variable {α : Type} [DecidableEq α] (old new : List α)

/-- Replaces behind what is still to be skipped. -/
def replaceFrom : Nat → List α → List α
  | _, [] => []
  | skip + 1, _ :: rest => replaceFrom skip rest
  | 0, item :: rest =>
    if old.isPrefixOf (item :: rest) then new ++ replaceFrom (old.length - 1) rest
    else item :: replaceFrom 0 rest

/-- `text.replace(old, new)`, of something to replace. -/
def replaceAll (text : List α) : List α := replaceFrom old new 0 text

variable {old new}

/-- What is skipped is left out. -/
theorem replaceFrom_append (skipped rest : List α) :
    replaceFrom old new skipped.length (skipped ++ rest) = replaceFrom old new 0 rest := by
  induction skipped with
  | nil => rfl
  | cons item more ih => exact ih

/-- What stands in front is replaced. -/
theorem replaceAll_append (some : old ≠ []) (rest : List α) :
    replaceAll old new (old ++ rest) = new ++ replaceAll old new rest := by
  cases old with
  | nil => exact absurd rfl some
  | cons first more =>
    have starts : (first :: more).isPrefixOf (first :: (more ++ rest)) = true :=
      List.isPrefixOf_iff_prefix.mpr ⟨rest, rfl⟩
    have skipped := @replaceFrom_append α _ (first :: more) new more rest
    show replaceFrom (first :: more) new 0 (first :: (more ++ rest)) = _
    rw [replaceFrom, if_pos starts]
    exact congrArg (new ++ ·) skipped

/-- A text with too few of some element keeps what it is. -/
theorem replaceAll_eq_self {mark : α} {text : List α} (few : text.count mark < old.count mark) :
    replaceAll old new text = text := by
  induction text with
  | nil => rfl
  | cons item rest ih =>
    have shorter : rest.count mark ≤ (item :: rest).count mark :=
      (List.sublist_cons_self item rest).count_le mark
    have apart : ¬ old.isPrefixOf (item :: rest) = true := by
      intro starts
      have fits := (List.isPrefixOf_iff_prefix.mp starts).sublist.count_le mark
      omega
    have later : replaceFrom old new 0 rest = rest := ih (by omega)
    show replaceFrom old new 0 (item :: rest) = item :: rest
    rw [replaceFrom, if_neg apart, later]

/-- An element that is replaced by others is no longer there. -/
theorem not_mem_replaceAll_singleton {mark : α} (gone : mark ∉ new) (text : List α) :
    mark ∉ replaceAll [mark] new text := by
  induction text with
  | nil => exact List.not_mem_nil
  | cons item rest ih =>
    show mark ∉ replaceFrom [mark] new 0 (item :: rest)
    rw [replaceFrom]
    by_cases here : [mark].isPrefixOf (item :: rest) = true
    · rw [if_pos here]
      intro inside
      exact (List.mem_append.mp inside).elim gone ih
    · rw [if_neg here]
      intro inside
      cases List.mem_cons.mp inside with
      | inl same =>
        apply here
        rw [← same]
        simp
      | inr later => exact ih later

end Replacement

end VelaFlow
