import Mathlib.Data.List.Basic

/-!
# Patterns made of pieces

A pattern says how many elements it takes from the front of a list. Patterns are put together from
the end to the front: each piece takes its part and leaves the rest to the next. None of them has
to step back, since the element a run stops at is one the run does not take.
-/
namespace VelaFlow

/-- How many elements a pattern takes from the front of a list. -/
abbrev Recognizer (α : Type*) := List α → Option Nat

namespace Recognizer

variable {α β : Type*}

/-- The end of a pattern. -/
def done : Recognizer α := fun _ => some 0

/-- One element of a class. -/
def one (inside : α → Bool) (next : Recognizer α) : Recognizer α
  | [] => none
  | item :: rest => if inside item = true then (next rest).map (· + 1) else none

/-- The elements of a class up to the first other one. -/
def run (inside : α → Bool) (next : Recognizer α) : Recognizer α
  | [] => next []
  | item :: rest =>
    if inside item = true then (run inside next rest).map (· + 1) else next (item :: rest)

/-- The elements of a class up to the first other one, and no more than a limit. -/
def atMost (inside : α → Bool) (next : Recognizer α) : Nat → Recognizer α
  | _, [] => next []
  | 0, item :: rest => next (item :: rest)
  | limit + 1, item :: rest =>
    if inside item = true then (atMost inside next limit rest).map (· + 1) else next (item :: rest)

/-- As few elements as there may be before the next piece. -/
def seek (next : Recognizer α) : Recognizer α
  | [] => next []
  | item :: rest => (next (item :: rest)).or ((seek next rest).map (· + 1))

/-- A pattern read off the images of the elements. -/
def on (image : β → α) (pattern : Recognizer α) : Recognizer β := fun text => pattern (text.map image)

/-- A pattern takes what is there, the last of it of a class, and takes something wherever it
finds the same again. -/
structure Sound (pattern : Recognizer α) (ending : α → Bool) : Prop where
  /-- It takes what is there. -/
  fits : ∀ {text : List α} {taken : Nat}, pattern text = some taken → taken ≤ text.length
  /-- It takes something where the same is followed by something else. -/
  again : ∀ {text : List α} {taken : Nat}, pattern text = some taken → ∀ other,
    (pattern (text.take taken ++ other)).isSome = true
  /-- The last that it takes is of the class. -/
  ends : ∀ {text : List α} {taken : Nat}, pattern text = some taken →
    ∃ item ∈ (text.take taken).getLast?, ending item = true

section Pieces

variable {inside ending : α → Bool} {next : Recognizer α}

/-- What is last behind an element is last. -/
theorem exists_getLast?_cons {item : α} {rest : List α}
    (last : ∃ final ∈ rest.getLast?, ending final = true) :
    ∃ final ∈ (item :: rest).getLast?, ending final = true := by
  obtain ⟨final, is, closes⟩ := last
  refine ⟨final, ?_, closes⟩
  rw [Option.mem_def] at is ⊢
  rw [List.getLast?_cons, is]
  rfl

/-- A pattern takes something. -/
theorem Sound.pos (sound : Sound next ending) {text : List α} {taken : Nat}
    (found : next text = some taken) : 0 < taken := by
  obtain ⟨item, is, -⟩ := sound.ends found
  by_contra none'
  have zero : taken = 0 := by omega
  rw [zero] at is
  cases is

/-- A pattern finds nothing in an empty list. -/
theorem Sound.nil (sound : Sound next ending) : next [] = none := by
  cases found : next [] with
  | none => rfl
  | some taken =>
    have none' := sound.fits found
    have some' := sound.pos found
    simp only [List.length_nil] at none'
    omega

/-- A pattern that finds something in a list finds something where the list goes on differently,
with its first element in its place. -/
theorem Sound.again_cons (sound : Sound next ending) {item : α} {rest : List α} {taken : Nat}
    (found : next (item :: rest) = some taken) (other : List α) :
    ∃ more, (item :: rest).take taken ++ other = item :: more ∧
      (next (item :: more)).isSome = true := by
  have some' := sound.pos found
  have later := sound.again found other
  obtain ⟨count, rfl⟩ := Nat.exists_eq_succ_of_ne_zero (by omega : taken ≠ 0)
  exact ⟨rest.take count ++ other, rfl, later⟩

/-- What is left of a pattern behind an element it takes. -/
theorem Sound.behind (sound : Sound next ending) {item : α} {rest : List α} {taken : Nat}
    (found : (next rest).map (· + 1) = some taken) :
    taken ≤ (item :: rest).length ∧
      (∃ more, next rest = some more ∧ (item :: rest).take taken = item :: rest.take more) ∧
      ∃ final ∈ ((item :: rest).take taken).getLast?, ending final = true := by
  rw [Option.map_eq_some_iff] at found
  obtain ⟨more, is, count⟩ := found
  have fits := sound.fits is
  have length : (item :: rest).length = rest.length + 1 := rfl
  have front : (item :: rest).take taken = item :: rest.take more := by
    rw [← count, List.take_succ_cons]
  refine ⟨by omega, ⟨more, is, front⟩, ?_⟩
  rw [front]
  exact exists_getLast?_cons (sound.ends is)

/-- A pattern after an element of a class. -/
theorem Sound.one (sound : Sound next ending) : Sound (Recognizer.one inside next) ending where
  fits := by
    intro text taken found
    cases text with
    | nil => cases found
    | cons item rest =>
      simp only [Recognizer.one, Option.ite_none_right_eq_some] at found
      exact (sound.behind found.2).1
  again := by
    intro text taken found other
    cases text with
    | nil => cases found
    | cons item rest =>
      simp only [Recognizer.one, Option.ite_none_right_eq_some] at found
      obtain ⟨-, ⟨more, is, front⟩, -⟩ := @Sound.behind α ending next sound item rest taken found.2
      have later := sound.again is other
      rw [front, List.cons_append]
      simpa [Recognizer.one, found.1] using later
  ends := by
    intro text taken found
    cases text with
    | nil => cases found
    | cons item rest =>
      simp only [Recognizer.one, Option.ite_none_right_eq_some] at found
      exact (sound.behind found.2).2.2

/-- A pattern after a run. -/
theorem Sound.run (sound : Sound next ending) : Sound (Recognizer.run inside next) ending := by
  have whole : ∀ (text : List α) (taken : Nat), Recognizer.run inside next text = some taken →
      taken ≤ text.length ∧
        (∀ other, (Recognizer.run inside next (text.take taken ++ other)).isSome = true) ∧
        ∃ item ∈ (text.take taken).getLast?, ending item = true := by
    intro text
    induction text with
    | nil =>
      intro taken found
      rw [Recognizer.run, sound.nil] at found
      cases found
    | cons item rest ih =>
      intro taken found
      by_cases more : inside item = true
      · simp only [Recognizer.run, more, if_true, Option.map_eq_some_iff] at found
        obtain ⟨count, is, rfl⟩ := found
        obtain ⟨fits, again, ends⟩ := ih count is
        rw [List.take_succ_cons]
        refine ⟨by simpa using fits, fun other => ?_, exists_getLast?_cons ends⟩
        have later := again other
        rw [List.cons_append]
        simpa [Recognizer.run, more] using later
      · simp only [Recognizer.run, more, Bool.false_eq_true, if_false] at found
        refine ⟨sound.fits found, fun other => ?_, sound.ends found⟩
        obtain ⟨after, same, later⟩ := sound.again_cons found other
        rw [same]
        simpa [Recognizer.run, more] using later
  exact ⟨fun found => (whole _ _ found).1, fun found => (whole _ _ found).2.1,
    fun found => (whole _ _ found).2.2⟩

/-- A pattern after a run of a limited length. -/
theorem Sound.atMost (sound : Sound next ending) (limit : Nat) :
    Sound (Recognizer.atMost inside next limit) ending := by
  have whole : ∀ (text : List α) (limit taken : Nat),
      Recognizer.atMost inside next limit text = some taken →
      taken ≤ text.length ∧
        (∀ other, (Recognizer.atMost inside next limit (text.take taken ++ other)).isSome = true) ∧
        ∃ item ∈ (text.take taken).getLast?, ending item = true := by
    intro text
    induction text with
    | nil =>
      intro limit taken found
      rw [Recognizer.atMost, sound.nil] at found
      cases found
    | cons item rest ih =>
      intro limit taken found
      -- The next piece begins here, since the run has come to its limit or to another element.
      have here : next (item :: rest) = some taken →
          (limit = 0 ∨ inside item = false) →
          taken ≤ (item :: rest).length ∧
            (∀ other, (Recognizer.atMost inside next limit
              ((item :: rest).take taken ++ other)).isSome = true) ∧
            ∃ final ∈ ((item :: rest).take taken).getLast?, ending final = true := by
        intro is stopped
        refine ⟨sound.fits is, fun other => ?_, sound.ends is⟩
        obtain ⟨after, same, later⟩ := sound.again_cons is other
        rw [same]
        rcases stopped with rfl | outside
        · simpa [Recognizer.atMost] using later
        · cases limit with
          | zero => simpa [Recognizer.atMost] using later
          | succ fewer => simpa [Recognizer.atMost, outside] using later
      cases limit with
      | zero => exact here found (Or.inl rfl)
      | succ fewer =>
        by_cases more : inside item = true
        · simp only [Recognizer.atMost, more, if_true, Option.map_eq_some_iff] at found
          obtain ⟨count, is, rfl⟩ := found
          obtain ⟨fits, again, ends⟩ := ih fewer count is
          rw [List.take_succ_cons]
          refine ⟨by simpa using fits, fun other => ?_, exists_getLast?_cons ends⟩
          have later := again other
          rw [List.cons_append]
          simpa [Recognizer.atMost, more] using later
        · simp only [Recognizer.atMost, more, Bool.false_eq_true, if_false] at found
          exact here found (Or.inr (by simpa using more))
  exact ⟨fun found => (whole _ limit _ found).1, fun found => (whole _ limit _ found).2.1,
    fun found => (whole _ limit _ found).2.2⟩

/-- A pattern after as few elements as there may be. -/
theorem Sound.seek (sound : Sound next ending) : Sound (Recognizer.seek next) ending := by
  have whole : ∀ (text : List α) (taken : Nat), Recognizer.seek next text = some taken →
      taken ≤ text.length ∧
        (∀ other, (Recognizer.seek next (text.take taken ++ other)).isSome = true) ∧
        ∃ item ∈ (text.take taken).getLast?, ending item = true := by
    intro text
    induction text with
    | nil =>
      intro taken found
      rw [Recognizer.seek, sound.nil] at found
      cases found
    | cons item rest ih =>
      intro taken found
      simp only [Recognizer.seek, Option.or_eq_some_iff, Option.map_eq_some_iff] at found
      rcases found with here | ⟨-, count, is, rfl⟩
      · refine ⟨sound.fits here, fun other => ?_, sound.ends here⟩
        obtain ⟨after, same, later⟩ := sound.again_cons here other
        rw [same]
        simp only [Recognizer.seek, Option.isSome_or, later, Bool.true_or]
      · obtain ⟨fits, again, ends⟩ := ih count is
        rw [List.take_succ_cons]
        refine ⟨by simpa using fits, fun other => ?_, exists_getLast?_cons ends⟩
        have later := again other
        rw [List.cons_append]
        simp only [Recognizer.seek, Option.isSome_or, Option.isSome_map, later, Bool.or_true]
  exact ⟨fun found => (whole _ _ found).1, fun found => (whole _ _ found).2.1,
    fun found => (whole _ _ found).2.2⟩

end Pieces

/-- A pattern read off the images of the elements. -/
theorem Sound.on {pattern : Recognizer α} {ending : α → Bool} (sound : Sound pattern ending)
    (image : β → α) : Sound (pattern.on image) (ending ∘ image) where
  fits := fun found => by simpa using sound.fits found
  again := fun found other => by
    have later := sound.again found (other.map image)
    rw [← List.map_take, ← List.map_append] at later
    exact later
  ends := fun found => by
    have last := sound.ends found
    rw [← List.map_take, List.getLast?_map] at last
    obtain ⟨item, is, closes⟩ := last
    rw [Option.mem_def, Option.map_eq_some_iff] at is
    obtain ⟨source, from', rfl⟩ := is
    exact ⟨source, from', closes⟩

end Recognizer

end VelaFlow
