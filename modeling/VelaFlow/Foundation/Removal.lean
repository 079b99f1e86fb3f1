import VelaFlow.Foundation.Matching
import Mathlib.Data.List.Nodup
import Mathlib.Data.List.Infix

/-!
# Taking out what a pattern finds

A single pass over a list takes out what a pattern finds, from the front to the back. What follows
each other in the list and is all left has not been found, so the pattern finds in the result only
what the pass has moved together. Elements are told apart by their places, so that of the list and
of what is left of it only lists without repetition are spoken of.
-/
namespace VelaFlow

/-- How many elements are found at the front of a list, seen behind an element. -/
abbrev Matcher (α : Type*) := Option α → List α → Nat

namespace Matcher

variable {α β : Type*}

/-- What is found only behind some elements. -/
def behind (allowed : Option α → Bool) (pattern : Recognizer α) : Matcher α := fun before text =>
  if allowed before = true then (pattern text).getD 0 else 0

/-- A matcher read off the images of the elements. -/
def on (image : β → α) (matcher : Matcher α) : Matcher β := fun before text =>
  matcher (before.map image) (text.map image)

/-- What a pass leaves of a list, with so many elements of it still to be taken out. -/
def removeFrom (matcher : Matcher α) : Nat → Option α → List α → List α
  | _, _, [] => []
  | skip + 1, _, item :: rest => removeFrom matcher skip (some item) rest
  | 0, before, item :: rest =>
    if matcher before (item :: rest) = 0 then item :: removeFrom matcher 0 (some item) rest
    else removeFrom matcher (matcher before (item :: rest) - 1) (some item) rest

/-- What a pass leaves of a list. -/
def remove (matcher : Matcher α) (text : List α) : List α := removeFrom matcher 0 none text

/-- No more is found than there is. -/
def Fits (matcher : Matcher α) : Prop := ∀ before text, matcher before text ≤ text.length

/-- What is found ends with an element of a class. -/
def EndsIn (matcher : Matcher α) (ending : α → Bool) : Prop :=
  ∀ (before : Option α) (text : List α), ∀ item ∈ (text.take (matcher before text)).getLast?,
    ending item = true

/-- What is found ends in a class of images. -/
theorem EndsIn.on {matcher : Matcher α} {ending : α → Bool} (ends : EndsIn matcher ending)
    (image : β → α) : EndsIn (matcher.on image) (ending ∘ image) := by
  intro before text item last
  apply ends (before.map image) (text.map image)
  rw [← List.map_take, List.getLast?_map]
  exact Option.mem_map_of_mem image last

section Behind

variable {allowed : Option α → Bool} {pattern : Recognizer α} {ending : α → Bool}

end Behind

section Passing

variable {matcher : Matcher α} {text : List α}

end Passing

section Places

variable {matcher : Matcher α} {text less : List α}

end Places

end Matcher

end VelaFlow
