import VelaFlow.Security.Sanitization

/-!
# The boundary of user data in prompts

A prompt sets what a user wrote between two markers. The text that is wrapped is what stripping
and the cut to the length limit leave of it, and neither looks for the markers. So the boundary
holds exactly for the texts that do not spell a marker themselves, whichever of the two wrappings
they get.
-/
namespace VelaFlow.Security

/-- The beginnings and ends that the two wrappings set around a text. -/
def boundaryPairs : List (String × String) :=
  [("[USER_DATA_BEGIN]\n", "\n[USER_DATA_END]"), (injectionPrefix, injectionSuffix)]

/-- The markers in them. -/
def boundaryMarkers : List String :=
  ["[USER_DATA_BEGIN]", "[USER_DATA_END]", "[SANITIZED_USER_CONTENT]", "[/SANITIZED_USER_CONTENT]"]

/-- A text with none of the markers in it. -/
def Unmarked (text : String) : Prop :=
  ∀ marker ∈ boundaryMarkers, ¬ marker.toList <:+: text.toList

instance (text : String) : Decidable (Unmarked text) :=
  inferInstanceAs (Decidable (∀ marker ∈ boundaryMarkers, ¬ marker.toList <:+: text.toList))

/-- A prompt whose boundary only the wrapping has set. -/
def Bounded (prompt : String) : Prop :=
  ∃ pair ∈ boundaryPairs, ∃ body, prompt = pair.1 ++ body ++ pair.2 ∧ Unmarked body

/-- A prompt wraps the part of the text that is kept, in the one way or in the other. -/
theorem sanitizeForLlm_eq (patterns : Patterns) (text : String) :
    ∃ pair ∈ boundaryPairs, sanitizeForLlm patterns text =
      pair.1 ++ keptPart patterns text maxLlmPromptLength ++ pair.2 := by
  unfold sanitizeForLlm keptPart
  by_cases empty : text = ""
  · refine ⟨_, List.mem_cons_self, ?_⟩
    simp [sanitizeText, empty]
  · unfold sanitizeText
    rw [if_neg empty, if_neg empty]
    simp only [if_true, cut_eq]
    split
    · refine ⟨_, List.mem_cons_of_mem _ List.mem_cons_self, ?_⟩
      rfl
    · refine ⟨_, List.mem_cons_self, ?_⟩
      rfl

/-- Patterns as they are to a text in which they find nothing. -/
def findingNothing : Patterns where
  stripScripts := fun text => text
  stripEventHandlers := fun text => text
  stripTags := fun text => text
  promptInjection := []

end VelaFlow.Security
