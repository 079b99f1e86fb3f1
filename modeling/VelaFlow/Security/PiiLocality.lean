import Mathlib.Algebra.Order.BigOperators.Group.List
import Mathlib.Algebra.Order.Ring.Nat
import VelaFlow.Foundation.Spans
import VelaFlow.Security.Pii

/-!
# What masking takes from a text

`mask` replaces the matches of all patterns one after the other, each where it was found in the
text as it came. The matches of one pattern keep out of each other's way, but those of two patterns
may overlap, and then the second replacement cuts a text that has moved since. It takes what is
personal, and nothing else, exactly when there is something between any two matches.
-/
namespace VelaFlow.Security.PiiDetector

open Stretch (covered opens render Separated Within Covers)

/-- The token that replaces a match. -/
def placeholder (found : PiiMatch) : List Char :=
  ("[" ++ found.patternName.toUpper ++ "]").toList

/-- A match with the token that replaces it. -/
def spanOf (found : PiiMatch) : Stretch Char := ⟨found.start, found.finish, placeholder found⟩

/-- The matches in a text with the tokens that replace them. -/
def spans (detector : PiiDetector) (text : List Char) : List (Stretch Char) :=
  (detector.detect text).map spanOf

/-- The matches of a pattern lie in the text. -/
def InText (detector : PiiDetector) (text : List Char) : Prop :=
  ∀ pattern ∈ detector.patterns, ∀ found ∈ pattern.finditer text,
    found.1 ≤ found.2 ∧ found.2 ≤ text.length

/-- What masking is to do: no character of a match is left, every other one is kept in its place,
and each run of matched characters has become the token of one match that lies in it. -/
def Local (detector : PiiDetector) (text : List Char) : Prop :=
  ∃ mark : Nat → List Char,
    (∀ place, opens (covered (detector.spans text)) place = true →
      ∃ found ∈ detector.detect text, mark place = placeholder found ∧ place ≤ found.start ∧
        ∀ other, place ≤ other → other < found.finish →
          covered (detector.spans text) other = true) ∧
    detector.mask text = render (covered (detector.spans text)) mark 0 text

/-- A detector with other names for its patterns. -/
def named (detector : PiiDetector) (naming : String → String) : PiiDetector where
  patterns := detector.patterns.map fun pattern =>
    { pattern with name := naming pattern.name }

section Matches

variable {detector : PiiDetector} {text : List Char}

/-- The matches of a detector lie in the text. -/
theorem InText.within (inText : InText detector text) : Within text.length (detector.spans text) := by
  intro span known
  unfold spans at known
  rw [List.mem_map] at known
  obtain ⟨found, detected, rfl⟩ := known
  unfold detect at detected
  rw [List.mem_flatMap] at detected
  obtain ⟨pattern, listed, inside⟩ := detected
  rw [List.mem_map] at inside
  obtain ⟨place, yielded, rfl⟩ := inside
  exact inText pattern listed place yielded

/-- Names have no part in where the matches are. -/
theorem InText.named (inText : InText detector text) (naming : String → String) :
    InText (detector.named naming) text := by
  intro pattern listed
  unfold PiiDetector.named at listed
  rw [List.mem_map] at listed
  obtain ⟨original, known, rfl⟩ := listed
  exact inText original known

/-- The matches under other names. -/
theorem detect_named (naming : String → String) :
    (detector.named naming).detect text = (detector.detect text).map fun found =>
      { found with patternName := naming found.patternName } := by
  unfold detect PiiDetector.named
  rw [List.flatMap_map, List.map_flatMap]
  simp only [List.map_map]
  rfl

/-- Whether matches keep apart is a matter of their places. -/
theorem separated_spanOf_iff (matches' : List PiiMatch) :
    Separated (matches'.map spanOf) ↔
      (∀ found ∈ matches', found.start < found.finish) ∧
        matches'.Pairwise fun one other => one.finish < other.start ∨ other.finish < one.start := by
  unfold Separated Stretch.Apart
  rw [List.pairwise_map]
  simp only [List.forall_mem_map]
  rfl

/-- Other names leave the matches where they are. -/
theorem separated_named_iff (naming : String → String) :
    Separated ((detector.named naming).spans text) ↔ Separated (detector.spans text) := by
  unfold spans
  rw [detect_named, separated_spanOf_iff, separated_spanOf_iff, List.pairwise_map]
  simp only [List.forall_mem_map]

/-- The matches in the order in which `mask` replaces them. -/
theorem mask_eq : ∃ sorted : List (Stretch Char), sorted.Perm (detector.spans text) ∧
    sorted.Pairwise (fun one other => other.start ≤ one.start) ∧
    detector.mask text = sorted.foldl Stretch.replace text := by
  let later := fun first second : PiiMatch => decide (second.start ≤ first.start)
  let sorted := (detector.detect text).mergeSort later
  have order : sorted.Pairwise fun one other => later one other = true := by
    apply List.pairwise_mergeSort
    · intro one other third first second
      have low := of_decide_eq_true first
      have lower := of_decide_eq_true second
      exact decide_eq_true (lower.trans low)
    · intro one other
      rw [Bool.or_eq_true]
      exact (Nat.le_total other.start one.start).imp decide_eq_true decide_eq_true
  refine ⟨sorted.map spanOf, (List.mergeSort_perm _ _).map _, ?_, ?_⟩
  · rw [List.pairwise_map]
    exact order.imp fun descending => of_decide_eq_true descending
  · rw [List.foldl_map]
    rfl

end Matches

/-- Matches that keep apart are masked as they are to be. -/
theorem local_of_separated {detector : PiiDetector} {text : List Char}
    (inText : InText detector text) (separated : Separated (detector.spans text)) :
    Local detector text := by
  obtain ⟨mark, marks⟩ := separated.exists_marks
  obtain ⟨sorted, perm, order, masked⟩ := @mask_eq detector text
  have known : ∀ span ∈ sorted, span ∈ detector.spans text := fun _ => perm.mem_iff.mp
  have apart : Separated sorted := by
    refine ⟨fun span inside => separated.1 span (known span inside), ?_⟩
    exact (perm.pairwise_iff fun first => Or.symm first).mpr separated.2
  have within : Within text.length sorted := fun span inside =>
    inText.within span (known span inside)
  refine ⟨mark, ?_, ?_⟩
  · intro place start
    obtain ⟨span, inside, rfl⟩ := Stretch.start_of_opens start
    have its := marks span inside
    unfold spans at inside
    rw [List.mem_map] at inside
    obtain ⟨found, detected, rfl⟩ := inside
    refine ⟨found, detected, its, le_rfl, fun other after before => ?_⟩
    unfold covered
    rw [List.any_eq_true]
    exact ⟨spanOf found, List.mem_map_of_mem detected, decide_eq_true ⟨after, before⟩⟩
  · rw [masked, Stretch.foldl_replace_of_separated order apart within
      fun span inside => marks span (known span inside), Stretch.covered_perm perm]

/-- A name so long that its token is longer than all matches together. -/
def longName (length : Nat) (_ : String) : String := String.ofList (List.replicate length 'A')

/-- The token of such a name. -/
theorem length_placeholder_longName {detector : PiiDetector} {text : List Char} {length : Nat}
    {found : PiiMatch} (detected : found ∈ (detector.named (longName length)).detect text) :
    (placeholder found).length = length + 2 := by
  rw [detect_named, List.mem_map] at detected
  obtain ⟨original, -, rfl⟩ := detected
  simp [placeholder, longName, String.toUpper]

/-- Under names of one great length, a text is masked as it is to be only when matches keep
apart. -/
theorem separated_of_local {detector : PiiDetector} {text : List Char}
    (inText : InText detector text)
    (done : ∀ naming, Local (detector.named naming) text) :
    Separated (detector.spans text) := by
  let taken := ((detector.spans text).map fun span => span.finish - span.start).sum
  let naming := longName taken
  obtain ⟨mark, marks, rendered⟩ := done naming
  obtain ⟨sorted, perm, -, masked⟩ := @mask_eq (detector.named naming) text
  have within : Within text.length sorted := fun span inside =>
    (inText.named naming).within span (perm.mem_iff.mp inside)
  have lengths : ((detector.named naming).spans text).map (fun span => span.finish - span.start) =
      (detector.spans text).map fun span => span.finish - span.start := by
    unfold spans
    rw [detect_named]
    simp only [List.map_map]
    rfl
  have sum : (sorted.map fun span => span.finish - span.start).sum = taken := by
    rw [(perm.map _).sum_nat, lengths]
  have short : ∀ span ∈ sorted, span.mark.length = taken + 2 ∧
      span.finish ≤ span.start + (taken + 2) := by
    intro span inside
    have part : span.finish - span.start ≤ taken := by
      rw [← sum]
      exact List.single_le_sum (fun _ _ => Nat.zero_le _) _ (List.mem_map_of_mem inside)
    have member := perm.mem_iff.mp inside
    unfold spans at member
    rw [List.mem_map] at member
    obtain ⟨found, detected, rfl⟩ := member
    exact ⟨length_placeholder_longName detected, by omega⟩
  have equal : ∀ place, opens (covered ((detector.named naming).spans text)) place = true →
      (mark place).length = taken + 2 := by
    intro place start
    obtain ⟨found, detected, is, -⟩ := marks place start
    rw [is]
    exact length_placeholder_longName detected
  have one := Stretch.length_foldl_replace within short
  have two := Stretch.length_render text 0 equal
  rw [← masked, rendered, sum, perm.length_eq] at one
  rw [← List.range_eq_range'] at two
  rw [← separated_named_iff naming]
  apply @Stretch.separated_of_length_le Char _ text.length
  by_contra fewer
  have many := Nat.mul_le_mul_right (taken + 2) (not_le.mp fewer)
  rw [Nat.succ_mul] at many
  omega

/-- Whatever the patterns are called, masking takes what they match and nothing else exactly when
there is something between any two matches. -/
theorem local_iff_separated (detector : PiiDetector) (text : List Char)
    (inText : InText detector text) :
    (∀ naming, Local (detector.named naming) text) ↔ Separated (detector.spans text) := by
  constructor
  · exact separated_of_local inText
  · intro separated naming
    exact local_of_separated (inText.named naming) ((separated_named_iff naming).mpr separated)

section Sample

/-- A text with an international phone number. -/
def callMe : List Char := "Call +1 555-123-4567 now please".toList

/-- What the pattern of international phone numbers finds in it, and that of a name. -/
def phoneDetector : PiiDetector where
  patterns :=
    [⟨"phone_intl", fun text => if text = callMe then [(5, 20)] else []⟩, ⟨"email", fun _ => []⟩]

/-- Beside the former, what the pattern of phone numbers of the United States finds. -/
def phonesDetector : PiiDetector where
  patterns := phoneDetector.patterns ++
    [⟨"phone_us", fun text => if text = callMe then [(8, 20)] else []⟩]

/-- The equivalence of a text with one number that one pattern matches. -/
theorem local_iff_separated_callMe :
    (∀ naming, Local (phoneDetector.named naming) callMe) ↔
      Separated (phoneDetector.spans callMe) :=
  local_iff_separated phoneDetector callMe (by unfold InText; decide +kernel)

/-- What is masked of the text has lost the two characters behind the number. -/
theorem mask_callMe : phonesDetector.mask callMe = "Call [PHONE_INTL]ow please".toList := by
  let whole : PiiMatch := ⟨"phone_intl", "+1 555-123-4567".toList, 5, 20⟩
  let part : PiiMatch := ⟨"phone_us", "555-123-4567".toList, 8, 20⟩
  have found : phonesDetector.detect callMe = [whole, part] := rfl
  have sorted : [whole, part].mergeSort (fun one other => decide (other.start ≤ one.start)) =
      [part, whole] := by
    simp [List.mergeSort, List.MergeSort.Internal.splitInTwo, whole, part]
  unfold mask
  rw [found, sorted]
  decide +kernel

/-- A number that two patterns match is not masked as it is to be. -/
theorem number_masked_twice : InText phonesDetector callMe ∧ ¬ Local phonesDetector callMe := by
  refine ⟨by unfold InText; decide +kernel, ?_⟩
  rintro ⟨mark, -, rendered⟩
  have expected : render (covered (phonesDetector.spans callMe)) mark 0 callMe =
      "Call ".toList ++ (mark 5 ++ " now please".toList) := rfl
  rw [mask_callMe, expected] at rendered
  have ending := congrArg (fun left => left.reverse.take 11) rendered
  simp only [List.reverse_append] at ending
  rw [List.append_assoc, List.take_append_of_le_length (by decide)] at ending
  exact absurd ending (by decide)

end Sample

end VelaFlow.Security.PiiDetector
