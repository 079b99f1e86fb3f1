import Mathlib.Data.List.Sort

/-!
# Personal data in texts

`PIIDetector` of `security/pii.py`: the spans its patterns match in a text, and the text with a
placeholder in place of each. A compiled pattern is given by the spans `finditer` yields.
-/
namespace VelaFlow.Security

/-- A named, compiled pattern. -/
structure Pattern where
  /-- Its name, in ASCII. -/
  name : String
  /-- The starts and ends that `finditer` yields in a text, in order. -/
  finditer : List Char → List (Nat × Nat)

/-- `PIIMatch`. -/
structure PiiMatch where
  /-- `pattern_name`. -/
  patternName : String
  /-- `matched_text`. -/
  matchedText : List Char
  /-- `start`. -/
  start : Nat
  /-- `end`. -/
  finish : Nat

/-- `PIIDetector`. -/
structure PiiDetector where
  /-- `_patterns`. -/
  patterns : List Pattern

namespace PiiDetector

/-- `detect`. -/
def detect (detector : PiiDetector) (text : List Char) : List PiiMatch :=
  detector.patterns.flatMap fun pattern => (pattern.finditer text).map fun (start, finish) =>
    ⟨pattern.name, (text.take finish).drop start, start, finish⟩

/-- `has_pii`: some pattern finds a span. -/
def hasPii (detector : PiiDetector) (text : List Char) : Bool :=
  detector.patterns.any fun pattern => !(pattern.finditer text).isEmpty

/-- The text with one match replaced by its placeholder. -/
def replace (text : List Char) (found : PiiMatch) : List Char :=
  text.take found.start ++ ("[" ++ found.patternName.toUpper ++ "]").toList ++ text.drop found.finish

/-- `mask`: the matches are replaced from the last to the first. -/
def mask (detector : PiiDetector) (text : List Char) : List Char :=
  ((detector.detect text).mergeSort fun first second => decide (second.start ≤ first.start)).foldl
    replace text

/-- The text the silver layer keeps: masked when there is something to mask. -/
def clean (detector : PiiDetector) (text : String) : String :=
  if detector.hasPii text.toList then String.ofList (detector.mask text.toList) else text

end PiiDetector

end VelaFlow.Security
