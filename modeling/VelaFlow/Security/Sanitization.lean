import VelaFlow.Foundation.Python

/-!
# Content sanitization

`sanitize_text` and `sanitize_for_llm` of `security/sanitization.py`. The compiled patterns of
the module are a parameter: each is known by what its `sub` or `search` does to a text. The
control character class is spelled out.
-/
namespace VelaFlow.Security

/-- `MAX_LLM_PROMPT_LENGTH`. -/
def maxLlmPromptLength : Nat := 8000

/-- What the compiled patterns of the module do. -/
structure Patterns where
  /-- `_SCRIPT_PATTERN.sub("", text)`. -/
  stripScripts : String → String
  /-- `_EVENT_HANDLER.sub("", text)`. -/
  stripEventHandlers : String → String
  /-- `_HTML_TAGS.sub("", text)`. -/
  stripTags : String → String
  /-- `_PROMPT_INJECTION_PATTERNS`: each name with its `search`. -/
  promptInjection : List (String × (String → Bool))

/-- The class of `_CONTROL_CHARS`. -/
def isControl (character : Char) : Bool :=
  let code := character.toNat
  code ≤ 8 || code == 0x0B || code == 0x0C || (0x0E ≤ code && code ≤ 0x1F) ||
    (0x7F ≤ code && code ≤ 0x9F)

/-- `_CONTROL_CHARS.sub("", text)`. -/
def stripControl (text : String) : String :=
  String.ofList (text.toList.filter fun character => !isControl character)

/-- `_INJECTION_PREFIX`. -/
def injectionPrefix : String := "[SANITIZED_USER_CONTENT] "

/-- `_INJECTION_SUFFIX`. -/
def injectionSuffix : String := " [/SANITIZED_USER_CONTENT]"

/-- `SanitizationResult`. -/
structure SanitizationResult where
  /-- `text`. -/
  text : String
  /-- `was_modified`. -/
  wasModified : Bool := false
  /-- `injection_detected`. -/
  injectionDetected : Bool := false
  /-- `detected_patterns`. -/
  detectedPatterns : Option (List String) := none
  /-- `truncated`. -/
  truncated : Bool := false

/-- `sanitize_text`. -/
def sanitizeText (patterns : Patterns) (text : String) (maxLength : Nat) (checkInjection : Bool)
    (stripHtml : Bool) : SanitizationResult :=
  if text = "" then { text := "" }
  else
    let cleaned := stripControl text
    let stripped :=
      if stripHtml then
        patterns.stripTags (patterns.stripEventHandlers (patterns.stripScripts cleaned))
      else cleaned
    let truncated := decide (maxLength < stripped.length)
    let kept := if truncated then String.ofList (stripped.toList.take maxLength) else stripped
    let detected :=
      if checkInjection then
        (patterns.promptInjection.filter fun pattern => pattern.2 kept).map Prod.fst
      else []
    let injectionFound := !detected.isEmpty
    { text := if injectionFound then injectionPrefix ++ kept ++ injectionSuffix else kept
      wasModified := decide (cleaned ≠ text) || decide (stripped ≠ cleaned) || truncated ||
        injectionFound
      injectionDetected := injectionFound
      detectedPatterns := if injectionFound then some detected else none
      truncated }

section Stripping

variable (patterns : Patterns) (text : String)

/-- What the control characters and the markup of a text leave of it. -/
def stripMarkup : String :=
  patterns.stripTags (patterns.stripEventHandlers (patterns.stripScripts (stripControl text)))

/-- The part of a text that is kept: nothing of an empty one, and the characters up to the length
limit of what is left of another. -/
def keptPart (maxLength : Nat) : String :=
  if text = "" then "" else String.ofList ((stripMarkup patterns text).toList.take maxLength)

/-- Cutting a text that is short enough changes nothing. -/
theorem cut_eq (stripped : String) (limit : Nat) :
    (if decide (limit < stripped.length) = true then String.ofList (stripped.toList.take limit)
      else stripped) = String.ofList (stripped.toList.take limit) := by
  by_cases long : limit < stripped.length
  · rw [if_pos (decide_eq_true long)]
  · have short : stripped.toList.length ≤ limit := Nat.le_of_not_lt long
    rw [if_neg (by simpa using long), List.take_of_length_le short, String.ofList_toList]

end Stripping

/-- `sanitize_for_llm` with its default length limit. -/
def sanitizeForLlm (patterns : Patterns) (text : String) : String :=
  let result := sanitizeText patterns text maxLlmPromptLength true true
  if result.injectionDetected then result.text
  else "[USER_DATA_BEGIN]\n" ++ result.text ++ "\n[USER_DATA_END]"

/-- `_MAX_SCAN_LENGTH`. -/
def maxScanLength : Nat := 50000

/-- `has_prompt_injection`. -/
def hasPromptInjection (patterns : Patterns) (text : String) : Bool :=
  if text = "" then false
  else
    let scan := String.ofList (text.toList.take maxScanLength)
    patterns.promptInjection.any fun pattern => pattern.2 scan

end VelaFlow.Security
