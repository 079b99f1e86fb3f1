import VelaFlow.Foundation.Removal
import VelaFlow.Security.Sanitization

/-!
# What stripping leaves of markup

The patterns of scripts, event handlers and tags, and what one pass with each of them leaves of a
text. A pass does not look again at what it has moved together. So a text is free of markup exactly
when nothing in it that reads as markup was torn apart by markup.
-/
namespace VelaFlow.Security

open Recognizer Matcher

/-- The characters that `\w` stands for. -/
structure WordClass where
  /-- Whether a character is one of them. -/
  isWord : Char → Bool
  /-- Of the characters of ASCII the letters, the digits and the underscore are. -/
  ascii : ∀ character, character.toNat < 128 →
    isWord character = (character.isAlphanum || character == '_')
  /-- White space is none. -/
  notSpace : ∀ character, isSpace character = true → isWord character = false

/-- The characters that a small letter of a pattern stands for under `re.IGNORECASE`. -/
def variants : Char → List Char
  | 's' => ['s', 'S', 'ſ']
  | 'i' => ['i', 'I', 'İ', 'ı']
  | letter => [letter, letter.toUpper]

/-- A word of small letters under `re.IGNORECASE`. -/
def literal (word : String) (next : Recognizer Char) : Recognizer Char :=
  word.toList.foldr (fun letter => one fun character => (variants letter).contains character) next

/-- `["']`. -/
def isQuote (character : Char) : Bool := "\"'".toList.contains character

/-- `_SCRIPT_PATTERN`: `<\s*script[^>]*>.*?<\s*/\s*script\s*>`. -/
def scriptPattern : Recognizer Char :=
  one (· == '<') <| run isSpace <| literal "script" <| run (· != '>') <| one (· == '>') <|
    seek <| one (· == '<') <| run isSpace <| one (· == '/') <| run isSpace <| literal "script" <|
      run isSpace <| one (· == '>') done

/-- `_EVENT_HANDLER` behind its `\b`: `on\w+\s*=\s*["'][^"']*["']`. -/
def eventHandlerPattern (words : WordClass) : Recognizer Char :=
  literal "on" <| one words.isWord <| run words.isWord <| run isSpace <| one (· == '=') <|
    run isSpace <| one isQuote <| run (fun character => !isQuote character) <| one isQuote done

/-- `_HTML_TAGS`: `<[^>]{0,500}>`. -/
def htmlTagPattern : Recognizer Char :=
  one (· == '<') <| atMost (· != '>') (one (· == '>') done) 500

/-- What `_SCRIPT_PATTERN` finds. -/
def scripts : Matcher Char := behind (fun _ => true) scriptPattern

/-- What `_EVENT_HANDLER` finds: the `\b` before its letter wants no word before it. -/
def eventHandlers (words : WordClass) : Matcher Char :=
  behind (fun before => !before.any words.isWord) (eventHandlerPattern words)

/-- What `_HTML_TAGS` finds. -/
def htmlTags : Matcher Char := behind (fun _ => true) htmlTagPattern

section Soundness

variable {next : Recognizer Char} {ending : Char → Bool}

end Soundness

section Places

variable (words : WordClass) (text : String) (maxLength : Nat)

/-- The characters that are no control characters, with their places. -/
def placed : List (Char × Nat) := (stripControl text).toList.zipIdx

/-- Those that are in no script. -/
def withoutScripts : List (Char × Nat) := (scripts.on Prod.fst).remove (placed text)

/-- Of these those that are in no event handler. -/
def withoutHandlers : List (Char × Nat) :=
  ((eventHandlers words).on Prod.fst).remove (withoutScripts text)

/-- Of these those that are in no tag. -/
def withoutTags : List (Char × Nat) := (htmlTags.on Prod.fst).remove (withoutHandlers words text)

/-- Of these those that the length limit leaves. -/
def left : List (Char × Nat) := (withoutTags words text).take maxLength

end Places

section Passes

variable {words : WordClass} {text : String} {maxLength : Nat}

end Passes

end VelaFlow.Security
