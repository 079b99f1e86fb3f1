import Mathlib.Data.Prod.Lex
import Mathlib.Data.String.Basic
import VelaFlow.Foundation.DateTime
import VelaFlow.Foundation.KeyValue
import VelaFlow.Foundation.Python
import VelaFlow.Foundation.Sorting
import VelaFlow.Storage.Disk

/-!
# The configuration builder of the installer

`ConfigBuilder` of `scripts/installer.py`. It reads the lines of `config/.env`, takes one pair of
quotes off each value, and writes the values back in groups, quoted and escaped. The file is its
text; it is read in text mode.
-/
namespace VelaFlow.Installer

open Storage

/-- `ConfigBuilder`. -/
structure ConfigBuilder where
  /-- `values`, in the order of the dictionary. -/
  values : List (String × String) := []
  /-- A dictionary has each key once. -/
  distinct : (values.map Prod.fst).Nodup

/-- The apostrophe. -/
def singleQuote : Char := Char.ofNat 39

/-- What `_load_existing` takes of the text behind the first `=` of a line: one pair of surrounding
quotes is stripped. -/
def unquote (val : List Char) : List Char :=
  if 2 ≤ val.length ∧ val.head? = val.getLast? ∧
      (val.head? = some '"' ∨ val.head? = some singleQuote) then
    val.tail.dropLast
  else val

/-- What `_load_existing` reads of a line: nothing of a blank line, a comment or a line without
`=`. -/
def readLine (line : List Char) : Option (String × String) :=
  let line := strip line
  if line ≠ [] ∧ line.head? ≠ some '#' ∧ '=' ∈ line then
    let key := line.takeWhile fun character => character ≠ '='
    let val := strip (line.dropWhile fun character => character ≠ '=').tail
    some (String.ofList (strip key), String.ofList (unquote val))
  else none

/-- `text.replace(old, new)` for one character. -/
def replaceChar (old : Char) (new : List Char) (text : List Char) : List Char :=
  text.flatMap fun character => if character = old then new else [character]

/-- `_escape_env_value`. -/
def escapeEnvValue (value : String) : String :=
  String.ofList (replaceChar '\n' ['\\', 'n'] (replaceChar '"' ['\\', '"']
    (replaceChar '\\' ['\\', '\\'] value.toList)))

/-- The first and the fourth line of the file. -/
def ruleLine : String := "# " ++ String.join (List.replicate 63 "â•\u0090")

/-- `time.strftime('%Y-%m-%d %H:%M:%S')`. -/
def stampText (time : DateTime) : String :=
  String.ofList (time.date.isoChars ++ ' ' :: digits 2 time.hour ++ ':' :: digits 2 time.minute ++
    ':' :: digits 2 time.second)

/-- The lines before the groups. -/
def headerLines (time : DateTime) : List String :=
  [ruleLine, "# VelaFlow â€” Configuration (auto-generated by installer)",
    "# Generated: " ++ stampText time, ruleLine, ""]

/-- `groups`: each with the keys it writes. -/
def groups : List (String × List String) := [
  ("Platform & Domain", [
    "VELAFLOW_DOMAIN", "VELAFLOW_API_PORT", "CORS_ALLOWED_ORIGINS", "ENVIRONMENT"]),
  ("Todoist (REQUIRED)", [
    "TODOIST_API_TOKEN"]),
  ("Zero-Trust Proxy", [
    "LITELLM_PROXY_URL", "LITELLM_PROXY_TOKEN", "LITELLM_PROXY_MODEL", "DEMO_MODE",
    "BRAIN_READ_ONLY"]),
  ("AI Keys (direct â€” local dev only)", [
    "GOOGLE_AI_API_KEY", "GOOGLE_AI_MODEL", "GOOGLE_AI_FALLBACK_MODEL", "GOOGLE_AI_LITE_MODEL",
    "GROQ_API_KEY", "GROQ_MODEL"]),
  ("Email Delivery", [
    "SMTP_HOST", "SMTP_PORT", "SMTP_USERNAME", "SMTP_PASSWORD", "DIGEST_FROM_EMAIL",
    "DIGEST_TO_EMAIL"]),
  ("Notion Integration", [
    "NOTION_API_TOKEN", "NOTION_ROOT_PAGE_ID", "NOTION_COMMAND_CENTER_ID",
    "NOTION_DAILY_PLANNER_DB_ID", "NOTION_WEEKLY_PLANNER_DB_ID",
    "NOTION_WEEKEND_PLANNER_DB_ID", "NOTION_BOARD_DB_ID"]),
  ("WhatsApp (CallMeBot)", [
    "CALLMEBOT_PHONE", "CALLMEBOT_API_KEY", "CALLMEBOT_SECONDARY_PHONE",
    "CALLMEBOT_SECONDARY_API_KEY"]),
  ("Gmail IMAP", [
    "GMAIL_IMAP_HOST", "GMAIL_IMAP_PORT", "GMAIL_IMAP_USERNAME", "GMAIL_IMAP_PASSWORD"]),
  ("Google Calendar OAuth", [
    "GOOGLE_OAUTH_CLIENT_SECRETS_FILE", "GOOGLE_OAUTH_TOKEN_FILE"]),
  ("Google OAuth2 (multi-user auth)", [
    "GOOGLE_OAUTH_CLIENT_ID", "GOOGLE_OAUTH_CLIENT_SECRET", "VELAFLOW_OWNER_EMAIL"]),
  ("NotebookLM", [
    "NOTEBOOKLM_NOTEBOOK_ID", "NOTEBOOKLM_NOTEBOOK_NAME"]),
  ("Ollama / Local LLM", [
    "OLLAMA_BASE_URL", "OLLAMA_CPU_MODEL", "OLLAMA_GPU_MODEL"]),
  ("RAG", [
    "RAG_DUCKDB_PATH", "RAG_CHUNK_SIZE", "RAG_CHUNK_OVERLAP"]),
  ("Schedule", [
    "WORKDAY_START_HOUR", "WORKDAY_END_HOUR", "WEEKEND_DAY_START_HOUR", "WEEKEND_DAY_END_HOUR",
    "DEFAULT_TASK_DURATION_MINUTES", "WEEKEND_CAPACITY_HOURS"]),
  ("Digest Limits", [
    "DAILY_TOP_TASK_LIMIT", "OVERDUE_SECTION_LIMIT", "WEEKEND_TASK_LIMIT"]),
  ("Security", [
    "JWT_SECRET", "VELAFLOW_MASTER_KEY"]),
  ("Timezone", [
    "TZ"]),
  ("Logging", [
    "LOG_LEVEL", "LOG_DIR", "LOG_MAX_SIZE_MB", "LOG_RETENTION_DAYS"])]

/-- The line above a group. -/
def groupLine (name : String) : String :=
  "# â”€â”€ " ++ name ++ " " ++ String.join (List.replicate (max 1 (50 - name.length)) "â”€")

/-- The line above the keys of no group. -/
def otherLine : String := "# â”€â”€ Other " ++ String.join (List.replicate 45 "â”€")

/-- The line of a key. -/
def entryLine (entry : String × String) : String :=
  entry.1 ++ "=\"" ++ escapeEnvValue entry.2 ++ "\""

namespace ConfigBuilder

/-- `values[key] = value`. -/
def assign (builder : ConfigBuilder) (key value : String) : ConfigBuilder :=
  ⟨VelaFlow.assign builder.values key value, nodup_assign builder.distinct key value⟩

/-- A builder without values. -/
def empty : ConfigBuilder := ⟨[], List.nodup_nil⟩

/-- `set`, which ignores an empty value. -/
def set (builder : ConfigBuilder) (key value : String) : ConfigBuilder :=
  if value = "" then builder else builder.assign key value

/-- `values.get(key)`. -/
def find (builder : ConfigBuilder) (key : String) : Option String := builder.values.lookup key

/-- `ConfigBuilder()` where `config/.env` has a text: the lines are assigned in their order. -/
def load (text : List Char) : ConfigBuilder :=
  (((newlines text).splitOn '\n').filterMap readLine).foldl
    (fun builder entry => builder.assign entry.1 entry.2) empty

/-- The entries of a group. -/
def groupEntries (builder : ConfigBuilder) (keys : List String) : List (String × String) :=
  keys.filterMap fun key => (builder.find key).map fun value => (key, value)

/-- The lines of a group; a group without values has none. -/
def groupLines (builder : ConfigBuilder) (group : String × List String) : List String :=
  if group.2.any fun key => (builder.find key).isSome then
    groupLine group.1 :: (builder.groupEntries group.2).map entryLine ++ [""]
  else []

/-- `sorted(extras.items())`: the entries of no group. -/
def extras (builder : ConfigBuilder) : List (String × String) :=
  sortBy (fun entry => toLex entry)
    (builder.values.filter fun entry => !(groups.flatMap Prod.snd).contains entry.1)

/-- The lines behind the groups. -/
def extraLines (builder : ConfigBuilder) : List String :=
  if builder.extras = [] then [] else otherLine :: builder.extras.map entryLine ++ [""]

/-- `lines`. -/
def lines (builder : ConfigBuilder) (time : DateTime) : List String :=
  headerLines time ++ groups.flatMap builder.groupLines ++ builder.extraLines

/-- `write`: the text of `config/.env` after it. -/
def write (builder : ConfigBuilder) (time : DateTime) : List Char :=
  ("\n".intercalate (builder.lines time) ++ "\n").toList

/-- The builder of the last of some installer runs that change nothing: each writes the file at its
time, and the next reads it. -/
def after (builder : ConfigBuilder) (times : List DateTime) : ConfigBuilder :=
  times.foldl (fun builder time => load (builder.write time)) builder

end ConfigBuilder

end VelaFlow.Installer
