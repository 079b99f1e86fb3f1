import Mathlib.Data.List.Infix
import VelaFlow.Foundation.DateTime
import VelaFlow.Foundation.JsonCodec
import VelaFlow.Foundation.Python
import VelaFlow.Security.Digest

/-!
# The action ledger

`ActionLedger` of `security/action_ledger.py`: redaction, `log`, rotation and `verify_chain`. A
log file is its list of lines, by the day in its name. The substitutions of `_redact` and
`str.lower` are parameters, as is HMAC-SHA256 under the ledger's key; the disk does not fail.
-/
namespace VelaFlow.Security

open JsonText

/-- `ActionCategory`. -/
inductive ActionCategory where
  /-- `"auth"`. -/
  | auth
  /-- `"api_request"`. -/
  | apiRequest
  /-- `"pipeline"`. -/
  | pipeline
  /-- `"queue"`. -/
  | queue
  /-- `"worker"`. -/
  | worker
  /-- `"scaling"`. -/
  | scaling
  /-- `"circuit"`. -/
  | circuitBreaker
  /-- `"error"`. -/
  | error
  /-- `"crash"`. -/
  | crash
  /-- `"security"`. -/
  | security
  /-- `"tenant"`. -/
  | tenant
  /-- `"data"`. -/
  | data
  /-- `"llm"`. -/
  | llm
  /-- `"system"`. -/
  | system
  deriving DecidableEq, Repr

/-- `category.value`. -/
def ActionCategory.value : ActionCategory → String
  | auth => "auth"
  | apiRequest => "api_request"
  | pipeline => "pipeline"
  | queue => "queue"
  | worker => "worker"
  | scaling => "scaling"
  | circuitBreaker => "circuit"
  | error => "error"
  | crash => "crash"
  | security => "security"
  | tenant => "tenant"
  | data => "data"
  | llm => "llm"
  | system => "system"

/-- What the ledger takes from its libraries. -/
structure LedgerLibrary where
  /-- `_redact`. -/
  redact : String → String
  /-- `str.lower`. -/
  lower : String → String
  /-- The text of floats. -/
  floats : FloatText
  /-- HMAC-SHA256 of a payload under the key of the ledger. -/
  hmac : List Char → Digest

/-- The words that make a key sensitive. -/
def sensitiveWords : List String := ["password", "secret", "token", "key", "credential"]

namespace LedgerLibrary

variable (library : LedgerLibrary)

/-- Whether the value of a key is redacted as a whole. -/
def sensitive (key : String) : Bool :=
  sensitiveWords.any fun word => decide (word.toList <:+: (library.lower key).toList)

/-- An item of a list in `_redact_dict`. -/
def redactItem : Json → Json
  | .str text => .str (library.redact text)
  | item => item

mutual
/-- A value in `_redact_dict`, under a key that is not sensitive. -/
def redactValue : Json → Json
  | .str text => .str (library.redact text)
  | .obj members => .obj (redactDict members)
  | .arr items => .arr (items.map library.redactItem)
  | .null => .null
  | .bool value => .bool value
  | .int value => .int value
  | .float value => .float value
/-- `_redact_dict`. -/
def redactDict : List (String × Json) → List (String × Json)
  | [] => []
  | (key, value) :: rest =>
    (key, if library.sensitive key then .str "***REDACTED***" else redactValue value) ::
      redactDict rest
end

/-- `_compute_hash`. -/
def computeHash (entry : Dict) : String :=
  hexdigest (library.hmac (dumpsSorted library.floats (.obj (entry.erase "hash"))))

end LedgerLibrary

/-- The arguments of `log`. -/
structure LogCall where
  /-- `category`. -/
  category : ActionCategory
  /-- `action`. -/
  action : String
  /-- `tenant_id`. -/
  tenantId : String := ""
  /-- `user_id`. -/
  userId : String := ""
  /-- `detail`. -/
  detail : Option Dict := none
  /-- `duration_ms`. -/
  durationMs : Option ℚ := none
  /-- `status`. -/
  status : String := "ok"
  /-- `error`. -/
  error : String := ""
  /-- A dictionary of Python repeats no key. -/
  distinct : ∀ members ∈ detail, (Json.obj members).held = .obj members := by simp

/-- Whether a value is `None`. -/
def isNone : Json → Bool
  | .null => true
  | _ => false

/-- The first characters of a text. -/
def cut (text : String) (length : Nat) : String := String.ofList (text.toList.take length)

/-- `redacted_detail`. -/
def redactedDetail (library : LedgerLibrary) : Option Dict → Json
  | some members => if members.truthy then .obj (library.redactDict members) else .null
  | none => .null

/-- `redacted_error`. -/
def redactedError (library : LedgerLibrary) (error : String) : Json :=
  if error = "" then .null else .str (library.redact error)

/-- The fields of an entry before its hash is computed. -/
def entryFields (library : LedgerLibrary) (call : LogCall) (ts : DateTime) (lastHash : String) :
    Dict :=
  [("ts", .str ts.isoformat), ("cat", .str call.category.value),
   ("act", .str (cut call.action 512)), ("tid", .str (cut call.tenantId 256)),
   ("uid", .str (cut call.userId 256)), ("status", .str call.status),
   ("dur_ms", (call.durationMs.map Json.float).getD .null),
   ("detail", redactedDetail library call.detail), ("err", redactedError library call.error),
   ("prev", .str lastHash), ("hash", .str "")]

/-- The entry of a call. -/
def makeEntry (library : LedgerLibrary) (call : LogCall) (ts : DateTime) (lastHash : String) :
    Dict :=
  let entry : Dict := (entryFields library call ts lastHash).filter fun pair => !isNone pair.2
  entry.set "hash" (.str (library.computeHash entry))

/-- The memory of an `ActionLedger`. -/
structure Ledger where
  /-- `_last_hash`. -/
  lastHash : String := ""
  /-- `_entry_count`. -/
  entryCount : Nat := 0
  /-- `_max_entries`. -/
  maxEntries : Nat
  /-- A file may hold an entry. -/
  positive : 0 < maxEntries

/-- The log files, each by the day in its name; a day without lines has no file. -/
abbrev LogDir := Date → List (List Char)

/-- The file of a day with one more line. -/
def LogDir.append (dir : LogDir) (day : Date) (line : List Char) : LogDir :=
  Function.update dir day (dir day ++ [line])

/-- `_append`, with the day on which it looks for the file. -/
def Ledger.append (library : LedgerLibrary) (ledger : Ledger) (dir : LogDir) (entry : Dict)
    (day : Date) : Ledger × LogDir :=
  (if 0 < ledger.entryCount ∧ ledger.entryCount % ledger.maxEntries = 0 then
      { ledger with lastHash := "" }
    else ledger,
    dir.append day (dumps library.floats (.obj entry)))

/-- `log`, with the time of the entry and the day on which it is appended. -/
def Ledger.log (library : LedgerLibrary) (ledger : Ledger) (dir : LogDir) (call : LogCall)
    (ts : DateTime) (day : Date) : Ledger × LogDir :=
  let entry := makeEntry library call ts ledger.lastHash
  let counted := { ledger with
    lastHash := library.computeHash entry, entryCount := ledger.entryCount + 1 }
  counted.append library dir entry day

/-- `value == text`. -/
def equalsStr (value : Json) (text : String) : Bool :=
  match value with
  | .str other => decide (other = text)
  | _ => false

/-- Whether `value[:16]`, which the error messages ask for, is a slice. -/
def sliceable : Json → Bool
  | .str _ | .arr _ => true
  | _ => false

/-- How `verify_chain` rejects a value: with a message, when the value can be cut for it. -/
def reject (name : String) (value : Json) : Except PyException Bool :=
  if sliceable value then .ok false else .error (.typeError name)

/-- The loop of `verify_chain`. -/
def verifyLines (library : LedgerLibrary) : String → List (List Char) → Except PyException Bool
  | _, [] => .ok true
  | prevHash, line :: rest =>
    let text := strip line
    if text = [] then verifyLines library prevHash rest
    else
      match loads library.floats text with
      | none => .ok false
      | some (.obj members) =>
        let entry : Dict := members
        let prev := entry.getD "prev" (.str "")
        let stored := entry.getD "hash" (.str "")
        let computed := library.computeHash entry
        if !equalsStr prev prevHash then reject "prev" prev
        else if !equalsStr stored computed then reject "hash" stored
        else verifyLines library computed rest
      | some _ => .error (.other "AttributeError" "get")

/-- `verify_chain` of the file of a day. -/
def verifyChain (library : LedgerLibrary) (dir : LogDir) (day : Date) : Except PyException Bool :=
  verifyLines library "" (dir day)

end VelaFlow.Security
