import VelaFlow.Foundation.HashChain
import VelaFlow.Foundation.JsonCodec
import VelaFlow.Security.Digest
import VelaFlow.Tenant.Records

/-!
# The audit log

`AuditEntry` and `EncryptedAuditLog` of `security/audit_log.py`. A text that is not there counts
as empty, as the code treats it; reading and writing it do not fail. SHA-256 and the encryptor
are parameters.
-/
namespace VelaFlow.Security

open JsonText Tenants

/-- What the audit log takes from its libraries. -/
structure AuditLibrary where
  /-- The text of floats. -/
  floats : FloatText
  /-- SHA-256. -/
  sha256 : List Char → Digest
  /-- `_encryptor`. -/
  encryptor : FieldEncryptor

/-- `MAX_ENTRIES_PER_FILE`. -/
def maxEntriesPerFile : Nat := 10000

/-- `AuditEntry`. -/
structure AuditEntry where
  /-- `timestamp`. -/
  timestamp : String
  /-- `tenant_id`. -/
  tenantId : String
  /-- `user_id`. -/
  userId : String
  /-- `action`. -/
  action : String
  /-- `resource`. -/
  resource : String
  /-- `detail`. -/
  detail : Dict
  /-- `chain_hash`. -/
  chainHash : String
  /-- `previous_hash`. -/
  previousHash : String

namespace AuditEntry

/-- The text that is hashed for an entry, without the previous hash at its end. -/
def content (floats : FloatText) (entry : AuditEntry) : List Char :=
  entry.timestamp.toList ++ '|' :: entry.tenantId.toList ++ '|' :: entry.userId.toList ++
    '|' :: entry.action.toList ++ '|' :: entry.resource.toList ++
    '|' :: dumpsSorted floats (.obj entry.detail)

/-- `_compute_hash`. -/
def computeHash (library : AuditLibrary) (entry : AuditEntry) : String :=
  hexdigest (library.sha256 (entry.content library.floats ++ '|' :: entry.previousHash.toList))

/-- `to_dict`. -/
def toDict (entry : AuditEntry) : Dict :=
  [("timestamp", .str entry.timestamp), ("tenant_id", .str entry.tenantId),
   ("user_id", .str entry.userId), ("action", .str entry.action),
   ("resource", .str entry.resource), ("detail", .obj entry.detail),
   ("chain_hash", .str entry.chainHash), ("previous_hash", .str entry.previousHash)]

/-- `from_dict`. -/
def fromDict (data : Dict) : Except PyException AuditEntry := do
  let timestamp ← field asStr data "timestamp"
  let tenantId ← field asStr data "tenant_id"
  let userId ← fieldD asStr data "user_id" ""
  let action ← field asStr data "action"
  let resource ← fieldD asStr data "resource" ""
  let detail ← fieldD asDict data "detail" []
  let chainHash ← field asStr data "chain_hash"
  let previousHash ← fieldD asStr data "previous_hash" ""
  return { timestamp, tenantId, userId, action, resource, detail, chainHash, previousHash }

end AuditEntry

/-- The arguments of `log`. -/
structure AuditCall where
  /-- `tenant_id`. -/
  tenantId : String
  /-- `action`. -/
  action : String
  /-- `resource`. -/
  resource : String := ""
  /-- `detail`. -/
  detail : Option Dict := none
  /-- `user_id`. -/
  userId : String := ""
  /-- A dictionary of Python repeats no key. -/
  distinct : ∀ members ∈ detail, (Json.obj members).held = .obj members

/-- No dictionary repeats no key. -/
theorem distinct_none :
    ∀ members ∈ (none : Option Dict), (Json.obj members).held = .obj members := by
  simp

/-- `AuditEntry(...)`, at a time. -/
def AuditCall.entry (library : AuditLibrary) (call : AuditCall) (time : DateTime)
    (previousHash : String) : AuditEntry :=
  let entry : AuditEntry :=
    { timestamp := time.isoformat, tenantId := call.tenantId, userId := call.userId,
      action := call.action, resource := call.resource, detail := call.detail.getD [],
      chainHash := "", previousHash }
  { entry with chainHash := entry.computeHash library }

/-- `strftime("%Y-%m")` of a UTC time. -/
def monthKey (date : Date) : String :=
  String.ofList (digits 4 date.year ++ '-' :: digits 2 date.month)

/-- `_log_path`, in the month of a date. -/
def logPath (tenantId : String) (date : Date) : String :=
  "tenants/" ++ tenantId ++ "/audit/" ++ monthKey date ++ ".log"

/-- What the storage holds as text, by key. -/
abbrev Texts := String → List Char

/-- `_last_hash` of an `EncryptedAuditLog`. -/
abbrev LastHash := String → Option String

/-- The line of an entry. -/
def auditLine (library : AuditLibrary) (nonce : String) (entry : AuditEntry) : List Char :=
  (library.encryptor.encrypt nonce (String.ofList (dumps library.floats (.obj entry.toDict)))
    entry.tenantId "audit_log").toList

/-- `log`, with the time of the entry, the date its path is of, and the nonce it draws. -/
def auditLog (library : AuditLibrary) (lastHash : LastHash) (texts : Texts) (call : AuditCall)
    (time : DateTime) (date : Date) (nonce : String) : AuditEntry × LastHash × Texts :=
  let entry := call.entry library time ((lastHash call.tenantId).getD "")
  let path := logPath call.tenantId date
  (entry, Function.update lastHash call.tenantId (some entry.chainHash),
    Function.update texts path (texts path ++ auditLine library nonce entry ++ ['\n']))

/-- The entry that a decrypted text is of. -/
def readText (library : AuditLibrary) (text : String) : Option AuditEntry :=
  match loads library.floats text.toList with
  | some (.obj data) => (AuditEntry.fromDict data).toOption
  | _ => none

/-- What a line decrypts to. -/
def openLine (library : AuditLibrary) (tenantId : String) (line : List Char) : Option String :=
  if strip line = [] then none
  else (library.encryptor.decrypt (String.ofList (strip line)) tenantId "audit_log").toOption

/-- `raw.strip().split("\n")`. -/
def textLines (raw : List Char) : List (List Char) := (strip raw).splitOn '\n'

/-- `read` of a text: what is blank or fails is passed over. -/
def readAudit (library : AuditLibrary) (tenantId : String) (raw : List Char) (limit offset : Nat) :
    List AuditEntry :=
  if raw = [] then []
  else (((textLines raw).drop offset).take limit).filterMap fun line =>
    (openLine library tenantId line).bind (readText library)

/-- The loop of `verify_chain`. -/
def verifyEntries (library : AuditLibrary) : String → List AuditEntry → Bool
  | _, [] => true
  | previousHash, entry :: rest =>
    if entry.previousHash ≠ previousHash then false
    else if entry.chainHash ≠ entry.computeHash library then false
    else verifyEntries library entry.chainHash rest

/-- `verify_chain` of a text. -/
def verifyAudit (library : AuditLibrary) (tenantId : String) (raw : List Char) : Bool :=
  verifyEntries library "" (readAudit library tenantId raw maxEntriesPerFile 0)

end VelaFlow.Security
