import VelaFlow.Foundation.Machine
import VelaFlow.Security.AuditLog
import VelaFlow.Storage.Encrypted
import VelaFlow.Tenant.Erasure
import VelaFlow.Tenant.Users

/-!
# What the encrypted storage covers

Every writer of the application hands its documents to `EncryptedStorageBackend` under a key it
builds itself. Each writer is a case here, with what its key is built from, and the wrapped
backend is known by everything it received. The documents of users, invites and of a tenant's own
directory come in plaintext, because their keys do not fit the pattern.
-/
namespace VelaFlow.Storage

open JsonText Process Security Tenants

/-- An output of the silver layer. -/
inductive SilverOutput where
  /-- `process_todoist`. -/
  | tasks
  /-- `process_calendar`. -/
  | events
  /-- `process_gmail`. -/
  | emails
  deriving DecidableEq, Repr

/-- The name of a silver output, below its tenant's directory. -/
def SilverOutput.name : SilverOutput → String
  | .tasks => "todoist/tasks"
  | .events => "calendar/events"
  | .emails => "gmail/emails"

/-- An output of the gold layer. -/
inductive GoldOutput where
  /-- `produce_scored_tasks`. -/
  | scoredTasks
  /-- `produce_daily_digest`. -/
  | dailyDigest
  deriving DecidableEq, Repr

/-- The name of a gold output, below its tenant's directory. -/
def GoldOutput.name : GoldOutput → String
  | .scoredTasks => "scored_tasks"
  | .dailyDigest => "daily_digest"

/-- A document of a tenant or a user, by what its writer builds the key from. -/
inductive Document where
  /-- `_save_tenant`, and `_save_tenant_data` for demos. -/
  | tenant (tenantId : String)
  /-- `_bronze_path`. -/
  | bronze (tenantId source batchId : String)
  /-- The silver layer. -/
  | silver (tenantId : String) (output : SilverOutput)
  /-- The gold layer. -/
  | gold (tenantId : String) (output : GoldOutput)
  /-- `_persist_run`. -/
  | run (tenantId runId : String)
  /-- `_vault_path`. -/
  | vault (tenantId userId keyName : String)
  /-- `_save_user`. -/
  | user (userId : String)
  /-- `_update_index`. -/
  | userIndex
  /-- `create_invite` and `redeem_invite`. -/
  | invite (inviteCode : String)
  /-- `_persist_usage`. -/
  | dailyUsage (tenantId : String)
  /-- `_store_job_result`. -/
  | jobResult (tenantId messageId : String)
  /-- `_handle_scoring_config`. -/
  | scoringConfig (tenantId : String)
  deriving DecidableEq, Repr

namespace Document

/-- The key of a document. -/
def key : Document → String
  | tenant tenantId => tenantKey tenantId
  | bronze tenantId source batchId =>
    "bronze/" ++ tenantId ++ "/" ++ source ++ "/" ++ batchId ++ ".json"
  | silver tenantId output => "silver/" ++ tenantId ++ "/" ++ output.name ++ ".json"
  | gold tenantId output => "gold/" ++ tenantId ++ "/" ++ output.name ++ ".json"
  | run tenantId runId => "runs/" ++ tenantId ++ "/" ++ runId ++ ".json"
  | vault tenantId userId keyName =>
    "vault/" ++ tenantId ++ "/" ++ userId ++ "/" ++ keyName ++ ".json"
  | user userId => "users/" ++ userId ++ ".json"
  | userIndex => "users/_index.json"
  | invite inviteCode => "invites/" ++ inviteCode ++ ".json"
  | dailyUsage tenantId => dailyUsageKey tenantId
  | jobResult tenantId messageId =>
    "tenants/" ++ tenantId ++ "/job_results/" ++ messageId ++ ".json"
  | scoringConfig tenantId => "tenants/" ++ tenantId ++ "/scoring_config.json"

/-- What the pattern finds a tenant in: a tenant's record when its identifier has no slash and no
dot, a document of the layers when its tenant begins with no slash, a user or an invite only when
its identifier is itself a path, and nothing else. -/
def Covered : Document → Prop
  | tenant tenantId => tenantId.toList ≠ [] ∧ '/' ∉ tenantId.toList ∧ '.' ∉ tenantId.toList
  | bronze tenantId _ _ | silver tenantId _ | gold tenantId _ | run tenantId _
  | vault tenantId _ _ => tenantId.toList ≠ [] ∧ tenantId.toList.head? ≠ some '/'
  | user name | invite name => '/' ∈ name.toList ∧ name.toList.head? ≠ some '/'
  | userIndex | dailyUsage _ | jobResult _ _ | scoringConfig _ => False

end Document

/-- A write of the application. -/
inductive AppWrite where
  /-- A marker of `create_tenant`. -/
  | marker (layer : Layer) (tenantId : String) (created : DateTime)
  /-- `write_json` of a document, with the nonce its encryption draws. -/
  | json (document : Document) (data : Dict) (nonce : String)
  /-- `EncryptedAuditLog.log`. -/
  | auditEntry (call : AuditCall) (time : DateTime) (date : Date) (nonce : String)
  /-- `EncryptedAuditLog.purge`. -/
  | auditPurge (tenantId : String) (date : Date)
  /-- `_log_event` of the demo manager. -/
  | demoEvent (tenantId eventType : String) (time : DateTime) (data : Dict) (nonce : String)

/-- What the wrapped backend receives. -/
inductive Received where
  /-- `write_json`. -/
  | json (key : String) (data : Dict)
  /-- `write_text`. -/
  | text (key : String) (text : List Char)

/-- The wrapped backend, with the last hashes of the audit log above it. -/
structure Backend where
  /-- Everything it received, the latest first. -/
  received : List Received
  /-- The texts it holds. -/
  texts : Texts
  /-- `_last_hash`. -/
  lastHash : LastHash

/-- A backend that received nothing. -/
def Backend.empty : Backend := ⟨[], fun _ => [], fun _ => none⟩

/-- The document of a marker. -/
def markerData (layer : Layer) (tenantId : String) (created : DateTime) : Dict :=
  [("tenant_id", .str tenantId), ("layer", .str layer.name), ("created_at", .str created.isoformat)]

/-- The key of a demo's events. -/
def demoEventsKey (tenantId : String) : String := "tenants/" ++ tenantId ++ "/demo_events.jsonl"

/-- The line of a demo event. -/
def demoLine (library : AuditLibrary) (nonce tenantId eventType : String) (time : DateTime)
    (data : Dict) : List Char :=
  (library.encryptor.encrypt nonce
    (String.ofList (dumps library.floats (.obj
      [("event_type", .str eventType), ("timestamp", .str time.isoformat), ("data", .obj data)])))
    tenantId "demo_audit").toList

/-- The encrypted storage over the libraries of the audit log. -/
def storageOf (library : AuditLibrary) : EncryptedStorage :=
  ⟨library.floats, library.encryptor⟩

namespace Backend

/-- The backend after a text was written. -/
def writeText (backend : Backend) (key : String) (text : List Char) : Backend :=
  { backend with
    received := .text key text :: backend.received
    texts := Function.update backend.texts key text }

/-- The backend after a document was written. -/
def writeJson (backend : Backend) (key : String) (data : Dict) : Backend :=
  { backend with received := .json key data :: backend.received }

/-- The backend after a write of the application. -/
def receive (library : AuditLibrary) (backend : Backend) : AppWrite → Backend
  | .marker layer tenantId created =>
    backend.writeJson (markerKey layer tenantId)
      ((storageOf library).writeJson "" (markerKey layer tenantId) (markerData layer tenantId created))
  | .json document data nonce =>
    backend.writeJson document.key ((storageOf library).writeJson nonce document.key data)
  | .auditEntry call time date nonce =>
    let (_, lastHash, texts) :=
      auditLog library backend.lastHash backend.texts call time date nonce
    { backend with lastHash }.writeText (logPath call.tenantId date)
      (texts (logPath call.tenantId date))
  | .auditPurge tenantId date =>
    { backend with lastHash := Function.update backend.lastHash tenantId none }.writeText
      (logPath tenantId date) []
  | .demoEvent tenantId eventType time data nonce =>
    backend.writeText (demoEventsKey tenantId)
      (backend.texts (demoEventsKey tenantId) ++
        demoLine library nonce tenantId eventType time data ++ ['\n'])

end Backend

/-- A text of lines of ciphertext. -/
inductive CipherLines (encryptor : FieldEncryptor) : List Char → Prop
  /-- No line. -/
  | empty : CipherLines encryptor []
  /-- One more line. -/
  | line {text : List Char} (lines : CipherLines encryptor text)
      (nonce plaintext tenantId fieldName : String) :
      CipherLines encryptor
        (text ++ (encryptor.encrypt nonce plaintext tenantId fieldName).toList ++ ['\n'])

/-- A document that is an envelope for its key. -/
def IsEnvelope (encryptor : FieldEncryptor) (key : String) (data : Dict) : Prop :=
  ∃ nonce plaintext tenantId, data = envelope encryptor nonce key plaintext tenantId

/-- A document that is a partition marker. -/
def IsMarker (key : String) (data : Dict) : Prop :=
  ∃ layer tenantId created, key = markerKey layer tenantId ∧ data = markerData layer tenantId created

/-- What the wrapped backend may receive: ciphertext, or a partition marker. -/
def Sealed (encryptor : FieldEncryptor) : Received → Prop
  | .json key data => IsEnvelope encryptor key data ∨ IsMarker key data
  | .text _ text => CipherLines encryptor text

/-- A write that the encrypted storage covers: of a document that the pattern finds a tenant in, or
that is an envelope already; markers and texts always are. -/
def AppWrite.Covered (encryptor : FieldEncryptor) : AppWrite → Prop
  | .json document data _ => document.Covered ∨ IsEnvelope encryptor document.key data
  | _ => True

section Keys

/-- The tenant of a key of a layer is found where the key begins after it. -/
theorem extractTenantId_of_layer {key : String} {layer : List Char} (known : layer ∈ tenantLayers)
    {rest : List Char} (starts : key.toList = layer ++ '/' :: rest) :
    extractTenantId key.toList = directoryTenant rest := by
  rw [starts, extractTenantId_layer known]

/-- The pattern finds a tenant in the key of a document that is covered. -/
theorem extractTenantId_isSome_iff (document : Document) :
    (extractTenantId document.key.toList).isSome ↔ document.Covered := by
  cases document with
  | tenant tenantId =>
    have starts : (Document.tenant tenantId).key.toList =
        "tenants".toList ++ '/' :: (tenantId.toList ++ ".json".toList) := by
      simp [Document.key, tenantKey]
    rw [starts, extractTenantId_tenants]
    exact recordTenant_json_isSome_iff
  | bronze tenantId source batchId =>
    have starts : (Document.bronze tenantId source batchId).key.toList = "bronze".toList ++
        '/' :: (tenantId.toList ++
          '/' :: (source.toList ++ '/' :: (batchId.toList ++ ".json".toList))) := by
      simp [Document.key]
    rw [extractTenantId_of_layer (by decide) starts]
    exact directoryTenant_append_isSome_iff
  | silver tenantId output =>
    have starts : (Document.silver tenantId output).key.toList = "silver".toList ++
        '/' :: (tenantId.toList ++ '/' :: (output.name.toList ++ ".json".toList)) := by
      simp [Document.key]
    rw [extractTenantId_of_layer (by decide) starts]
    exact directoryTenant_append_isSome_iff
  | gold tenantId output =>
    have starts : (Document.gold tenantId output).key.toList = "gold".toList ++
        '/' :: (tenantId.toList ++ '/' :: (output.name.toList ++ ".json".toList)) := by
      simp [Document.key]
    rw [extractTenantId_of_layer (by decide) starts]
    exact directoryTenant_append_isSome_iff
  | run tenantId runId =>
    have starts : (Document.run tenantId runId).key.toList = "runs".toList ++
        '/' :: (tenantId.toList ++ '/' :: (runId.toList ++ ".json".toList)) := by
      simp [Document.key]
    rw [extractTenantId_of_layer (by decide) starts]
    exact directoryTenant_append_isSome_iff
  | vault tenantId userId keyName =>
    have starts : (Document.vault tenantId userId keyName).key.toList = "vault".toList ++
        '/' :: (tenantId.toList ++
          '/' :: (userId.toList ++ '/' :: (keyName.toList ++ ".json".toList))) := by
      simp [Document.key]
    rw [extractTenantId_of_layer (by decide) starts]
    exact directoryTenant_append_isSome_iff
  | user userId =>
    have starts : (Document.user userId).key.toList =
        "users".toList ++ '/' :: (userId.toList ++ ".json".toList) := by
      simp [Document.key]
    rw [extractTenantId_of_layer (by decide) starts]
    exact directoryTenant_ending_isSome_iff (by decide)
  | userIndex =>
    have plain : extractTenantId Document.userIndex.key.toList = none := by decide
    rw [plain]
    simp [Document.Covered]
  | invite inviteCode =>
    have starts : (Document.invite inviteCode).key.toList =
        "invites".toList ++ '/' :: (inviteCode.toList ++ ".json".toList) := by
      simp [Document.key]
    rw [extractTenantId_of_layer (by decide) starts]
    exact directoryTenant_ending_isSome_iff (by decide)
  | dailyUsage tenantId =>
    have starts : (Document.dailyUsage tenantId).key.toList = "tenants".toList ++
        '/' :: (tenantId.toList ++ '/' :: "daily_usage.json".toList) := by
      simp [Document.key, dailyUsageKey]
    rw [starts, extractTenantId_tenants, recordTenant_below]
    simp [Document.Covered]
  | jobResult tenantId messageId =>
    have starts : (Document.jobResult tenantId messageId).key.toList = "tenants".toList ++
        '/' :: (tenantId.toList ++
          '/' :: ("job_results/".toList ++ (messageId.toList ++ ".json".toList))) := by
      simp [Document.key]
    rw [starts, extractTenantId_tenants, recordTenant_below]
    simp [Document.Covered]
  | scoringConfig tenantId =>
    have starts : (Document.scoringConfig tenantId).key.toList = "tenants".toList ++
        '/' :: (tenantId.toList ++ '/' :: "scoring_config.json".toList) := by
      simp [Document.key]
    rw [starts, extractTenantId_tenants, recordTenant_below]
    simp [Document.Covered]

/-- A key of a JSON document is no marker's. -/
theorem isMarkerKey_json {key : String} {front : List Char}
    (ends : key.toList = front ++ ".json".toList) : isMarkerKey key = false := by
  unfold isMarkerKey List.isSuffixOf
  rw [ends, List.reverse_append]
  rfl

/-- No document has the key of a marker. -/
theorem isMarkerKey_key (document : Document) : isMarkerKey document.key = false := by
  have ends : ∃ front, document.key.toList = front ++ ".json".toList := by
    cases document with
    | userIndex => exact ⟨"users/_index".toList, by decide⟩
    | dailyUsage tenantId =>
      exact ⟨("tenants/" ++ tenantId ++ "/daily_usage").toList, by
        simp [Document.key, dailyUsageKey]⟩
    | scoringConfig tenantId =>
      exact ⟨("tenants/" ++ tenantId ++ "/scoring_config").toList, by simp [Document.key]⟩
    | tenant tenantId => exact ⟨_, String.toList_append⟩
    | _ => exact ⟨_, String.toList_append⟩
  rcases ends with ⟨front, ends⟩
  exact isMarkerKey_json ends

/-- A marker has the key of one. -/
theorem isMarkerKey_markerKey (layer : Layer) (tenantId : String) :
    isMarkerKey (markerKey layer tenantId) = true := by
  have ends : (markerKey layer tenantId).toList =
      (layer.name ++ "/" ++ tenantId ++ "/").toList ++ ".partition".toList := by
    simp [markerKey]
  unfold isMarkerKey
  rw [ends, List.isSuffixOf_iff_suffix]
  exact List.suffix_append _ _

end Keys

section Coverage

variable (library : AuditLibrary)

/-- A marker is received as it is. -/
theorem writeJson_marker (layer : Layer) (tenantId nonce : String) (data : Dict) :
    (storageOf library).writeJson nonce (markerKey layer tenantId) data = data := by
  unfold EncryptedStorage.writeJson
  split
  · rw [if_pos (isMarkerKey_markerKey layer tenantId)]
  · rfl

/-- What is received of a document is sealed exactly when the document is covered or an envelope
already. -/
theorem sealed_writeJson_iff (document : Document) (data : Dict) (nonce : String) :
    Sealed library.encryptor
        (.json document.key ((storageOf library).writeJson nonce document.key data)) ↔
      document.Covered ∨ IsEnvelope library.encryptor document.key data := by
  have other : ∀ data, ¬ IsMarker document.key data := by
    rintro data ⟨layer, tenantId, created, same, -⟩
    have marker := isMarkerKey_markerKey layer tenantId
    rw [← same, isMarkerKey_key] at marker
    cases marker
  rw [← extractTenantId_isSome_iff]
  unfold Sealed EncryptedStorage.writeJson
  cases found : extractTenantId document.key.toList with
  | none => simp [other]
  | some tenantId =>
    simp only [isMarkerKey_key, Bool.false_eq_true, if_false, Option.isSome_some, true_or, iff_true]
    exact Or.inl ⟨_, _, _, rfl⟩

/-- The texts of a backend are ciphertext. -/
def Ciphertexts (backend : Backend) : Prop :=
  ∀ key, CipherLines library.encryptor (backend.texts key)

/-- Everything a backend received is ciphertext or a marker. -/
def AllSealed (backend : Backend) : Prop :=
  ∀ received ∈ backend.received, Sealed library.encryptor received

/-- A text of ciphertext leaves only such texts. -/
theorem ciphertexts_writeText {backend : Backend} (before : Ciphertexts library backend)
    {text : List Char} (lines : CipherLines library.encryptor text) (key : String) :
    Ciphertexts library (backend.writeText key text) := by
  intro other
  by_cases same : other = key
  · rw [same]
    show CipherLines library.encryptor (Function.update backend.texts key text key)
    rw [Function.update_self]
    exact lines
  · show CipherLines library.encryptor (Function.update backend.texts key text other)
    rw [Function.update_of_ne same]
    exact before other

/-- A text of ciphertext is all right to receive. -/
theorem allSealed_writeText {backend : Backend} {text : List Char}
    (lines : CipherLines library.encryptor text) (key : String) :
    AllSealed library (backend.writeText key text) ↔ AllSealed library backend ∧ True := by
  unfold AllSealed Backend.writeText
  simp only [List.forall_mem_cons, and_true]
  exact and_iff_right lines

/-- Every write leaves texts of ciphertext, and is received sealed exactly when it is covered. -/
theorem receive_sealed (backend : Backend) (write : AppWrite)
    (before : Ciphertexts library backend) :
    Ciphertexts library (backend.receive library write) ∧
      (AllSealed library (backend.receive library write) ↔
        AllSealed library backend ∧ write.Covered library.encryptor) := by
  cases write with
  | marker layer tenantId created =>
    refine ⟨before, ?_⟩
    unfold AllSealed Backend.receive Backend.writeJson
    rw [List.forall_mem_cons, writeJson_marker]
    have marker : IsMarker (markerKey layer tenantId) (markerData layer tenantId created) :=
      ⟨layer, tenantId, created, rfl, rfl⟩
    constructor
    · exact fun all => ⟨all.2, trivial⟩
    · exact fun all => ⟨Or.inr marker, all.1⟩
  | json document data nonce =>
    refine ⟨before, ?_⟩
    unfold AllSealed Backend.receive Backend.writeJson
    rw [List.forall_mem_cons, sealed_writeJson_iff]
    exact and_comm
  | auditEntry call time date nonce =>
    have lines : CipherLines library.encryptor
        ((auditLog library backend.lastHash backend.texts call time date nonce).2.2
          (logPath call.tenantId date)) := by
      unfold auditLog
      simp only [Function.update_self]
      exact CipherLines.line (before _) nonce _ _ _
    exact ⟨ciphertexts_writeText library before lines _, allSealed_writeText library lines _⟩
  | auditPurge tenantId date =>
    have lines : CipherLines library.encryptor [] := CipherLines.empty
    exact ⟨ciphertexts_writeText library before lines _, allSealed_writeText library lines _⟩
  | demoEvent tenantId eventType time data nonce =>
    have lines := CipherLines.line (before (demoEventsKey tenantId)) nonce
      (String.ofList (dumps library.floats (.obj
        [("event_type", .str eventType), ("timestamp", .str time.isoformat),
         ("data", .obj data)]))) tenantId "demo_audit"
    exact ⟨ciphertexts_writeText library before lines _, allSealed_writeText library lines _⟩

/-- Over every run of writes, the wrapped backend receives only ciphertext and partition markers
exactly when every write is covered. -/
theorem only_ciphertext_iff (writes : List AppWrite) :
    AllSealed library (writes.foldl (Backend.receive library) .empty) ↔
      ∀ write ∈ writes, write.Covered library.encryptor := by
  have start : Ciphertexts library .empty := fun _ => CipherLines.empty
  have none : AllSealed library .empty := by simp [AllSealed, Backend.empty]
  rw [Machine.foldl_iff_forall (Ciphertexts library) (AllSealed library) (receive_sealed library)
    start writes]
  exact and_iff_right none

end Coverage

section Sample

/-- An audit library that encrypts as the samples do. -/
def sampleAuditLibrary : AuditLibrary where
  floats := .fractions
  sha256 _ := zeroDigest
  encryptor := sampleEncryptor

/-- A user as created on a first login. -/
def sampleUser : User where
  userId := "usr_0011223344556677"
  tenantId := "tn_8899aabbccddeeff"
  googleSub := "117"
  email := "ana@example.com"
  createdAt := DateTime.newYear

/-- The record of a new user is received in plaintext. -/
theorem user_received_in_plaintext :
    ¬ AllSealed sampleAuditLibrary
      ([AppWrite.json (.user sampleUser.userId) sampleUser.toDict ""].foldl
        (Backend.receive sampleAuditLibrary) .empty) := by
  intro all
  have received := (sealed_writeJson_iff sampleAuditLibrary _ _ _).mp (all _ List.mem_cons_self)
  rcases received with covered | ⟨nonce, plaintext, tenantId, same⟩
  · have plain : '/' ∉ sampleUser.userId.toList := by decide
    exact plain covered.1
  · have marks := congrArg (Dict.get? · "_encrypted") same
    have none : sampleUser.toDict.get? "_encrypted" = none := rfl
    have some : (envelope sampleEncryptor nonce (Document.user sampleUser.userId).key plaintext
        tenantId).get? "_encrypted" = some (.bool true) := rfl
    cases none.symm.trans (marks.trans some)

end Sample

end VelaFlow.Storage
