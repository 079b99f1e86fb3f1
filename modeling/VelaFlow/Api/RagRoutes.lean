import VelaFlow.Api.Auth
import VelaFlow.Queue.WorkerRuns
import VelaFlow.Rag.Replacement

/-!
# The RAG routes

Ingestion and deletion in `api/routes/rag.py`, and the RAG pipeline of `rag.py` under them and under
the worker, which share one table. A payload of the worker may hold any JSON value where a text is
expected; metadata that is no object is left out of the table.
-/
namespace VelaFlow.Api

open Process Queue Security Tenants Rag

/-- What the libraries of the pipeline make of values that are no texts. -/
structure RagLibrary where
  /-- `str(value)` in an f-string. -/
  str : Json → String
  /-- What DuckDB stores of a value in a column of texts. -/
  column : Json → Except PyException String

namespace RagLibrary

variable (library : RagLibrary)

/-- `f"{document_id}"`. -/
def documentName : Json → String
  | .str name => name
  | value => library.str value

/-- `document_id` as the table stores it, in a column that is `NOT NULL`. -/
def storedName : Json → Except PyException String
  | .str name => .ok name
  | .null => .error (.other "ConstraintException" "rag_chunks.document_id")
  | value => library.column value

/-- The text that `sanitize_text` reads: nothing of what is false, and an error of anything else that
is no text. -/
def readText : Json → Except PyException String
  | .str text => .ok text
  | value => if value.truthy then .error (.typeError "text") else .ok ""

/-- `metadata or {}`. -/
def readMetadata : Json → Dict
  | .obj members => members
  | _ => []

/-- The rows that an ingest makes. -/
def rows (pipeline : RAGPipeline ℚ) (tenantId : String) (text documentId metadata : Json) :
    Except PyException (List (DocumentChunk ℚ)) := do
  let content ← readText text
  let chunks ← pipeline.chunks content (library.documentName documentId) tenantId
    (readMetadata metadata)
  let name ← library.storedName documentId
  return chunks.map fun chunk => { chunk with documentId := name }

/-- `RAGPipeline.ingest`, of JSON values. -/
def ingest (pipeline : RAGPipeline ℚ) (tenantId : String) (text documentId metadata : Json)
    (maxDocuments : Nat) (store : VectorStore ℚ) : Except PyException Nat × VectorStore ℚ :=
  if RAGPipeline.admits store tenantId maxDocuments then
    match library.rows pipeline tenantId text documentId metadata with
    | .error exception => (.error exception, store)
    | .ok chunks => (.ok (store.storeChunks chunks).2, (store.storeChunks chunks).1)
  else
    (.error (.permissionError
      s!"Document quota exceeded: {store.countDocuments tenantId}/{maxDocuments}"), store)

/-- `RAGPipeline.delete_document`, of a JSON value; nothing equals `NULL`. -/
def deleteDocument (tenantId : String) (documentId : Json) (store : VectorStore ℚ) :
    Except PyException Nat × VectorStore ℚ :=
  match documentId with
  | .str name => (.ok (store.deleteDocument tenantId name).2, (store.deleteDocument tenantId name).1)
  | .null => (.ok 0, store)
  | value =>
    match library.column value with
    | .error exception => (.error exception, store)
    | .ok name =>
      (.ok (store.deleteDocument tenantId name).2, (store.deleteDocument tenantId name).1)

/-- Of texts, an ingest is that of the pipeline. -/
theorem ingest_str (pipeline : RAGPipeline ℚ) (tenantId text documentId : String) (metadata : Dict)
    (maxDocuments : Nat) (store : VectorStore ℚ) :
    library.ingest pipeline tenantId (.str text) (.str documentId) (.obj metadata) maxDocuments
        store =
      pipeline.ingest store text documentId tenantId metadata maxDocuments := by
  have same : library.rows pipeline tenantId (.str text) (.str documentId) (.obj metadata) =
      pipeline.chunks text documentId tenantId metadata := by
    cases made : pipeline.chunks text documentId tenantId metadata with
    | error exception =>
      simp [rows, readText, documentName, readMetadata, made, bind, Except.bind]
    | ok chunks =>
      have named : (chunks.map fun chunk => { chunk with documentId := documentId }) = chunks := by
        nth_rewrite 2 [← List.map_id chunks]
        apply List.map_congr_left
        intro chunk member
        rw [← RAGPipeline.documentId_of_mem_chunks made member]
        rfl
      simp [rows, readText, documentName, readMetadata, storedName, made, bind, Except.bind, pure,
        Except.pure, named]
  unfold ingest RAGPipeline.ingest
  rw [same]
  cases pipeline.chunks text documentId tenantId metadata <;> rfl

/-- Every row of an ingest is the tenant's and of the document. -/
theorem own_of_rows {pipeline : RAGPipeline ℚ} {tenantId : String} {text documentId metadata : Json}
    {made : List (DocumentChunk ℚ)}
    (rows : library.rows pipeline tenantId text documentId metadata = .ok made) :
    ∃ name, library.storedName documentId = .ok name ∧
      ∀ chunk ∈ made, chunk.tenantId = tenantId ∧ chunk.documentId = name := by
  obtain ⟨content, -, chunked⟩ := bind_ok_iff.mp rows
  obtain ⟨chunks, made, named⟩ := bind_ok_iff.mp chunked
  obtain ⟨name, stored, same⟩ := bind_ok_iff.mp named
  cases same
  refine ⟨name, stored, ?_⟩
  intro chunk member
  obtain ⟨before, inside, rfl⟩ := List.mem_map.mp member
  have mine : before.tenantId = tenantId := RAGPipeline.tenantId_of_mem_chunks made inside
  exact ⟨mine, rfl⟩

end RagLibrary

/-- `_DOC_QUOTA_BY_TIER`. -/
def docQuotaByTier : List (String × Nat) := [("demo", 5), ("vip", 1000), ("admin", 0)]

/-- `_tenant_quota`. -/
def tenantQuota (role : String) : Nat := (docQuotaByTier.lookup role).getD 0

/-- `getattr(tenant.config, "tier", None)`: a configuration has no tier. -/
def configTier (_ : TenantConfig) : Option TenantTier := none

/-- `IngestRequest`. -/
structure IngestRequest where
  /-- `document_id`. -/
  documentId : String
  /-- `text`. -/
  text : String
  /-- `metadata`. -/
  metadata : Dict := []
  /-- The bounds of the document id. -/
  named : 1 ≤ documentId.length ∧ documentId.length ≤ 256
  /-- The bound of the text. -/
  written : 1 ≤ text.length

/-- What the RAG routes and the RAG handler are built from. -/
structure RagService where
  /-- The tenant manager. -/
  manager : TenantManager
  /-- `get_rbac`. -/
  policy : RBACPolicy := {}
  /-- The libraries of the pipelines. -/
  library : RagLibrary
  /-- `get_rag_pipeline`. -/
  pipeline : RAGPipeline ℚ
  /-- The pipeline that the handler builds. -/
  workerPipeline : RAGPipeline ℚ

namespace RagService

variable (service : RagService)

/-- The worker that serves the messages. -/
def worker : QueueWorker where
  tenantMgr := service.manager
  str := service.library.str

/-- `_current_role_for_quota`. -/
def currentRoleForQuota (tenantId : String) : Routine String :=
  Program.tryCatch
    (do
      match ← service.manager.getTenant tenantId with
      | none => pure "free"
      | some tenant => pure (((configTier tenant.config).map TenantTier.value).getD "free"))
    fun _ => pure "premium"

/-- The `except` clauses of `ingest_document`. -/
def ingestFailure : PyException → Routine (Reply (String × Nat))
  | .permissionError text => pure (.error ⟨429, text⟩)
  | .valueError text => pure (.error ⟨400, text⟩)
  | exception => Program.raise exception

/-- `ingest_document`: the document and the number of its chunks. -/
def ingestDocument (claims : TokenClaims) (body : IngestRequest) :
    Routine (Reply (String × Nat)) :=
  match requirePermission service.policy claims .useRag, getCurrentTenantId claims with
  | .error refusal, _ | .ok (), .error refusal => pure (.error refusal)
  | .ok (), .ok tenantId => do
    let role ← service.currentRoleForQuota tenantId
    Program.tryCatch
      (do
        let stored ← ragIngest tenantId (.str body.text) (.str body.documentId)
          (.obj body.metadata) (tenantQuota role)
        pure (.ok (body.documentId, stored)))
      ingestFailure

/-- `delete_document`: the document and the number of chunks that are gone. -/
def deleteDocument (claims : TokenClaims) (documentId : String) : Routine (Reply (String × Nat)) :=
  match requirePermission service.policy claims .useRag, getCurrentTenantId claims with
  | .error refusal, _ | .ok (), .error refusal => pure (.error refusal)
  | .ok (), .ok tenantId => do
    let deleted ← ragDelete tenantId (.str documentId)
    pure (.ok (documentId, deleted))

/-- No role that a tenant has gives the route a quota: it asks for no limit. -/
theorem tenantQuota_currentRole (answers : Answers) (world : World) (tenantId : String) :
    ∃ role, (service.currentRoleForQuota tenantId).run answers world = (.ok role, world) ∧
      tenantQuota role = 0 := by
  have lookup : ∀ role, role = "free" ∨ role = "premium" → tenantQuota role = 0 := by
    intro role is
    cases is with
    | inl free => rw [free]; rfl
    | inr premium => rw [premium]; rfl
  unfold currentRoleForQuota
  rw [run_tryCatch, run_bind, run_getTenant]
  cases storedTenant service.manager (answers.clock .record) world tenantId with
  | error exception => exact ⟨"premium", rfl, lookup _ (Or.inr rfl)⟩
  | ok found =>
    cases found with
    | none => exact ⟨"free", rfl, lookup _ (Or.inl rfl)⟩
    | some tenant => exact ⟨"free", rfl, lookup _ (Or.inl rfl)⟩

end RagService

end VelaFlow.Api
