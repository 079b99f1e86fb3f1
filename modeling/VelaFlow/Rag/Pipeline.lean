import VelaFlow.Rag.VectorStore
import VelaFlow.Security.Sanitization

/-!
# The RAG pipeline

`RAGPipeline` of `rag.py`: a document is sanitized, cut into chunks, embedded and stored. The
embedder is any function of the text.
-/
namespace VelaFlow.Rag

open Security

/-- What a `RAGPipeline` is built from, besides its store. -/
structure RAGPipeline (E : Type) where
  /-- `hashlib.sha256(raw.encode()).hexdigest()`. -/
  sha256 : String → String
  /-- The compiled patterns of the sanitizer. -/
  patterns : Patterns
  /-- `_embedder.embed`. -/
  embed : String → List E
  /-- `_chunker`. -/
  chunker : DocumentChunker := {}

namespace RAGPipeline

variable {E : Type}

/-- The embedded chunks `ingest` makes of a text. -/
def chunks (pipeline : RAGPipeline E) (text documentId tenantId : String) (metadata : Dict) :
    Except PyException (List (DocumentChunk E)) :=
  (pipeline.chunker.chunk pipeline.sha256 (sanitizeForLlm pipeline.patterns text) documentId
    tenantId metadata).map
      (List.map fun chunk : DocumentChunk E =>
        { chunk with embedding := pipeline.embed chunk.content })

/-- Whether the document quota admits another ingest; no limit is zero. -/
def admits (store : VectorStore E) (tenantId : String) (maxDocuments : Nat) : Bool :=
  decide (maxDocuments = 0) || decide (store.countDocuments tenantId < maxDocuments)

/-- `ingest`: the number of chunks stored, or the exception, and the store. -/
def ingest (pipeline : RAGPipeline E) (store : VectorStore E)
    (text documentId tenantId : String) (metadata : Dict) (maxDocuments : Nat) :
    Except PyException Nat × VectorStore E :=
  if admits store tenantId maxDocuments then
    match pipeline.chunks text documentId tenantId metadata with
    | .error exception => (.error exception, store)
    | .ok chunks =>
      let (stored, count) := store.storeChunks chunks
      (.ok count, stored)
  else
    (.error (.permissionError
      s!"Document quota exceeded: {store.countDocuments tenantId}/{maxDocuments}"), store)

/-- `query`. -/
def query {S : Type} (rank : List E → List (DocumentChunk E) → Nat → List (RetrievalResult S))
    (pipeline : RAGPipeline E) (store : VectorStore E) (queryText tenantId : String)
    (topK : Nat) : List (RetrievalResult S) :=
  store.search rank tenantId (pipeline.embed (sanitizeForLlm pipeline.patterns queryText)) topK

/-- Every chunk of a text belongs to the tenant it was ingested for. -/
theorem tenantId_of_mem_chunks {pipeline : RAGPipeline E} {text documentId tenantId : String}
    {metadata : Dict} {chunks : List (DocumentChunk E)}
    (made : pipeline.chunks text documentId tenantId metadata = .ok chunks)
    {chunk : DocumentChunk E} (member : chunk ∈ chunks) : chunk.tenantId = tenantId := by
  unfold RAGPipeline.chunks at made
  cases plain : pipeline.chunker.chunk (E := E) pipeline.sha256
      (sanitizeForLlm pipeline.patterns text) documentId tenantId metadata with
  | error exception => rw [plain] at made; cases made
  | ok whole =>
    rw [plain] at made
    obtain rfl := Except.ok.inj made
    obtain ⟨before, inside, rfl⟩ := List.mem_map.mp member
    exact (DocumentChunker.mem_chunk pipeline.sha256 plain inside).2.1

end RAGPipeline

end VelaFlow.Rag
