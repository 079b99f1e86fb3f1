import Mathlib.Data.List.Induction
import VelaFlow.Foundation.Machine
import VelaFlow.Rag.Pipeline

/-!
# Tenant isolation of the vector store

Reads and deletes name their tenant; a stored chunk replaces whatever row has its id, and the
id is made from the document and the position alone. So what a tenant has stored depends on its
own operations exactly as long as no other tenant's ingest makes a chunk id that one of its rows
has.
-/
namespace VelaFlow.Rag

open Security

variable {E : Type}

/-- An operation on the store, by the tenant it is for. -/
inductive Operation where
  /-- `RAGPipeline.ingest`. -/
  | ingest (tenantId documentId text : String) (metadata : Dict) (maxDocuments : Nat)
  /-- `delete_document`. -/
  | deleteDocument (tenantId documentId : String)
  /-- `purge_tenant`. -/
  | purgeTenant (tenantId : String)

/-- The tenant an operation is for. -/
def Operation.tenantId : Operation → String
  | .ingest tenantId _ _ _ _ | .deleteDocument tenantId _ | .purgeTenant tenantId => tenantId

namespace RAGPipeline

/-- The store after an operation; one that raises leaves it as it was. -/
def apply (pipeline : RAGPipeline E) (store : VectorStore E) : Operation → VectorStore E
  | .ingest tenantId documentId text metadata maxDocuments =>
    (pipeline.ingest store text documentId tenantId metadata maxDocuments).2
  | .deleteDocument tenantId documentId => (store.deleteDocument tenantId documentId).1
  | .purgeTenant tenantId => (store.purgeTenant tenantId).1

/-- The store after a sequence of operations on a new one. -/
def after (pipeline : RAGPipeline E) (operations : List Operation) : VectorStore E :=
  operations.foldl pipeline.apply .empty

/-- An operation takes no chunk id from a tenant: it is the tenant's own, or makes no chunk with
an id the tenant has stored. -/
def TakesNoId (pipeline : RAGPipeline E) (tenantId : String) (store : VectorStore E) :
    Operation → Prop
  | .ingest other documentId text metadata maxDocuments =>
    other ≠ tenantId → admits store other maxDocuments →
      ∀ chunks, pipeline.chunks text documentId other metadata = .ok chunks →
        ∀ chunk ∈ chunks, ∀ row ∈ store.rowsOf tenantId, row.chunkId ≠ chunk.chunkId
  | _ => True

/-- A sequence of operations in which none takes a chunk id from the tenant. -/
def KeepsIds (pipeline : RAGPipeline E) (tenantId : String) (operations : List Operation) : Prop :=
  Machine.Meets (fun store operation => some (pipeline.apply store operation))
    (pipeline.TakesNoId tenantId) .empty operations

/-- The operations of one tenant. -/
def own (tenantId : String) (operations : List Operation) : List Operation :=
  operations.filter fun operation => decide (operation.tenantId = tenantId)

/-- One more operation is applied last. -/
theorem after_append_singleton (pipeline : RAGPipeline E) (operations : List Operation)
    (operation : Operation) :
    pipeline.after (operations ++ [operation]) =
      pipeline.apply (pipeline.after operations) operation := by
  unfold after
  rw [List.foldl_append]
  rfl

/-- A tenant's own operation does the same to its rows wherever they are the same. -/
theorem apply_own_congr (pipeline : RAGPipeline E) {tenantId : String} {operation : Operation}
    (mine : operation.tenantId = tenantId) {first second : VectorStore E}
    (same : first.rowsOf tenantId = second.rowsOf tenantId) :
    (pipeline.apply first operation).rowsOf tenantId =
      (pipeline.apply second operation).rowsOf tenantId := by
  cases operation with
  | ingest owner documentId text metadata maxDocuments =>
    obtain rfl : owner = tenantId := mine
    have quota : admits first owner maxDocuments = admits second owner maxDocuments := by
      unfold admits
      rw [VectorStore.countDocuments_congr same]
    simp only [apply, ingest, quota]
    split
    · split
      · exact same
      · exact VectorStore.rowsOf_storeChunks_congr same _
    · exact same
  | deleteDocument owner documentId =>
    simp only [apply, VectorStore.rowsOf_deleteDocument, same]
  | purgeTenant owner =>
    simp only [apply, VectorStore.rowsOf_purgeTenant, same]

/-- Another tenant's operation leaves a tenant's rows alone exactly when it takes no id. -/
theorem apply_foreign_iff (pipeline : RAGPipeline E) {tenantId : String} {operation : Operation}
    (foreign : operation.tenantId ≠ tenantId) (store : VectorStore E) :
    (pipeline.apply store operation).rowsOf tenantId = store.rowsOf tenantId ↔
      pipeline.TakesNoId tenantId store operation := by
  cases operation with
  | ingest other documentId text metadata maxDocuments =>
    simp only [apply, ingest, TakesNoId]
    by_cases admitted : admits store other maxDocuments = true
    case neg => simp [admitted]
    case pos =>
    rw [if_pos admitted]
    cases made : pipeline.chunks text documentId other metadata with
    | error exception => simp
    | ok chunks =>
      have apart : ∀ chunk ∈ chunks, chunk.tenantId ≠ tenantId := by
        intro chunk member
        rw [tenantId_of_mem_chunks made member]
        exact foreign
      simp only [VectorStore.rowsOf_storeChunks_of_ne apart, List.filter_eq_self,
        decide_eq_true_eq]
      constructor
      · rintro untouched - - _ chunked chunk member row stored sameId
        obtain rfl := Except.ok.inj chunked
        apply untouched row stored
        rw [sameId]
        exact List.mem_map_of_mem member
      · intro takesNone row stored taken
        obtain ⟨chunk, member, sameId⟩ := List.mem_map.mp taken
        exact takesNone foreign admitted chunks rfl chunk member row stored sameId.symm
  | deleteDocument other documentId =>
    have apart : other ≠ tenantId := foreign
    simp only [apply, VectorStore.rowsOf_deleteDocument, if_neg apart, TakesNoId]
  | purgeTenant other =>
    have apart : other ≠ tenantId := foreign
    simp only [apply, VectorStore.rowsOf_purgeTenant, if_neg apart, TakesNoId]

/-- A tenant's own operation takes nothing from it. -/
theorem takesNoId_of_own (pipeline : RAGPipeline E) {tenantId : String} {operation : Operation}
    (mine : operation.tenantId = tenantId) (store : VectorStore E) :
    pipeline.TakesNoId tenantId store operation := by
  cases operation with
  | ingest owner documentId text metadata maxDocuments =>
    intro foreign
    exact absurd mine foreign
  | deleteDocument owner documentId => trivial
  | purgeTenant owner => trivial

/-- A machine that never refuses runs to the store after the operations. -/
theorem run_eq_after (pipeline : RAGPipeline E) (operations : List Operation) :
    Machine.run (fun store operation => some (pipeline.apply store operation)) .empty operations =
      some (pipeline.after operations) := by
  induction operations using List.reverseRecOn with
  | nil => rfl
  | append_singleton operations operation ih =>
    rw [Machine.run_append, ih, after_append_singleton]
    rfl

/-- A sequence keeps ids when its beginning does and its last operation takes none. -/
theorem keepsIds_append_singleton {pipeline : RAGPipeline E} {tenantId : String}
    {operations : List Operation} {operation : Operation} :
    pipeline.KeepsIds tenantId (operations ++ [operation]) ↔
      pipeline.KeepsIds tenantId operations ∧
        pipeline.TakesNoId tenantId (pipeline.after operations) operation := by
  unfold KeepsIds
  rw [Machine.meets_append_iff, run_eq_after]
  simp [Machine.Meets]

/-- A tenant has stored at every moment what its own operations alone would have stored, exactly
when no other tenant's ingest takes a chunk id from it. -/
theorem rowsOf_eq_own_iff (pipeline : RAGPipeline E) (tenantId : String)
    (operations : List Operation) :
    (∀ taken, taken <+: operations → (pipeline.after taken).rowsOf tenantId =
      (pipeline.after (own tenantId taken)).rowsOf tenantId) ↔
    pipeline.KeepsIds tenantId operations := by
  induction operations using List.reverseRecOn with
  | nil =>
    constructor
    · intro _
      trivial
    · intro _ taken initial
      rw [List.prefix_nil.mp initial]
      rfl
  | append_singleton operations operation ih =>
    rw [keepsIds_append_singleton, ← ih]
    have whole : own tenantId (operations ++ [operation]) =
        own tenantId operations ++ own tenantId [operation] := List.filter_append ..
    -- The beginnings of the longer sequence are the old ones and the whole.
    have last : ∀ before : (pipeline.after operations).rowsOf tenantId =
        (pipeline.after (own tenantId operations)).rowsOf tenantId,
        ((pipeline.after (operations ++ [operation])).rowsOf tenantId =
          (pipeline.after (own tenantId (operations ++ [operation]))).rowsOf tenantId ↔
        pipeline.TakesNoId tenantId (pipeline.after operations) operation) := by
      intro before
      rw [whole, after_append_singleton]
      by_cases mine : operation.tenantId = tenantId
      · have kept : own tenantId [operation] = [operation] := by simp [own, mine]
        rw [kept, after_append_singleton]
        exact iff_of_true (apply_own_congr pipeline mine before)
          (takesNoId_of_own pipeline mine _)
      · have gone : own tenantId [operation] = [] := by simp [own, mine]
        rw [gone, List.append_nil, ← before]
        exact apply_foreign_iff pipeline mine _
    constructor
    · intro isolated
      refine ⟨fun taken initial =>
        isolated taken (initial.trans (List.prefix_append operations [operation])), ?_⟩
      have before := isolated operations (List.prefix_append operations [operation])
      exact (last before).mp (isolated _ List.prefix_rfl)
    · rintro ⟨isolated, takesNone⟩ taken initial
      rcases List.prefix_concat_iff.mp initial with rfl | shorter
      · exact (last (isolated operations List.prefix_rfl)).mpr takesNone
      · exact isolated taken shorter

/-- A pipeline whose patterns find nothing to strip or to flag, as in plain text. -/
def plain (sha256 : String → String) : RAGPipeline Int where
  sha256
  patterns := ⟨id, id, id, []⟩
  embed _ := [1]

/-- Two tenants that ingest a document under one name. -/
def sharedName : List Operation :=
  [.ingest "tn_a" "notes" "mine" [] 0, .ingest "tn_b" "notes" "yours" [] 0]

/-- Some text of its own is one chunk. -/
theorem chunks_plain (sha256 : String → String) (tenantId text content : String)
    (sanitized : sanitizeForLlm ⟨id, id, id, []⟩ text = content)
    (visible : strip content.toList ≠ []) (small : ¬ maxDocumentSizeBytes < content.utf8ByteSize)
    (single : DocumentChunker.contents {} content = [content]) :
    (plain sha256).chunks text "notes" tenantId [] =
      .ok [⟨makeChunkId sha256 "notes" 0, "notes", tenantId, content, [], [1]⟩] := by
  simp [chunks, plain, sanitized, DocumentChunker.chunk, visible, small, single, Except.map]

/-- Whatever the hash, the second tenant's ingest takes the first one's chunk. -/
theorem sharedName_not_isolated :
    ¬ ∃ sha256 : String → String,
      ((plain sha256).after sharedName).rowsOf "tn_a" =
        ((plain sha256).after (own "tn_a" sharedName)).rowsOf "tn_a" := by
  rintro ⟨sha256, same⟩
  have mine := chunks_plain sha256 "tn_a" "mine" "[USER_DATA_BEGIN]\nmine\n[USER_DATA_END]"
    (by decide +kernel) (by decide +kernel) (by decide +kernel) (by decide +kernel)
  have yours := chunks_plain sha256 "tn_b" "yours" "[USER_DATA_BEGIN]\nyours\n[USER_DATA_END]"
    (by decide +kernel) (by decide +kernel) (by decide +kernel) (by decide +kernel)
  have alone : own "tn_a" sharedName = [.ingest "tn_a" "notes" "mine" [] 0] := by
    simp [own, sharedName, Operation.tenantId]
  rw [alone] at same
  simp [after, sharedName, apply, ingest, admits, mine, yours, VectorStore.storeChunks,
    VectorStore.rowsOf_insertOrReplace] at same

end RAGPipeline

end VelaFlow.Rag
