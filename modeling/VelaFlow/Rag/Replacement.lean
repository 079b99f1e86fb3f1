import Mathlib.Data.Finset.Card
import VelaFlow.Rag.Isolation

/-!
# Replacing a document

An ingest replaces row by row, by chunk id, and a chunk id is made from the document and the
position. What an earlier version stored beyond the positions of the new one stays. The document
quota is asked before anything is known of the document, so it can refuse a new version of a
document that is stored already.
-/
namespace VelaFlow.Rag

open Security

variable {E : Type}

namespace VectorStore

/-- The rows of one document of a tenant. -/
def rowsOfDocument (store : VectorStore E) (tenantId documentId : String) :
    List (DocumentChunk E) :=
  (store.rowsOf tenantId).filter fun row => decide (row.documentId = documentId)

/-- A row of a document is a row of the table with its tenant and name. -/
theorem mem_rowsOfDocument {store : VectorStore E} {tenantId documentId : String}
    {row : DocumentChunk E} :
    row ∈ store.rowsOfDocument tenantId documentId ↔
      row ∈ store.rows ∧ row.tenantId = tenantId ∧ row.documentId = documentId := by
  unfold rowsOfDocument rowsOf
  rw [List.mem_filter, List.mem_filter, decide_eq_true_eq, decide_eq_true_eq, and_assoc]

/-- No two rows of a document have one chunk id. -/
theorem nodup_rowsOfDocument (store : VectorStore E) (tenantId documentId : String) :
    ((store.rowsOfDocument tenantId documentId).map DocumentChunk.chunkId).Nodup := by
  have sublist : (store.rowsOfDocument tenantId documentId).Sublist store.rows :=
    List.filter_sublist.trans List.filter_sublist
  exact store.primaryKey.sublist (sublist.map DocumentChunk.chunkId)

/-- A replacement keeps the rows with another key, and adds its own. -/
theorem mem_insertOrReplace {store : VectorStore E} {chunk row : DocumentChunk E} :
    row ∈ (store.insertOrReplace chunk).rows ↔
      row ∈ store.rows ∧ row.chunkId ≠ chunk.chunkId ∨ row = chunk := by
  simp [insertOrReplace, select]

/-- Storing chunks keeps every row whose key they do not take. -/
theorem mem_storeChunks_of_kept {store : VectorStore E} {chunks : List (DocumentChunk E)}
    {row : DocumentChunk E} (stored : row ∈ store.rows)
    (kept : row.chunkId ∉ chunks.map DocumentChunk.chunkId) :
    row ∈ (store.storeChunks chunks).1.rows := by
  unfold storeChunks
  induction chunks generalizing store with
  | nil => exact stored
  | cons chunk rest ih =>
    rw [List.map_cons, List.mem_cons, not_or] at kept
    exact ih (mem_insertOrReplace.mpr (Or.inl ⟨stored, kept.1⟩)) kept.2

/-- Storing chunks with distinct keys leaves them, and the rows whose keys they do not take. -/
theorem mem_storeChunks {store : VectorStore E} {chunks : List (DocumentChunk E)}
    (distinct : (chunks.map DocumentChunk.chunkId).Nodup) {row : DocumentChunk E} :
    row ∈ (store.storeChunks chunks).1.rows ↔
      row ∈ store.rows ∧ row.chunkId ∉ chunks.map DocumentChunk.chunkId ∨ row ∈ chunks := by
  unfold storeChunks
  induction chunks generalizing store with
  | nil => simp
  | cons chunk rest ih =>
    rw [List.map_cons, List.nodup_cons] at distinct
    rw [List.foldl_cons, ih distinct.2, mem_insertOrReplace, List.map_cons, List.mem_cons,
      List.mem_cons]
    constructor
    · rintro (⟨⟨stored, other⟩ | rfl, fresh⟩ | later)
      · exact Or.inl ⟨stored, not_or.mpr ⟨other, fresh⟩⟩
      · exact Or.inr (Or.inl rfl)
      · exact Or.inr (Or.inr later)
    · rintro (⟨stored, fresh⟩ | rfl | later)
      · exact Or.inl ⟨Or.inl ⟨stored, fun same => fresh (Or.inl same)⟩,
          fun inside => fresh (Or.inr inside)⟩
      · exact Or.inl ⟨Or.inr rfl, distinct.1⟩
      · exact Or.inr later

/-- Storing chunks of a document leaves exactly them of it when they take the keys of all its rows
and no key twice. -/
theorem rowsOfDocument_storeChunks_perm_iff {store : VectorStore E}
    {chunks : List (DocumentChunk E)} {tenantId documentId : String}
    (own : ∀ chunk ∈ chunks, chunk.tenantId = tenantId ∧ chunk.documentId = documentId) :
    ((store.storeChunks chunks).1.rowsOfDocument tenantId documentId).Perm chunks ↔
      (∀ row ∈ store.rowsOfDocument tenantId documentId,
        row.chunkId ∈ chunks.map DocumentChunk.chunkId) ∧
      (chunks.map DocumentChunk.chunkId).Nodup := by
  constructor
  · intro same
    refine ⟨?_, (same.map DocumentChunk.chunkId).nodup (nodup_rowsOfDocument _ _ _)⟩
    intro row member
    by_contra stale
    rcases mem_rowsOfDocument.mp member with ⟨stored, ofDocument⟩
    have stays := mem_rowsOfDocument.mpr ⟨mem_storeChunks_of_kept stored stale, ofDocument⟩
    exact stale (List.mem_map_of_mem (same.mem_iff.mp stays))
  · rintro ⟨taken, distinct⟩
    have left := List.Nodup.of_map _
      (nodup_rowsOfDocument (store.storeChunks chunks).1 tenantId documentId)
    rw [List.perm_ext_iff_of_nodup left (List.Nodup.of_map _ distinct)]
    intro row
    rw [mem_rowsOfDocument, mem_storeChunks distinct]
    constructor
    · rintro ⟨⟨stored, fresh⟩ | made, ofDocument⟩
      · exact absurd (taken row (mem_rowsOfDocument.mpr ⟨stored, ofDocument⟩)) fresh
      · exact made
    · exact fun made => ⟨Or.inr made, own row made⟩

end VectorStore

namespace RAGPipeline

variable (pipeline : RAGPipeline E) (store : VectorStore E)
  (text documentId tenantId : String) (metadata : Dict) (maxDocuments : Nat)

/-- An ingest replaces the document: when it succeeds, what is stored of the document are the
chunks of the text, and the quota does not refuse it for a document that is stored. -/
def Replaces : Prop :=
  (∀ count, (pipeline.ingest store text documentId tenantId metadata maxDocuments).1 = .ok count →
    ∃ chunks, pipeline.chunks text documentId tenantId metadata = .ok chunks ∧
      ((pipeline.ingest store text documentId tenantId metadata
        maxDocuments).2.rowsOfDocument tenantId documentId).Perm chunks) ∧
  (store.rowsOfDocument tenantId documentId ≠ [] →
    ∀ message, (pipeline.ingest store text documentId tenantId metadata maxDocuments).1 ≠
      .error (.permissionError message))

/-- What an ingest needs to replace: there is room for another document when this one is stored
already, and the chunks of the text take the ids of all its rows, each id once. -/
def Replaceable : Prop :=
  (admits store tenantId maxDocuments = true →
    ∀ chunks, pipeline.chunks text documentId tenantId metadata = .ok chunks →
      (∀ row ∈ store.rowsOfDocument tenantId documentId,
        row.chunkId ∈ chunks.map DocumentChunk.chunkId) ∧
      (chunks.map DocumentChunk.chunkId).Nodup) ∧
  (store.rowsOfDocument tenantId documentId ≠ [] → admits store tenantId maxDocuments = true)

/-- Chunking refuses only what is too large. -/
theorem chunks_ne_permissionError (message : String) :
    pipeline.chunks text documentId tenantId metadata ≠ .error (.permissionError message) := by
  unfold chunks DocumentChunker.chunk
  split
  · simp [Except.map]
  · split <;> simp [Except.map]

variable {pipeline text documentId tenantId metadata} in
/-- Every chunk of a text is of the document. -/
theorem documentId_of_mem_chunks {made : List (DocumentChunk E)}
    (chunked : pipeline.chunks text documentId tenantId metadata = .ok made)
    {chunk : DocumentChunk E} (member : chunk ∈ made) : chunk.documentId = documentId := by
  unfold chunks at chunked
  cases plain : pipeline.chunker.chunk (E := E) pipeline.sha256
      (sanitizeForLlm pipeline.patterns text) documentId tenantId metadata with
  | error exception =>
    rw [plain] at chunked
    cases chunked
  | ok whole =>
    rw [plain] at chunked
    obtain rfl := Except.ok.inj chunked
    rcases List.mem_map.mp member with ⟨before, inside, rfl⟩
    exact (DocumentChunker.mem_chunk pipeline.sha256 plain inside).1

/-- An ingest replaces exactly when it can. -/
theorem replaces_iff :
    pipeline.Replaces store text documentId tenantId metadata maxDocuments ↔
      pipeline.Replaceable store text documentId tenantId metadata maxDocuments := by
  unfold Replaces Replaceable ingest
  by_cases room : admits store tenantId maxDocuments = true
  · simp only [room, if_true, true_imp_iff, implies_true, and_true]
    cases made : pipeline.chunks text documentId tenantId metadata with
    | error exception =>
      have other : ∀ message, exception ≠ .permissionError message := by
        intro message same
        apply chunks_ne_permissionError pipeline text documentId tenantId metadata message
        rw [made, same]
      simp [other]
    | ok chunks =>
      have own : ∀ chunk ∈ chunks, chunk.tenantId = tenantId ∧ chunk.documentId = documentId :=
        fun chunk member =>
          ⟨tenantId_of_mem_chunks made member, documentId_of_mem_chunks made member⟩
      have perm := @VectorStore.rowsOfDocument_storeChunks_perm_iff E store chunks tenantId
        documentId own
      simpa [VectorStore.storeChunks] using perm
  · simp [room]

section Sample

/-- The sample chunks leave room for new text. -/
theorem room_sample : (0 : Int) < 30 := by decide

/-- A pipeline with small chunks. -/
def smallChunks : RAGPipeline Int :=
  { plain id with chunker := ⟨30, 0, room_sample⟩ }

/-- A row of the sample document. -/
def sampleRow (index : Nat) (content : String) : DocumentChunk Int :=
  ⟨makeChunkId id "notes" index, "notes", "tn_a", content, [], [1]⟩

/-- What the pipeline makes of a text that is cut into some contents. -/
theorem chunks_smallChunks {text content : String} {contents : List String}
    (sanitized : sanitizeForLlm ⟨id, id, id, []⟩ text = content)
    (visible : strip content.toList ≠ []) (small : ¬ maxDocumentSizeBytes < content.utf8ByteSize)
    (cut : DocumentChunker.contents ⟨30, 0, room_sample⟩ content = contents) :
    smallChunks.chunks text "notes" "tn_a" [] =
      .ok (contents.zipIdx.map fun (content, index) => sampleRow index content) := by
  simp [chunks, smallChunks, plain, sanitized, DocumentChunker.chunk, visible, small, cut,
    Except.map, sampleRow]

/-- A shorter version leaves the end of a longer one. -/
theorem shorter_version_not_replaced :
    ¬ smallChunks.Replaces (smallChunks.ingest .empty "One. Two." "notes" "tn_a" [] 0).2 "One"
      "notes" "tn_a" [] 0 := by
  have first := @chunks_smallChunks "One. Two."
    "[USER_DATA_BEGIN]\nOne. Two.\n[USER_DATA_END]"
    ["[USER_DATA_BEGIN]\nOne. Two.", "[USER_DATA_END]"]
    (by decide +kernel) (by decide +kernel) (by decide +kernel) (by decide +kernel)
  have second := @chunks_smallChunks "One" "[USER_DATA_BEGIN]\nOne\n[USER_DATA_END]"
    ["[USER_DATA_BEGIN]\nOne\n[USER_DATA_END]"]
    (by decide +kernel) (by decide +kernel) (by decide +kernel) (by decide +kernel)
  simp only [List.zipIdx_cons, List.zipIdx_nil, List.map_cons, List.map_nil] at first second
  rintro ⟨exactly, -⟩
  simp only [ingest, admits, first, second, decide_true, Bool.true_or, if_true] at exactly
  rcases exactly _ rfl with ⟨chunks, made, same⟩
  obtain rfl := Except.ok.inj made
  have stale : sampleRow 1 "[USER_DATA_END]" ∈ ((VectorStore.storeChunks .empty
      [sampleRow 0 "[USER_DATA_BEGIN]\nOne. Two.",
        sampleRow 1 "[USER_DATA_END]"]).1.rowsOfDocument "tn_a" "notes") := by
    have stored := (@VectorStore.mem_storeChunks Int .empty
      [sampleRow 0 "[USER_DATA_BEGIN]\nOne. Two.", sampleRow 1 "[USER_DATA_END]"]
      (by decide) (sampleRow 1 "[USER_DATA_END]")).mpr (Or.inr (by simp))
    exact VectorStore.mem_rowsOfDocument.mpr ⟨stored, rfl, rfl⟩
  have taken := ((VectorStore.rowsOfDocument_storeChunks_perm_iff (by simp [sampleRow])).mp
    same).1 _ stale
  exact absurd taken (by decide)

end Sample

end RAGPipeline

end VelaFlow.Rag

/-!
## The number of documents of a tenant

What an operation on the store does to the number of distinct documents that a tenant has: an
ingest adds at most the document that it names, and neither a deletion nor another tenant's ingest
adds any.
-/
namespace VelaFlow.Rag

variable {E : Type}

namespace VectorStore

/-- Whether a tenant has a document. -/
def HasDocument (store : VectorStore E) (tenantId documentId : String) : Prop :=
  documentId ∈ (store.rowsOf tenantId).map DocumentChunk.documentId

instance (store : VectorStore E) (tenantId documentId : String) :
    Decidable (store.HasDocument tenantId documentId) :=
  inferInstanceAs (Decidable (documentId ∈ (store.rowsOf tenantId).map DocumentChunk.documentId))

/-- The documents of a tenant are counted without repetition. -/
theorem countDocuments_eq_card (store : VectorStore E) (tenantId : String) :
    store.countDocuments tenantId =
      ((store.rowsOf tenantId).map DocumentChunk.documentId).toFinset.card :=
  (List.card_toFinset _).symm

/-- With no other documents than before there are no more. -/
theorem countDocuments_le {before after : VectorStore E} {tenantId : String}
    (old : ∀ row ∈ after.rowsOf tenantId, before.HasDocument tenantId row.documentId) :
    after.countDocuments tenantId ≤ before.countDocuments tenantId := by
  rw [countDocuments_eq_card, countDocuments_eq_card]
  apply Finset.card_le_card
  intro documentId inside
  obtain ⟨row, member, rfl⟩ := List.mem_map.mp (List.mem_toFinset.mp inside)
  exact List.mem_toFinset.mpr (old row member)

/-- With one other document than before there is at most one more. -/
theorem countDocuments_le_succ {before after : VectorStore E} {tenantId documentId : String}
    (old : ∀ row ∈ after.rowsOf tenantId,
      before.HasDocument tenantId row.documentId ∨ row.documentId = documentId) :
    after.countDocuments tenantId ≤ before.countDocuments tenantId + 1 := by
  rw [countDocuments_eq_card, countDocuments_eq_card]
  calc ((after.rowsOf tenantId).map DocumentChunk.documentId).toFinset.card
      ≤ (insert documentId
          ((before.rowsOf tenantId).map DocumentChunk.documentId).toFinset).card := by
        apply Finset.card_le_card
        intro name inside
        obtain ⟨row, member, rfl⟩ := List.mem_map.mp (List.mem_toFinset.mp inside)
        cases old row member with
        | inl had => exact Finset.mem_insert_of_mem (List.mem_toFinset.mpr had)
        | inr named => exact Finset.mem_insert.mpr (Or.inl named)
    _ ≤ ((before.rowsOf tenantId).map DocumentChunk.documentId).toFinset.card + 1 :=
        Finset.card_insert_le _ _

/-- A row of the store after chunks are stored was there before, or is one of them. -/
theorem mem_or_mem_of_storeChunks {store : VectorStore E} {chunks : List (DocumentChunk E)}
    {row : DocumentChunk E} (stored : row ∈ (store.storeChunks chunks).1.rows) :
    row ∈ store.rows ∨ row ∈ chunks := by
  unfold storeChunks at stored
  induction chunks generalizing store with
  | nil => exact Or.inl stored
  | cons chunk rest ih =>
    cases ih stored with
    | inl before =>
      cases mem_insertOrReplace.mp before with
      | inl kept => exact Or.inl kept.1
      | inr new => exact Or.inr (List.mem_cons.mpr (Or.inl new))
    | inr later => exact Or.inr (List.mem_cons_of_mem chunk later)

section StoreChunks

variable {store : VectorStore E} {chunks : List (DocumentChunk E)} {owner documentId : String}
  (own : ∀ chunk ∈ chunks, chunk.tenantId = owner ∧ chunk.documentId = documentId)

include own

/-- Of a tenant's documents after a document is stored, each was there before or is that one. -/
theorem hasDocument_or_eq_of_storeChunks {row : DocumentChunk E}
    (stored : row ∈ (store.storeChunks chunks).1.rowsOf owner) :
    store.HasDocument owner row.documentId ∨ row.documentId = documentId := by
  obtain ⟨member, mine⟩ := List.mem_filter.mp stored
  cases mem_or_mem_of_storeChunks member with
  | inl before =>
    exact Or.inl (List.mem_map.mpr ⟨row, List.mem_filter.mpr ⟨before, mine⟩, rfl⟩)
  | inr new => exact Or.inr (own row new).2

/-- Storing a document gives no other tenant a document. -/
theorem countDocuments_storeChunks_of_ne {tenantId : String} (apart : owner ≠ tenantId) :
    (store.storeChunks chunks).1.countDocuments tenantId ≤ store.countDocuments tenantId := by
  apply countDocuments_le
  intro row stored
  have foreign : ∀ chunk ∈ chunks, chunk.tenantId ≠ tenantId := by
    intro chunk member
    rw [(own chunk member).1]
    exact apart
  rw [rowsOf_storeChunks_of_ne foreign] at stored
  exact List.mem_map_of_mem (List.mem_filter.mp stored).1

/-- Storing a document gives its tenant at most one more. -/
theorem countDocuments_storeChunks_le_succ :
    (store.storeChunks chunks).1.countDocuments owner ≤ store.countDocuments owner + 1 :=
  countDocuments_le_succ fun _ stored => hasDocument_or_eq_of_storeChunks own stored

/-- Storing a document that its tenant has gives it no more. -/
theorem countDocuments_storeChunks_of_has (has : store.HasDocument owner documentId) :
    (store.storeChunks chunks).1.countDocuments owner ≤ store.countDocuments owner := by
  apply countDocuments_le
  intro row stored
  cases hasDocument_or_eq_of_storeChunks own stored with
  | inl had => exact had
  | inr same =>
    rw [same]
    exact has

end StoreChunks

/-- A deletion gives no tenant a document. -/
theorem countDocuments_deleteDocument_le (store : VectorStore E)
    (owner documentId tenantId : String) :
    (store.deleteDocument owner documentId).1.countDocuments tenantId ≤
      store.countDocuments tenantId := by
  apply countDocuments_le
  intro row stored
  rw [rowsOf_deleteDocument] at stored
  apply List.mem_map_of_mem
  split at stored
  · exact (List.mem_filter.mp stored).1
  · exact stored

end VectorStore

end VelaFlow.Rag
