import Mathlib.Data.List.Dedup
import VelaFlow.Rag.Chunker

/-!
# The vector store

`VectorStore` of `rag.py`: one table for all tenants whose primary key is the chunk id. The
table is a list of rows with distinct chunk ids; `INSERT OR REPLACE` removes the row that has
the key, whoever owns it, and adds the new one. The ranking of a search is DuckDB's and a
parameter.
-/
namespace VelaFlow.Rag

/-- `RetrievalResult`; `S` is the type of the scores. -/
structure RetrievalResult (S : Type) where
  /-- `chunk_id`. -/
  chunkId : String
  /-- `document_id`. -/
  documentId : String
  /-- `content`. -/
  content : String
  /-- `score`. -/
  score : S
  /-- `metadata`. -/
  metadata : Dict

/-- The table `rag_chunks`. -/
structure VectorStore (E : Type) where
  /-- The rows. -/
  rows : List (DocumentChunk E)
  /-- `chunk_id` is the primary key. -/
  primaryKey : (rows.map DocumentChunk.chunkId).Nodup

namespace VectorStore

variable {E : Type}

/-- The table when it is created. -/
def empty : VectorStore E := ⟨[], List.nodup_nil⟩

/-- The rows a predicate on them selects. -/
def select (store : VectorStore E) (condition : DocumentChunk E → Bool) : VectorStore E where
  rows := store.rows.filter condition
  primaryKey := store.primaryKey.sublist (List.filter_sublist.map DocumentChunk.chunkId)

/-- `INSERT OR REPLACE INTO rag_chunks`. -/
def insertOrReplace (store : VectorStore E) (chunk : DocumentChunk E) : VectorStore E where
  rows := (store.select fun row => decide (row.chunkId ≠ chunk.chunkId)).rows ++ [chunk]
  primaryKey := by
    rw [List.map_append, List.nodup_append]
    refine ⟨(store.select _).primaryKey, List.nodup_singleton _, ?_⟩
    rintro key member _ (⟨⟩ | ⟨_, absurd⟩) rfl
    · obtain ⟨row, kept, same⟩ := List.mem_map.mp member
      have differs := of_decide_eq_true (List.mem_filter.mp kept).2
      exact differs same
    · cases absurd

/-- `store_chunks`. -/
def storeChunks (store : VectorStore E) (chunks : List (DocumentChunk E)) : VectorStore E × Nat :=
  (chunks.foldl insertOrReplace store, chunks.length)

/-- The rows of one tenant: `WHERE tenant_id = ?`. -/
def rowsOf (store : VectorStore E) (tenantId : String) : List (DocumentChunk E) :=
  store.rows.filter fun row => decide (row.tenantId = tenantId)

/-- `search`. -/
def search {S : Type} (rank : List E → List (DocumentChunk E) → Nat → List (RetrievalResult S))
    (store : VectorStore E) (tenantId : String) (queryEmbedding : List E) (topK : Nat) :
    List (RetrievalResult S) :=
  if queryEmbedding = [] then []
  else
    rank queryEmbedding ((store.rowsOf tenantId).filter fun row => !row.embedding.isEmpty) topK

/-- `delete_document`. -/
def deleteDocument (store : VectorStore E) (tenantId documentId : String) : VectorStore E × Nat :=
  let hit : DocumentChunk E → Bool := fun row =>
    decide (row.tenantId = tenantId) && decide (row.documentId = documentId)
  (store.select fun row => !hit row, store.rows.countP hit)

/-- `count_documents`. -/
def countDocuments (store : VectorStore E) (tenantId : String) : Nat :=
  ((store.rowsOf tenantId).map DocumentChunk.documentId).dedup.length

/-- `purge_tenant`. -/
def purgeTenant (store : VectorStore E) (tenantId : String) : VectorStore E × Nat :=
  let hit : DocumentChunk E → Bool := fun row => decide (row.tenantId = tenantId)
  (store.select fun row => !hit row, store.rows.countP hit)

/-- A new table has no rows of any tenant. -/
@[simp] theorem rowsOf_empty (tenantId : String) :
    (empty : VectorStore E).rowsOf tenantId = [] := rfl

/-- A replacement leaves of one tenant's rows those with another key, and the new row when it is
the tenant's. -/
theorem rowsOf_insertOrReplace (store : VectorStore E) (chunk : DocumentChunk E)
    (tenantId : String) :
    (store.insertOrReplace chunk).rowsOf tenantId =
      (store.rowsOf tenantId).filter (fun row => decide (row.chunkId ≠ chunk.chunkId)) ++
        if chunk.tenantId = tenantId then [chunk] else [] := by
  unfold rowsOf insertOrReplace select
  rw [List.filter_append, List.filter_comm]
  congr 1
  by_cases own : chunk.tenantId = tenantId
  · simp [own]
  · simp [own]

/-- What an insertion leaves of one tenant's rows depends only on those rows. -/
theorem rowsOf_insertOrReplace_congr {first second : VectorStore E} {tenantId : String}
    (same : first.rowsOf tenantId = second.rowsOf tenantId) (chunk : DocumentChunk E) :
    (first.insertOrReplace chunk).rowsOf tenantId =
      (second.insertOrReplace chunk).rowsOf tenantId := by
  rw [rowsOf_insertOrReplace, rowsOf_insertOrReplace, same]

/-- What storing chunks leaves of one tenant's rows depends only on those rows. -/
theorem rowsOf_storeChunks_congr {first second : VectorStore E} {tenantId : String}
    (same : first.rowsOf tenantId = second.rowsOf tenantId) (chunks : List (DocumentChunk E)) :
    (first.storeChunks chunks).1.rowsOf tenantId =
      (second.storeChunks chunks).1.rowsOf tenantId := by
  unfold storeChunks
  induction chunks generalizing first second with
  | nil => exact same
  | cons chunk rest ih => exact ih (rowsOf_insertOrReplace_congr same chunk)

/-- Storing another tenant's chunks removes exactly the rows whose keys they take. -/
theorem rowsOf_storeChunks_of_ne {store : VectorStore E} {chunks : List (DocumentChunk E)}
    {tenantId : String} (foreign : ∀ chunk ∈ chunks, chunk.tenantId ≠ tenantId) :
    (store.storeChunks chunks).1.rowsOf tenantId =
      (store.rowsOf tenantId).filter
        (fun row => decide (row.chunkId ∉ chunks.map DocumentChunk.chunkId)) := by
  unfold storeChunks
  induction chunks generalizing store with
  | nil => simp
  | cons chunk rest ih =>
    have foreignRest : ∀ other ∈ rest, other.tenantId ≠ tenantId :=
      fun other member => foreign other (List.mem_cons_of_mem chunk member)
    have head := rowsOf_insertOrReplace store chunk tenantId
    rw [if_neg (foreign chunk List.mem_cons_self), List.append_nil] at head
    rw [List.foldl_cons, ih foreignRest, head, List.filter_filter]
    apply List.filter_congr
    intro row _
    rw [Bool.eq_iff_iff]
    simp only [Bool.and_eq_true, decide_eq_true_eq, List.map_cons, List.mem_cons, not_or, ne_eq]
    exact and_comm

/-- A deletion takes from one tenant's rows only what it names, and nothing of another tenant. -/
theorem rowsOf_deleteDocument (store : VectorStore E) (owner documentId tenantId : String) :
    (store.deleteDocument owner documentId).1.rowsOf tenantId =
      if owner = tenantId then
        (store.rowsOf tenantId).filter (fun row => decide (row.documentId ≠ documentId))
      else store.rowsOf tenantId := by
  unfold rowsOf deleteDocument select
  simp only [List.filter_filter]
  split
  case isTrue own =>
    subst own
    apply List.filter_congr
    intro row _
    by_cases mine : row.tenantId = owner <;> by_cases named : row.documentId = documentId <;>
      simp [mine, named]
  case isFalse foreign =>
    apply List.filter_congr
    intro row _
    by_cases mine : row.tenantId = tenantId
    · simp [mine, Ne.symm foreign]
    · simp [mine]

/-- A purge empties one tenant's rows and leaves every other's. -/
theorem rowsOf_purgeTenant (store : VectorStore E) (owner tenantId : String) :
    (store.purgeTenant owner).1.rowsOf tenantId =
      if owner = tenantId then [] else store.rowsOf tenantId := by
  unfold rowsOf purgeTenant select
  simp only [List.filter_filter]
  split
  case isTrue own =>
    subst own
    simp
  case isFalse foreign =>
    apply List.filter_congr
    intro row _
    by_cases mine : row.tenantId = tenantId
    · simp [mine, Ne.symm foreign]
    · simp [mine]

/-- The number of a tenant's documents depends only on its rows. -/
theorem countDocuments_congr {first second : VectorStore E} {tenantId : String}
    (same : first.rowsOf tenantId = second.rowsOf tenantId) :
    first.countDocuments tenantId = second.countDocuments tenantId := by
  unfold countDocuments
  rw [same]

/-- What a search finds depends only on the tenant's rows. -/
theorem search_congr {S : Type}
    (rank : List E → List (DocumentChunk E) → Nat → List (RetrievalResult S))
    {first second : VectorStore E} {tenantId : String}
    (same : first.rowsOf tenantId = second.rowsOf tenantId) (queryEmbedding : List E)
    (topK : Nat) :
    first.search rank tenantId queryEmbedding topK =
      second.search rank tenantId queryEmbedding topK := by
  unfold search
  rw [same]

end VectorStore

end VelaFlow.Rag
