import VelaFlow.Foundation.Json
import VelaFlow.Foundation.Python

/-!
# Document chunks

`DocumentChunk` and `DocumentChunker` of `rag.py`. A document is cut into sentences, the
sentences are packed into chunks, and each chunk after the first repeats trailing sentences of
the one before it. SHA-256 is a parameter: no result here depends on how it mixes.
-/
namespace VelaFlow.Rag

/-- `MAX_DOCUMENT_SIZE_BYTES`. -/
def maxDocumentSizeBytes : Nat := 5 * 1024 * 1024

/-- `DocumentChunk`; `E` is the type of the numbers in an embedding. -/
structure DocumentChunk (E : Type) where
  /-- `chunk_id`. -/
  chunkId : String
  /-- `document_id`. -/
  documentId : String
  /-- `tenant_id`. -/
  tenantId : String
  /-- `content`. -/
  content : String
  /-- `metadata`. -/
  metadata : Dict := []
  /-- `embedding`. -/
  embedding : List E := []

/-- `DocumentChunker`, which refuses an overlap that does not leave room for new text. -/
structure DocumentChunker where
  /-- `_chunk_size`. -/
  chunkSize : Int := 512
  /-- `_overlap`. -/
  overlap : Int := 64
  /-- What the constructor checks. -/
  room : overlap < chunkSize := by decide

/-- Whether the text read so far, in reverse, ends a sentence. -/
def endsSentence : List Char → Bool
  | '.' :: _ | '!' :: _ | '?' :: _ => true
  | _ => false

/-- `re.split(r"(?<=[.!?])\s+", text)`, given what was read of a sentence, in reverse, and whether
the white space of a separator is being skipped. -/
def splitSentencesFrom : List Char → List Char → Bool → List (List Char)
  | [], read, _ => [read.reverse]
  | character :: rest, read, skipping =>
    if isSpace character then
      if skipping then splitSentencesFrom rest read true
      else if endsSentence read then read.reverse :: splitSentencesFrom rest [] true
      else splitSentencesFrom rest (character :: read) false
    else splitSentencesFrom rest (character :: read) false

/-- `re.split(r"(?<=[.!?])\s+", text)`. -/
def splitSentences (text : List Char) : List String :=
  (splitSentencesFrom text [] false).map String.ofList

namespace DocumentChunker

/-- The loop over `reversed(current)`: the trailing sentences that fit the overlap, with the text
they make. -/
def keepOverlap (overlap : Int) : List String → List String → String → List String × String
  | [], kept, text => (kept, text)
  | sentence :: earlier, kept, text =>
    if overlap < text.length + sentence.length then (kept, text)
    else keepOverlap overlap earlier (sentence :: kept) (joinSpace (sentence :: kept))

/-- The variables of the loop over the sentences: the contents of the finished chunks, and the
sentences packed since then. -/
structure Packing where
  /-- The contents of `chunks`. -/
  chunks : List String := []
  /-- `current`. -/
  current : List String := []
  /-- `current_len`. -/
  currentLen : Nat := 0

/-- One turn of the loop over the sentences. -/
def pack (chunker : DocumentChunker) (packing : Packing) (sentence : String) : Packing :=
  let packing :=
    if chunker.chunkSize < packing.currentLen + sentence.length ∧ packing.current ≠ [] then
      let (kept, text) := keepOverlap chunker.overlap packing.current.reverse [] ""
      { chunks := packing.chunks ++ [joinSpace packing.current]
        current := kept
        currentLen := text.length : Packing }
    else packing
  { packing with
    current := packing.current ++ [sentence]
    currentLen := packing.currentLen + sentence.length }

/-- The contents of the chunks of a text. -/
def contents (chunker : DocumentChunker) (text : String) : List String :=
  let packing := (splitSentences (strip text.toList)).foldl chunker.pack {}
  if packing.current = [] then packing.chunks
  else packing.chunks ++ [joinSpace packing.current]

end DocumentChunker

section Chunk

variable {E : Type} (sha256 : String → String)

/-- `_make_chunk_id`: the first 16 digits of the hash of the document and the position. -/
def makeChunkId (documentId : String) (index : Nat) : String :=
  String.ofList ((sha256 (documentId ++ ":" ++ toString index)).toList.take 16)

/-- `chunk`. -/
def DocumentChunker.chunk (chunker : DocumentChunker) (text documentId tenantId : String)
    (metadata : Dict) : Except PyException (List (DocumentChunk E)) :=
  if strip text.toList = [] then .ok []
  else if maxDocumentSizeBytes < text.utf8ByteSize then
    .error (.valueError s!"Document exceeds {maxDocumentSizeBytes} byte limit")
  else
    .ok ((chunker.contents text).zipIdx.map fun (content, index) =>
      { chunkId := makeChunkId sha256 documentId index
        documentId, tenantId, content, metadata })

/-- Every chunk of a document carries the document, the tenant, and an id made from the document
and its position. -/
theorem DocumentChunker.mem_chunk {chunker : DocumentChunker} {text documentId tenantId : String}
    {metadata : Dict} {chunks : List (DocumentChunk E)}
    (chunked : chunker.chunk sha256 text documentId tenantId metadata = .ok chunks)
    {chunk : DocumentChunk E} (member : chunk ∈ chunks) :
    chunk.documentId = documentId ∧ chunk.tenantId = tenantId ∧
      ∃ index < chunks.length, chunk.chunkId = makeChunkId sha256 documentId index := by
  unfold DocumentChunker.chunk at chunked
  split at chunked
  · cases chunked
    cases member
  · split at chunked
    · cases chunked
    · obtain rfl := Except.ok.inj chunked
      obtain ⟨⟨content, index⟩, position, rfl⟩ := List.mem_map.mp member
      have within := List.snd_lt_of_mem_zipIdx position
      refine ⟨rfl, rfl, index, ?_, rfl⟩
      simpa using within

end Chunk

end VelaFlow.Rag
