import VelaFlow.Rag.Replacement
import VelaFlow.Rag.Sentences
import VelaFlow.Security.UserDataBoundary

/-!
# What an ingest keeps of a text

`ingest` sanitizes a document as it would a prompt, with the length limit of a prompt. A sentence
of the document is in a stored chunk exactly when it is in what the sanitizer leaves: the
characters up to that limit, between its marks. The limit on the size of a document is never
reached behind it.
-/
namespace VelaFlow.Security

/-- A text between the marks that the sanitizer puts around it. -/
def between (patterns : Patterns) (kept : String) : String :=
  if patterns.promptInjection.any (fun pattern => pattern.2 kept) then
    injectionPrefix ++ kept ++ injectionSuffix
  else "[USER_DATA_BEGIN]\n" ++ kept ++ "\n[USER_DATA_END]"

/-- What is sanitized for a prompt is the part that is kept, between its marks. -/
theorem sanitizeForLlm_between (patterns : Patterns) {text : String} (some : text ≠ "") :
    sanitizeForLlm patterns text = between patterns (keptPart patterns text maxLlmPromptLength) := by
  have found (kept : String) : (!((patterns.promptInjection.filter fun pattern =>
      pattern.2 kept).map Prod.fst).isEmpty) =
      patterns.promptInjection.any fun pattern => pattern.2 kept := by
    rw [List.isEmpty_map]
    exact Bool.eq_iff_iff.mpr (by simp)
  have cut := cut_eq (stripMarkup patterns text) maxLlmPromptLength
  have kept : keptPart patterns text maxLlmPromptLength =
      String.ofList ((stripMarkup patterns text).toList.take maxLlmPromptLength) := if_neg some
  unfold sanitizeForLlm sanitizeText between
  rw [if_neg some]
  dsimp only
  unfold stripMarkup at cut kept
  rw [if_pos rfl, if_pos rfl, found, cut, kept]
  split
  · rfl
  · rfl

/-- The marks begin and end with brackets, and are short. -/
theorem boundaryPairs_brackets : ∀ pair ∈ boundaryPairs,
    pair.1.toList.head? = some '[' ∧ pair.2.toList.getLast? = some ']' ∧
      pair.1.utf8ByteSize ≤ 50 ∧ pair.2.utf8ByteSize ≤ 50 := by
  decide +kernel

/-- What is sanitized for a prompt is not blank, and nothing of it is stripped. -/
theorem strip_sanitizeForLlm (patterns : Patterns) (text : String) :
    strip (sanitizeForLlm patterns text).toList = (sanitizeForLlm patterns text).toList ∧
      (sanitizeForLlm patterns text).toList ≠ [] := by
  obtain ⟨pair, known, wrapped⟩ := sanitizeForLlm_eq patterns text
  obtain ⟨opening, closing, -, -⟩ := boundaryPairs_brackets pair known
  have first : (sanitizeForLlm patterns text).toList.head? = some '[' := by
    rw [wrapped, String.toList_append, String.toList_append, List.append_assoc, List.head?_append,
      opening]
    rfl
  have last : (sanitizeForLlm patterns text).toList.getLast? = some ']' := by
    rw [wrapped, String.toList_append, List.getLast?_append, closing]
    rfl
  constructor
  · apply strip_eq_self
    · intro character is
      obtain rfl := Option.some.inj (first.symm.trans is)
      rfl
    · intro character is
      obtain rfl := Option.some.inj (last.symm.trans is)
      rfl
  · intro none
    rw [none] at first
    cases first

/-- A text has at most four bytes a character. -/
theorem utf8ByteSize_le (text : List Char) :
    (String.ofList text).utf8ByteSize ≤ 4 * text.length := by
  induction text using List.reverseRecOn with
  | nil => exact Nat.zero_le _
  | append_singleton earlier last ih =>
    have size := last.utf8Size_le_four
    rw [String.ofList_append, String.utf8ByteSize_append, ← String.singleton_eq_ofList,
      String.utf8ByteSize_singleton, List.length_append, List.length_singleton]
    omega

end VelaFlow.Security

namespace VelaFlow.Rag

open Security

/-- What is sanitized for a prompt is never too large for a document. -/
theorem sanitizeForLlm_small (patterns : Patterns) (text : String) :
    ¬ maxDocumentSizeBytes < (sanitizeForLlm patterns text).utf8ByteSize := by
  obtain ⟨pair, known, wrapped⟩ := sanitizeForLlm_eq patterns text
  obtain ⟨-, -, opening, closing⟩ := boundaryPairs_brackets pair known
  have short : (keptPart patterns text maxLlmPromptLength).utf8ByteSize ≤
      4 * maxLlmPromptLength := by
    unfold keptPart
    split
    · exact Nat.zero_le _
    · refine (utf8ByteSize_le _).trans (Nat.mul_le_mul_left 4 ?_)
      rw [List.length_take]
      exact Nat.min_le_left _ _
  have limit : 4 * maxLlmPromptLength + 100 ≤ maxDocumentSizeBytes := by decide +kernel
  rw [wrapped, String.utf8ByteSize_append, String.utf8ByteSize_append]
  omega

/-- What is in a table after storing was in it or is one of the stored chunks. -/
theorem VectorStore.mem_of_mem_storeChunks {E : Type} {store : VectorStore E}
    {chunks : List (DocumentChunk E)} {row : DocumentChunk E}
    (stored : row ∈ (store.storeChunks chunks).1.rows) : row ∈ store.rows ∨ row ∈ chunks := by
  unfold storeChunks at stored
  induction chunks generalizing store with
  | nil => exact Or.inl stored
  | cons chunk rest ih =>
    rcases ih stored with before | later
    · rcases mem_insertOrReplace.mp before with ⟨was, -⟩ | rfl
      · exact Or.inl was
      · exact Or.inr List.mem_cons_self
    · exact Or.inr (List.mem_cons_of_mem chunk later)

namespace RAGPipeline

variable {E : Type} {pipeline : RAGPipeline E} {store : VectorStore E}
  {text documentId tenantId : String} {metadata : Dict} {maxDocuments count : Nat}

/-- The chunks of a text are those of the chunker, embedded. -/
theorem chunks_spec {chunks : List (DocumentChunk E)}
    (made : pipeline.chunks text documentId tenantId metadata = .ok chunks) :
    ∃ plain : List (DocumentChunk E),
      pipeline.chunker.chunk pipeline.sha256 (sanitizeForLlm pipeline.patterns text) documentId
        tenantId metadata = .ok plain ∧
      chunks.map DocumentChunk.content = plain.map DocumentChunk.content ∧
      chunks.map DocumentChunk.chunkId =
        (List.range chunks.length).map (makeChunkId pipeline.sha256 documentId) := by
  unfold RAGPipeline.chunks at made
  cases chunked : pipeline.chunker.chunk (E := E) pipeline.sha256
      (sanitizeForLlm pipeline.patterns text) documentId tenantId metadata with
  | error exception =>
    rw [chunked] at made
    cases made
  | ok plain =>
    rw [chunked] at made
    obtain rfl := Except.ok.inj made
    refine ⟨plain, rfl, ?_, ?_⟩
    · rw [List.map_map]
      rfl
    · rw [List.map_map, List.length_map, ← (DocumentChunker.chunk_spec chunked).2]
      rfl

/-- A text is always chunked: the limit on the size of a document is never reached. -/
theorem chunks_ok (pipeline : RAGPipeline E) (text documentId tenantId : String)
    (metadata : Dict) :
    ∃ chunks, pipeline.chunks text documentId tenantId metadata = .ok chunks := by
  unfold RAGPipeline.chunks DocumentChunker.chunk
  split
  · exact ⟨_, rfl⟩
  · rw [if_neg (sanitizeForLlm_small pipeline.patterns text)]
    exact ⟨_, rfl⟩

/-- An ingest that is accepted stores the chunks of the text. -/
theorem ingest_ok
    (accepted : (pipeline.ingest store text documentId tenantId metadata maxDocuments).1 =
      .ok count) :
    ∃ chunks, pipeline.chunks text documentId tenantId metadata = .ok chunks ∧
      chunks.length = count ∧
      (pipeline.ingest store text documentId tenantId metadata maxDocuments).2 =
        (store.storeChunks chunks).1 := by
  unfold ingest at accepted ⊢
  split at accepted
  case isTrue room =>
    obtain ⟨chunks, made⟩ := pipeline.chunks_ok text documentId tenantId metadata
    rw [if_pos room]
    rw [made] at accepted ⊢
    exact ⟨chunks, rfl, Except.ok.inj accepted, rfl⟩
  case isFalse full => cases accepted

/-- A row of the document that an ingest of some chunks wrote: it has the id of one of them. -/
structure WrittenBy (pipeline : RAGPipeline E) (documentId tenantId : String) (count : Nat)
    (row : DocumentChunk E) : Prop where
  /-- The tenant. -/
  tenant : row.tenantId = tenantId
  /-- The document. -/
  document : row.documentId = documentId
  /-- The id is that of a position of the document. -/
  position : ∃ index < count, row.chunkId = makeChunkId pipeline.sha256 documentId index

/-- The rows that an ingest wrote are the chunks of the text, when no two positions have one id. -/
theorem exists_written_iff {chunks : List (DocumentChunk E)}
    (made : pipeline.chunks text documentId tenantId metadata = .ok chunks)
    (apart : Set.InjOn (DocumentChunker.shortDigest pipeline.sha256)
      {raw | ∃ index < chunks.length, raw = DocumentChunker.hashedText documentId index})
    {row : DocumentChunk E} :
    (row ∈ (store.storeChunks chunks).1.rows ∧
      WrittenBy pipeline documentId tenantId chunks.length row) ↔ row ∈ chunks := by
  obtain ⟨plain, -, -, ids⟩ := chunks_spec made
  have distinct : (chunks.map DocumentChunk.chunkId).Nodup := by
    rw [ids]
    exact DocumentChunker.nodup_makeChunkId apart
  rw [VectorStore.mem_storeChunks distinct]
  constructor
  · rintro ⟨⟨-, fresh⟩ | inside, written⟩
    · obtain ⟨index, within, is⟩ := written.position
      refine absurd ?_ fresh
      rw [ids, is]
      exact List.mem_map_of_mem (List.mem_range.mpr within)
    · exact inside
  · intro inside
    refine ⟨Or.inr inside, tenantId_of_mem_chunks made inside,
      documentId_of_mem_chunks made inside, ?_⟩
    have isId : row.chunkId ∈ chunks.map DocumentChunk.chunkId := List.mem_map_of_mem inside
    rw [ids] at isId
    obtain ⟨index, within, is⟩ := List.mem_map.mp isId
    exact ⟨index, List.mem_range.mp within, is.symm⟩

/-- What no cut divides lies in a chunk of a text exactly when it lies in what is sanitized. -/
theorem infix_chunks_iff {chunks : List (DocumentChunk E)}
    (made : pipeline.chunks text documentId tenantId metadata = .ok chunks) {part : List Char}
    (whole : Whole part) : (∃ chunk ∈ chunks, part <:+: chunk.content.toList) ↔
      part <:+: (sanitizeForLlm pipeline.patterns text).toList := by
  obtain ⟨plain, chunked, contents, -⟩ := chunks_spec made
  obtain ⟨stripped, visible⟩ := strip_sanitizeForLlm pipeline.patterns text
  have asContents (chunks : List (DocumentChunk E)) :
      (∃ content ∈ chunks.map DocumentChunk.content, part <:+: content.toList) ↔
        ∃ chunk ∈ chunks, part <:+: chunk.content.toList := by simp
  rw [← asContents, contents, asContents,
    DocumentChunker.infix_chunk_iff (by rwa [stripped]) chunked whole, stripped]

/-- An ingest keeps every sentence of a text that has no markup exactly when each lies in its first
characters up to the limit of a prompt, the control characters left out and the marks of the
sanitizer around them. -/
theorem ingest_keeps_iff
    (accepted : (pipeline.ingest store text documentId tenantId metadata maxDocuments).1 =
      .ok count)
    (apart : Set.InjOn (DocumentChunker.shortDigest pipeline.sha256)
      {raw | ∃ index < count, raw = DocumentChunker.hashedText documentId index})
    (plain : stripMarkup pipeline.patterns text = stripControl text) :
    (∀ sentence ∈ sentencesOf text,
      ∃ row ∈ (pipeline.ingest store text documentId tenantId metadata maxDocuments).2.rows,
        WrittenBy pipeline documentId tenantId count row ∧
          sentence.toList <:+: row.content.toList) ↔
      ∀ sentence ∈ sentencesOf text, sentence.toList <:+: (between pipeline.patterns
        (String.ofList ((stripControl text).toList.take maxLlmPromptLength))).toList := by
  obtain ⟨chunks, made, rfl, stored⟩ := ingest_ok accepted
  rw [stored]
  refine forall₂_congr fun sentence member => ?_
  have some : text ≠ "" := by
    rintro rfl
    cases member
  have kept : keptPart pipeline.patterns text maxLlmPromptLength =
      String.ofList ((stripControl text).toList.take maxLlmPromptLength) := by
    unfold keptPart
    rw [if_neg some, plain]
  rw [← kept, ← sanitizeForLlm_between pipeline.patterns some,
    ← infix_chunks_iff made (whole_of_mem_sentencesOf member)]
  constructor
  · rintro ⟨row, inStore, written, inside⟩
    exact ⟨row, (exists_written_iff made apart).mp ⟨inStore, written⟩, inside⟩
  · rintro ⟨chunk, isChunk, inside⟩
    have ⟨inStore, written⟩ : chunk ∈ (store.storeChunks chunks).1.rows ∧ _ :=
      (exists_written_iff made apart).mpr isChunk
    exact ⟨chunk, inStore, written, inside⟩

/-- The standard chunks leave room for new text. -/
theorem room_standard : (64 : Int) < 512 := by decide

/-- A pipeline whose patterns find nothing, with the hash of the sample document. -/
def plainIngest : RAGPipeline Nat where
  sha256 := DocumentChunker.sampleSha256
  patterns := findingNothing
  embed _ := []
  chunker := ⟨512, 64, room_standard⟩

/-- A short document is accepted as one chunk. -/
theorem accepted_two :
    (plainIngest.ingest .empty "One. Two." "doc" "tn_a" [] 0).1 = .ok 1 := by
  have sanitized : sanitizeForLlm findingNothing "One. Two." =
      "[USER_DATA_BEGIN]\nOne. Two.\n[USER_DATA_END]" := by decide +kernel
  have contents : plainIngest.chunker.contents "[USER_DATA_BEGIN]\nOne. Two.\n[USER_DATA_END]" =
      ["[USER_DATA_BEGIN]\nOne. Two. [USER_DATA_END]"] := by decide +kernel
  have visible : strip "[USER_DATA_BEGIN]\nOne. Two.\n[USER_DATA_END]".toList ≠ [] := by
    decide +kernel
  have small := sanitizeForLlm_small findingNothing "One. Two."
  rw [sanitized] at small
  have room : admits (.empty : VectorStore Nat) "tn_a" 0 = true := rfl
  have patterns : plainIngest.patterns = findingNothing := rfl
  unfold ingest chunks DocumentChunker.chunk
  rw [if_pos room, patterns, sanitized, if_neg visible, if_neg small, contents]
  rfl

/-- A short document is kept. -/
theorem ingest_keeps_two :
    (∀ sentence ∈ sentencesOf "One. Two.",
      ∃ row ∈ (plainIngest.ingest .empty "One. Two." "doc" "tn_a" [] 0).2.rows,
        WrittenBy plainIngest "doc" "tn_a" 1 row ∧ sentence.toList <:+: row.content.toList) ↔
      ∀ sentence ∈ sentencesOf "One. Two.", sentence.toList <:+: (between findingNothing
        (String.ofList ((stripControl "One. Two.").toList.take maxLlmPromptLength))).toList := by
  refine ingest_keeps_iff accepted_two ?_ rfl
  rintro _ ⟨first, inFirst, rfl⟩ _ ⟨second, inSecond, rfl⟩ -
  rw [Nat.lt_one_iff.mp inFirst, Nat.lt_one_iff.mp inSecond]

/-- A document of one sentence that is a character too long for a prompt. -/
def longText : String := String.ofList (List.replicate (maxLlmPromptLength + 1) 'a')

/-- The long document is one sentence. -/
theorem sentencesOf_longText : sentencesOf longText = [longText] := by
  have reads (count : Nat) : ∀ read, splitSentencesFrom (List.replicate count 'a') read false =
      [read.reverse ++ List.replicate count 'a'] := by
    induction count with
    | zero => exact fun read => by rw [List.replicate_zero, List.append_nil]; rfl
    | succ count ih =>
      intro read
      have later := ih ('a' :: read)
      rw [List.reverse_cons, List.append_assoc] at later
      exact later
  have stripped : strip longText.toList = longText.toList := by
    unfold longText
    rw [String.toList_ofList]
    apply strip_eq_self
    · intro first isFirst
      rw [List.eq_of_mem_replicate (List.mem_of_mem_head? isFirst)]
      rfl
    · intro last isLast
      rw [List.eq_of_mem_replicate (List.mem_of_mem_getLast? isLast)]
      rfl
  have visible : strip longText.toList ≠ [] := by
    rw [stripped]
    unfold longText
    rw [String.toList_ofList]
    exact List.cons_ne_nil _ _
  unfold sentencesOf splitSentences
  rw [if_neg visible, stripped]
  unfold longText
  rw [String.toList_ofList, reads]
  rfl

/-- The long document loses its only sentence. -/
theorem sentence_lost :
    (∃ count, (plainIngest.ingest .empty longText "doc" "tn_a" [] 0).1 = .ok count) ∧
      ¬ ∀ sentence ∈ sentencesOf longText,
        ∃ row ∈ (plainIngest.ingest .empty longText "doc" "tn_a" [] 0).2.rows,
          sentence.toList <:+: row.content.toList := by
  obtain ⟨chunks, made⟩ := plainIngest.chunks_ok longText "doc" "tn_a" []
  have run : plainIngest.ingest .empty longText "doc" "tn_a" [] 0 =
      (.ok chunks.length, (VectorStore.empty.storeChunks chunks).1) := by
    have room : admits (.empty : VectorStore Nat) "tn_a" 0 = true := rfl
    unfold ingest
    rw [if_pos room, made]
    rfl
  rw [run]
  refine ⟨⟨chunks.length, rfl⟩, fun kept => ?_⟩
  have member : longText ∈ sentencesOf longText := by
    rw [sentencesOf_longText]
    exact List.mem_cons_self
  obtain ⟨row, stored, inside⟩ := kept longText member
  have written := (VectorStore.mem_of_mem_storeChunks stored).resolve_left List.not_mem_nil
  have inPrompt := (infix_chunks_iff made (whole_of_mem_sentencesOf member)).mp
    ⟨row, written, inside⟩
  have some : longText ≠ "" := by
    intro none
    rw [none] at member
    cases member
  have inMarks : longText.toList.count 'a' ≤ (between findingNothing
      (keptPart findingNothing longText maxLlmPromptLength)).toList.count 'a' := by
    rw [← sanitizeForLlm_between findingNothing some]
    exact inPrompt.sublist.count_le 'a'
  have marks : ("[USER_DATA_BEGIN]\n".toList.count 'a' = 0) ∧
      ("\n[USER_DATA_END]".toList.count 'a' = 0) := by decide +kernel
  have cut : (keptPart findingNothing longText maxLlmPromptLength).toList.count 'a' ≤
      maxLlmPromptLength := by
    unfold keptPart
    rw [if_neg some, String.toList_ofList]
    refine List.count_le_length.trans ?_
    rw [List.length_take]
    exact Nat.min_le_left _ _
  have whole : longText.toList.count 'a' = maxLlmPromptLength + 1 := by
    unfold longText
    rw [String.toList_ofList, List.count_replicate_self]
  have clean : findingNothing.promptInjection.any (fun pattern =>
      pattern.2 (keptPart findingNothing longText maxLlmPromptLength)) = false := rfl
  unfold between at inMarks
  rw [clean, if_neg Bool.false_ne_true, String.toList_append, String.toList_append,
    List.count_append, List.count_append, marks.1, marks.2, whole] at inMarks
  omega

end RAGPipeline

end VelaFlow.Rag
