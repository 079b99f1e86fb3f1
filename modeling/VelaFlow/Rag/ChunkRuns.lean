import Mathlib.Algebra.Order.BigOperators.Group.List
import Mathlib.Algebra.Order.Ring.Nat
import Mathlib.Data.List.Nodup
import VelaFlow.Foundation.OverlapRuns
import VelaFlow.Rag.Chunker

/-!
# Runs of sentences

The loop of `chunk` packs the sentences of a text greedily into overlapping runs. The running
length it keeps is not the length of the text that is packed: the repeated sentences are counted
with the blanks between them, the added ones without. The variables of the loop stand for the
state of the packer, so the chunks are the runs of a cover of the sentences.
-/
namespace VelaFlow.Rag

open OverlapRun

/-- The sentences of a text; a blank text has none. -/
def sentencesOf (text : String) : List String :=
  if strip text.toList = [] then [] else splitSentences (strip text.toList)

/-- A text that is not blank has a sentence. -/
theorem sentencesOf_ne_nil {text : String} (visible : strip text.toList ≠ []) :
    sentencesOf text ≠ [] := by
  have some : ∀ characters read skipping, splitSentencesFrom characters read skipping ≠ [] := by
    intro characters
    induction characters with
    | nil => exact fun read _ => List.cons_ne_nil read.reverse []
    | cons character rest ih =>
      intro read skipping
      unfold splitSentencesFrom
      split
      · split
        · exact ih read true
        · split
          · exact List.cons_ne_nil _ _
          · exact ih _ false
      · exact ih _ false
  unfold sentencesOf splitSentences
  rw [if_neg visible]
  exact fun nothing => some _ _ _ (List.map_eq_nil_iff.mp nothing)

namespace DocumentChunker

variable (chunker : DocumentChunker)

/-- The running length of a run. -/
def recorded (run : OverlapRun String) : Nat :=
  (joinSpace run.repeated).length + (run.added.map String.length).sum

/-- Whether a sentence would take the running length over the chunk size. -/
def overfills (run : OverlapRun String) (sentence : String) : Bool :=
  decide (chunker.chunkSize < recorded run + sentence.length)

/-- The sentences that the next chunk repeats. -/
def repeatedOf (sentences : List String) : List String :=
  (keepOverlap chunker.overlap sentences.reverse [] "").1

/-- The runs that the sentences of a text are packed into. -/
def runs (text : String) : List (OverlapRun String) :=
  if sentencesOf text = [] then []
  else (OverlapRun.pack chunker.overfills chunker.repeatedOf (sentencesOf text)).runs

/-- The loop over the last sentences keeps an end of them, and its text is theirs. -/
theorem keepOverlap_spec (overlap : Int) (earlier kept : List String) :
    (keepOverlap overlap earlier kept (joinSpace kept)).1 <:+ earlier.reverse ++ kept ∧
      (keepOverlap overlap earlier kept (joinSpace kept)).2 =
        joinSpace (keepOverlap overlap earlier kept (joinSpace kept)).1 := by
  induction earlier generalizing kept with
  | nil => exact ⟨List.suffix_rfl, rfl⟩
  | cons sentence rest ih =>
    unfold keepOverlap
    split
    · exact ⟨List.suffix_append _ _, rfl⟩
    · have later := ih (sentence :: kept)
      rw [List.reverse_cons, List.append_assoc]
      exact later

/-- An end of the sentences is repeated. -/
theorem repeatedOf_suffix (sentences : List String) :
    chunker.repeatedOf sentences <:+ sentences := by
  have spec := (keepOverlap_spec chunker.overlap sentences.reverse []).1
  rw [List.reverse_reverse, List.append_nil] at spec
  exact spec

/-- The variables of the loop stand for a state of the packer. -/
structure Represents (packing : Packing) (packed : Packed String) : Prop where
  /-- The finished chunks are the joined runs. -/
  chunks : packing.chunks = packed.done.map fun run => joinSpace run.whole
  /-- The current sentences are those of the run that grows. -/
  current : packing.current = packed.current.whole
  /-- The running length is that of the run that grows. -/
  currentLen : packing.currentLen = recorded packed.current

/-- One turn of the loop is one step of the packer. -/
theorem represents_pack {packing : Packing} {packed : Packed String}
    (represents : Represents packing packed) (sentence : String) :
    Represents (chunker.pack packing sentence)
      (packNext chunker.overfills chunker.repeatedOf packed sentence) := by
  obtain ⟨chunks, current, currentLen⟩ := packing
  obtain ⟨rfl, rfl, rfl⟩ := represents
  have same : (chunker.chunkSize < recorded packed.current + sentence.length ∧
      packed.current.whole ≠ []) ↔
      (chunker.overfills packed.current sentence = true ∧ packed.current.whole ≠ []) :=
    and_congr_left' (decide_eq_true_iff).symm
  unfold DocumentChunker.pack packNext
  by_cases opens : chunker.chunkSize < recorded packed.current + sentence.length ∧
      packed.current.whole ≠ []
  · rw [if_pos (same.mp opens)]
    simp only [if_pos opens]
    have text := (keepOverlap_spec chunker.overlap packed.current.whole.reverse []).2
    refine ⟨?_, rfl, ?_⟩
    · rw [List.map_append]
      rfl
    · show _ + _ = (joinSpace _).length + _
      rw [List.map_singleton, List.sum_singleton]
      exact congrArg (fun kept => kept.length + sentence.length) text
  · rw [if_neg fun full => opens (same.mpr full)]
    simp only [if_neg opens]
    refine ⟨rfl, (whole_add _ _).symm, ?_⟩
    show recorded _ + _ = (joinSpace _).length + ((_ ++ [sentence]).map _).sum
    rw [List.map_append, List.sum_append, List.map_singleton, List.sum_singleton, ← Nat.add_assoc]
    rfl

/-- The loop over some sentences packs them. -/
theorem represents_foldl (sentences : List String) :
    Represents (sentences.foldl chunker.pack {})
      (OverlapRun.pack chunker.overfills chunker.repeatedOf sentences) := by
  induction sentences using List.reverseRecOn with
  | nil => exact ⟨rfl, rfl, rfl⟩
  | append_singleton earlier sentence ih =>
    rw [List.foldl_concat, pack_concat]
    exact chunker.represents_pack ih sentence

/-- The runs of a text cover its sentences. -/
theorem covers_runs (text : String) : Covers (sentencesOf text) (chunker.runs text) := by
  unfold runs
  split
  case isTrue blank =>
    rw [blank]
    exact ⟨List.isChain_singleton _, rfl⟩
  case isFalse some => exact covers_pack chunker.repeatedOf_suffix some

/-- The contents of the chunks of a text are its joined runs. -/
theorem contents_eq {text : String} (visible : strip text.toList ≠ []) :
    chunker.contents text = (chunker.runs text).map fun run => joinSpace run.whole := by
  have some := sentencesOf_ne_nil visible
  have represents := chunker.represents_foldl (sentencesOf text)
  have sentences : sentencesOf text = splitSentences (strip text.toList) := if_neg visible
  have last : (OverlapRun.pack chunker.overfills chunker.repeatedOf
      (sentencesOf text)).current.whole ≠ [] := by
    have covers : Covers (sentencesOf text)
        (OverlapRun.pack chunker.overfills chunker.repeatedOf (sentencesOf text)).runs :=
      covers_pack chunker.repeatedOf_suffix some
    have adds := covers.added_ne_nil (List.mem_append_right _ List.mem_cons_self)
    exact List.append_ne_nil_of_right_ne_nil _ adds
  unfold contents runs
  rw [← sentences, if_neg some]
  dsimp only
  rw [represents.current, if_neg last, represents.chunks]
  unfold Packed.runs
  rw [List.map_append, List.map_singleton]

section Chunk

variable {chunker} {E : Type} {sha256 : String → String} {text documentId tenantId : String}
  {metadata : Dict} {chunks : List (DocumentChunk E)}

/-- The contents of the chunks are the joined runs, and their ids are made from their
positions. -/
theorem chunk_spec (chunked : chunker.chunk sha256 text documentId tenantId metadata = .ok chunks) :
    chunks.map DocumentChunk.content = (chunker.runs text).map (fun run => joinSpace run.whole) ∧
      chunks.map DocumentChunk.chunkId =
        (List.range chunks.length).map (makeChunkId sha256 documentId) := by
  unfold DocumentChunker.chunk at chunked
  split at chunked
  case isTrue blank =>
    obtain rfl := Except.ok.inj chunked
    have nothing : sentencesOf text = [] := if_pos blank
    have none : chunker.runs text = [] := if_pos nothing
    rw [none]
    exact ⟨rfl, rfl⟩
  case isFalse visible =>
    split at chunked
    · cases chunked
    · obtain rfl := Except.ok.inj chunked
      rw [← chunker.contents_eq visible, List.map_map, List.map_map]
      constructor
      · exact List.zipIdx_map_fst 0 _
      · rw [List.length_map, List.length_zipIdx, List.range_eq_range', ← List.zipIdx_map_snd 0,
          List.map_map]
        rfl

/-- What `_make_chunk_id` hashes. -/
def hashedText (documentId : String) (index : Nat) : String :=
  documentId ++ ":" ++ toString index

/-- The digits of a hash that an id keeps. -/
def shortDigest (sha256 : String → String) (raw : String) : String :=
  String.ofList ((sha256 raw).toList.take 16)

/-- The hashed text tells the position. -/
theorem hashedText_inj {first second : Nat}
    (same : hashedText documentId first = hashedText documentId second) : first = second := by
  have digits : (toString first).toList = (toString second).toList := by
    have texts : (documentId ++ ":").toList ++ (toString first).toList =
        (documentId ++ ":").toList ++ (toString second).toList := by
      rw [← String.toList_append, ← String.toList_append]
      exact congrArg String.toList same
    exact List.append_cancel_left texts
  have numbers := congrArg (fun characters => Nat.ofDigitChars 10 characters 0) digits
  have read : ∀ number : Nat, Nat.ofDigitChars 10 (toString number).toList 0 = number := by
    intro number
    rw [Nat.toString_eq_repr, Nat.toList_repr]
    exact Nat.ofDigitChars_ten_toDigits
  rw [read, read] at numbers
  exact numbers

/-- The ids of different positions differ unless the hash collides. -/
theorem nodup_makeChunkId {count : Nat} (apart : Set.InjOn (shortDigest sha256)
    {raw | ∃ index < count, raw = hashedText documentId index}) :
    ((List.range count).map (makeChunkId sha256 documentId)).Nodup := by
  refine List.Nodup.map_on ?_ List.nodup_range
  intro first inFirst second inSecond same
  exact hashedText_inj (apart ⟨first, List.mem_range.mp inFirst, rfl⟩
    ⟨second, List.mem_range.mp inSecond, rfl⟩ same)

/-- Every text that is chunked is covered: the chunks are the joined runs of a cover of its
sentences, each run is made of neighbours, the first starts with the first sentence and the last
ends with the last one, there are at most as many chunks as sentences, and no two have one id
unless the hash collides. -/
theorem chunk_covers
    (chunked : chunker.chunk sha256 text documentId tenantId metadata = .ok chunks)
    (apart : Set.InjOn (shortDigest sha256)
      {raw | ∃ index < chunks.length, raw = hashedText documentId index}) :
    ∃ runs : List (OverlapRun String),
      chunks.map DocumentChunk.content = runs.map (fun run => joinSpace run.whole) ∧
      Covers (sentencesOf text) runs ∧
      (∀ run ∈ runs, run.whole <:+: sentencesOf text) ∧
      (∀ first ∈ runs.head?, first.whole <+: sentencesOf text) ∧
      (∀ last ∈ runs.getLast?, last.whole <:+ sentencesOf text) ∧
      chunks.length ≤ (sentencesOf text).length ∧
      (chunks.map DocumentChunk.chunkId).Nodup := by
  have ⟨contents, ids⟩ := chunk_spec chunked
  have covers := chunker.covers_runs text
  have count : chunks.length = (chunker.runs text).length := by
    simpa using congrArg List.length contents
  refine ⟨chunker.runs text, contents, covers, fun run => covers.infix_of_mem, ?_, ?_, ?_, ?_⟩
  · intro first isFirst
    obtain ⟨rest, is⟩ := List.head?_eq_some_iff.mp isFirst
    rw [is] at covers
    exact covers.first_prefix
  · intro last isLast
    obtain ⟨earlier, is⟩ := List.getLast?_eq_some_iff.mp isLast
    rw [is] at covers
    exact covers.last_suffix
  · rw [count]
    exact covers.length_le
  · rw [ids]
    exact nodup_makeChunkId apart

/-- The sample overlap leaves room for new text. -/
theorem room_six : (4 : Int) < 10 := by decide

/-- A chunker with small chunks. -/
def smallChunker : DocumentChunker := ⟨10, 4, room_six⟩

/-- SHA-256 of the texts that the sample document hashes. -/
def sampleSha256 (raw : String) : String :=
  if raw = "doc:0" then "09ffccc88c6f9b2568ea5a24621c456b74423871e94f9e024bf231b1696316ff"
  else "a2a5535cfd14b3dda3d8bed1245906ada835711fbf387e8ea6c77a077a578801"

/-- The sample document has two chunks. -/
theorem contents_six : smallChunker.contents "One. Two. Six." = ["One. Two.", "Two. Six."] := by
  decide +kernel

/-- The chunks of the sample document. -/
def chunksSix : List (DocumentChunk Nat) :=
  (["One. Two.", "Two. Six."].zipIdx).map fun (content, index) =>
    { chunkId := makeChunkId sampleSha256 "doc" index
      documentId := "doc", tenantId := "tn_a", content, metadata := [] }

/-- The sample document is chunked. -/
theorem chunked_six :
    smallChunker.chunk sampleSha256 "One. Two. Six." "doc" "tn_a" [] = .ok chunksSix := by
  have visible : strip "One. Two. Six.".toList ≠ [] := by decide +kernel
  have small : ¬ maxDocumentSizeBytes < "One. Two. Six.".utf8ByteSize := by decide +kernel
  unfold DocumentChunker.chunk
  rw [if_neg visible, if_neg small, contents_six]
  rfl

/-- A document of three sentences is covered by two chunks that share one. -/
theorem chunk_covers_six :
    ∃ runs : List (OverlapRun String),
      chunksSix.map DocumentChunk.content = runs.map (fun run => joinSpace run.whole) ∧
      Covers (sentencesOf "One. Two. Six.") runs ∧
      (∀ run ∈ runs, run.whole <:+: sentencesOf "One. Two. Six.") ∧
      (∀ first ∈ runs.head?, first.whole <+: sentencesOf "One. Two. Six.") ∧
      (∀ last ∈ runs.getLast?, last.whole <:+ sentencesOf "One. Two. Six.") ∧
      chunksSix.length ≤ (sentencesOf "One. Two. Six.").length ∧
      (chunksSix.map DocumentChunk.chunkId).Nodup := by
  refine chunk_covers chunked_six ?_
  have apart : shortDigest sampleSha256 (hashedText "doc" 0) ≠
      shortDigest sampleSha256 (hashedText "doc" 1) := by decide +kernel
  rintro _ ⟨first, inFirst, rfl⟩ _ ⟨second, inSecond, rfl⟩ same
  rcases Nat.lt_succ_iff_lt_or_eq.mp inFirst with zero | rfl
  · obtain rfl := Nat.lt_one_iff.mp zero
    rcases Nat.lt_succ_iff_lt_or_eq.mp inSecond with zero | rfl
    · obtain rfl := Nat.lt_one_iff.mp zero
      rfl
    · exact absurd same apart
  · rcases Nat.lt_succ_iff_lt_or_eq.mp inSecond with zero | rfl
    · obtain rfl := Nat.lt_one_iff.mp zero
      exact absurd same.symm apart
    · rfl

end Chunk

end DocumentChunker

end VelaFlow.Rag
