import VelaFlow.Rag.ChunkRuns

/-!
# Bounds of the chunks

`chunk` compares the chunk size with a running length that leaves out the blanks between the added
sentences, opens a chunk with the repeated sentences without asking whether the next one fits
behind them, and leaves out a blank again when it counts what may be repeated. The bounds hold of
a text exactly when none of the three is ever met.
-/
namespace VelaFlow.Rag.DocumentChunker

open OverlapRun

/-- A sentence in front of others is joined to them by a blank. -/
theorem length_joinSpace_cons (sentence : String) {rest : List String} (some : rest ≠ []) :
    (joinSpace (sentence :: rest)).length = sentence.length + 1 + (joinSpace rest).length := by
  unfold joinSpace
  rw [String.intercalate_cons_of_ne_nil some, String.length_append, String.length_append]
  rfl

/-- A sentence behind others is joined to them by a blank. -/
theorem length_joinSpace_concat {earlier : List String} (some : earlier ≠ []) (sentence : String) :
    (joinSpace (earlier ++ [sentence])).length = (joinSpace earlier).length + 1 + sentence.length := by
  unfold joinSpace
  rw [String.intercalate_append_of_ne_nil some (List.cons_ne_nil sentence []),
    String.length_append, String.length_append, String.intercalate_singleton]
  rfl

/-- An end of some sentences is no longer than they are. -/
theorem length_joinSpace_le {trailing sentences : List String} (ends : trailing <:+ sentences) :
    (joinSpace trailing).length ≤ (joinSpace sentences).length := by
  obtain ⟨earlier, rfl⟩ := ends
  induction earlier with
  | nil => exact Nat.le_refl _
  | cons sentence rest ih =>
    by_cases none : rest ++ trailing = []
    · have nothing := (List.append_eq_nil_iff.mp none).2
      rw [nothing]
      exact Nat.zero_le _
    · rw [List.cons_append, length_joinSpace_cons sentence none]
      omega

variable (chunker : DocumentChunker)

/-- The bounds of a run: a chunk of two or more sentences keeps to the chunk size, and what it
repeats keeps to the overlap. -/
structure Bounded (run : OverlapRun String) : Prop where
  /-- The chunk size bounds the joined sentences. -/
  size : 2 ≤ run.whole.length → ((joinSpace run.whole).length : Int) ≤ chunker.chunkSize
  /-- The overlap bounds the repeated text. -/
  overlap : ((joinSpace run.repeated).length : Int) ≤ chunker.overlap

/-- Before a sentence, none of the three oversights is met. -/
structure Room (packing : Packing) (sentence : String) : Prop where
  /-- A sentence that passes the test joins the current ones and fits with its blanks too. -/
  joins : packing.current ≠ [] → packing.currentLen + sentence.length ≤ chunker.chunkSize →
    (joinSpace packing.current).length + 1 + sentence.length ≤ chunker.chunkSize
  /-- A sentence that opens a chunk fits behind any last sentences within the overlap. -/
  opens : chunker.chunkSize < packing.currentLen + sentence.length →
    ∀ trailing, trailing <:+ packing.current → trailing ≠ [] →
      (joinSpace trailing).length ≤ chunker.overlap →
      (joinSpace trailing).length + 1 + sentence.length ≤ chunker.chunkSize
  /-- When a chunk opens, no two or more last sentences are one character over the overlap. -/
  repeats : chunker.chunkSize < packing.currentLen + sentence.length →
    ∀ trailing, trailing <:+ packing.current → 2 ≤ trailing.length →
      (joinSpace trailing).length ≠ chunker.overlap + 1

variable {chunker}

/-- A run that grows stays over its bounds. -/
theorem bounded_of_add (run : OverlapRun String) (sentence : String)
    (bounded : chunker.Bounded (run.add sentence)) : chunker.Bounded run where
  size := by
    intro many
    have some : run.whole ≠ [] := List.ne_nil_of_length_pos (by omega)
    have grown := bounded.size (by rw [whole_add, List.length_append]; omega)
    rw [whole_add, length_joinSpace_concat some] at grown
    omega
  overlap := bounded.overlap

/-- The loop over the last sentences keeps at least those it has. -/
theorem suffix_keepOverlap (overlap : Int) (earlier kept : List String) (text : String) :
    kept <:+ (keepOverlap overlap earlier kept text).1 := by
  induction earlier generalizing kept text with
  | nil => exact List.suffix_rfl
  | cons sentence rest ih =>
    unfold keepOverlap
    split
    · exact List.suffix_rfl
    · exact (List.suffix_cons sentence kept).trans (ih _ _)

/-- The last sentences up to one that passes the test of the inner loop are repeated. -/
theorem suffix_repeatedOf {sentence : String} {rest sentences : List String}
    (ends : sentence :: rest <:+ sentences)
    (fits : (joinSpace rest).length + sentence.length ≤ chunker.overlap) :
    sentence :: rest <:+ chunker.repeatedOf sentences := by
  obtain ⟨earlier, rfl⟩ := ends
  have walk : ∀ read kept, read.reverse ++ kept = sentence :: rest →
      sentence :: rest <:+
        (keepOverlap chunker.overlap (read ++ earlier.reverse) kept (joinSpace kept)).1 := by
    intro read
    induction read with
    | nil =>
      intro kept is
      rw [List.reverse_nil, List.nil_append] at is
      rw [is]
      exact suffix_keepOverlap _ _ _ _
    | cons last more ih =>
      intro kept is
      rw [List.reverse_cons, List.append_assoc] at is
      have passes : ¬ chunker.overlap < (joinSpace kept).length + last.length := by
        rcases List.eq_nil_or_concat more with rfl | ⟨before, first, rfl⟩
        · have whole : last :: kept = sentence :: rest := is
          obtain ⟨rfl, rfl⟩ := List.cons.inj whole
          omega
        · rw [List.concat_eq_append, List.reverse_append] at is
          have inside : last :: kept <:+ rest := ⟨before.reverse, (List.cons.inj is).2⟩
          have short := length_joinSpace_le inside
          have parts : (joinSpace kept).length + last.length ≤ (joinSpace (last :: kept)).length := by
            by_cases none : kept = []
            · subst none
              exact Nat.le_of_eq (Nat.zero_add last.length)
            · rw [length_joinSpace_cons last none]
              omega
          omega
      rw [List.cons_append, keepOverlap, if_neg passes]
      exact ih (last :: kept) is
  have start := walk (sentence :: rest).reverse [] (by rw [List.reverse_reverse, List.append_nil])
  unfold repeatedOf
  rw [List.reverse_append]
  exact start

/-- Last sentences within the overlap are repeated, and so are two or more that are one character
over it. -/
theorem suffix_repeatedOf_of_length {trailing sentences : List String} (ends : trailing <:+ sentences)
    (some : trailing ≠ []) (short : (joinSpace trailing).length ≤ chunker.overlap ∨
      2 ≤ trailing.length ∧ (joinSpace trailing).length = chunker.overlap + 1) :
    trailing <:+ chunker.repeatedOf sentences := by
  obtain ⟨sentence, rest, rfl⟩ := List.exists_cons_of_ne_nil some
  apply suffix_repeatedOf ends
  by_cases alone : rest = []
  · subst alone
    have one : (joinSpace [sentence]).length = sentence.length := rfl
    have nothing : (joinSpace []).length = 0 := rfl
    rcases short with within | ⟨many, -⟩
    · omega
    · exact absurd many (Nat.lt_irrefl 1)
  · have joined := length_joinSpace_cons sentence alone
    omega

/-- What is repeated passed the test of the inner loop. -/
theorem repeatedOf_passes (sentences : List String) : chunker.repeatedOf sentences = [] ∨
    ∃ sentence rest, chunker.repeatedOf sentences = sentence :: rest ∧
      (joinSpace rest).length + sentence.length ≤ chunker.overlap := by
  have walk : ∀ earlier kept,
      (kept = [] ∨ ∃ sentence rest, kept = sentence :: rest ∧
        (joinSpace rest).length + sentence.length ≤ chunker.overlap) →
      (keepOverlap chunker.overlap earlier kept (joinSpace kept)).1 = [] ∨
        ∃ sentence rest,
          (keepOverlap chunker.overlap earlier kept (joinSpace kept)).1 = sentence :: rest ∧
          (joinSpace rest).length + sentence.length ≤ chunker.overlap := by
    intro earlier
    induction earlier with
    | nil => exact fun kept passed => passed
    | cons last more ih =>
      intro kept passed
      unfold keepOverlap
      split
      · exact passed
      · exact ih (last :: kept) (Or.inr ⟨last, kept, rfl, by omega⟩)
  exact walk sentences.reverse [] (Or.inl rfl)

/-- What the next chunk repeats keeps to the overlap when no two or more last sentences are one
character over it. -/
theorem length_repeatedOf_le (nonneg : 0 ≤ chunker.overlap) {sentences : List String}
    (apart : ∀ trailing, trailing <:+ sentences → 2 ≤ trailing.length →
      (joinSpace trailing).length ≠ chunker.overlap + 1) :
    (joinSpace (chunker.repeatedOf sentences)).length ≤ chunker.overlap := by
  rcases chunker.repeatedOf_passes sentences with none | ⟨sentence, rest, is, fits⟩
  · rw [none]
    exact nonneg
  · have ends := chunker.repeatedOf_suffix sentences
    rw [is] at ends ⊢
    by_cases alone : rest = []
    · subst alone
      have one : (joinSpace [sentence]).length = sentence.length := rfl
      omega
    · have joined := length_joinSpace_cons sentence alone
      have some : 0 < rest.length := List.length_pos_iff.mpr alone
      have exceeds := apart _ ends (by rw [List.length_cons]; omega)
      omega

/-- No bound is met by one sentence. -/
theorem bounded_of_length_le_one {run : OverlapRun String} (few : run.whole.length ≤ 1)
    (overlap : ((joinSpace run.repeated).length : Int) ≤ chunker.overlap) :
    chunker.Bounded run :=
  ⟨fun many => absurd (many.trans few) (Nat.lt_irrefl 1), overlap⟩

/-- A chunk that opens is bounded exactly when there is room for its sentence. -/
theorem bounded_open_iff (nonneg : 0 ≤ chunker.overlap) {packing : Packing} {sentence : String}
    (exceeds : chunker.chunkSize < packing.currentLen + sentence.length) :
    chunker.Bounded ⟨chunker.repeatedOf packing.current, [sentence]⟩ ↔
      chunker.Room packing sentence := by
  constructor
  · intro next
    have overlap : (joinSpace (chunker.repeatedOf packing.current)).length ≤ chunker.overlap :=
      next.overlap
    refine ⟨fun _ fits => absurd exceeds (not_lt.mpr fits), fun _ => ?_, fun _ => ?_⟩
    · intro trailing ends some short
      have inside := suffix_repeatedOf_of_length ends some (Or.inl short)
      have kept : chunker.repeatedOf packing.current ≠ [] :=
        fun none => some (List.suffix_nil.mp (none ▸ inside))
      have longer := length_joinSpace_le inside
      have joined := length_joinSpace_concat kept sentence
      have two : 2 ≤ (chunker.repeatedOf packing.current ++ [sentence]).length := by
        have pos := List.length_pos_iff.mpr kept
        rw [List.length_append, List.length_singleton]
        omega
      have size : (joinSpace (chunker.repeatedOf packing.current ++ [sentence])).length ≤
        chunker.chunkSize := next.size two
      omega
    · intro trailing ends many same
      have some : trailing ≠ [] := List.ne_nil_of_length_pos (by omega)
      have inside := suffix_repeatedOf_of_length ends some (Or.inr ⟨many, same⟩)
      have longer := length_joinSpace_le inside
      omega
  · intro room
    have kept := length_repeatedOf_le nonneg (room.repeats exceeds)
    by_cases none : chunker.repeatedOf packing.current = []
    · rw [none]
      exact bounded_of_length_le_one (Nat.le_refl 1) nonneg
    · have fits := room.opens exceeds _ (chunker.repeatedOf_suffix _) none kept
      have joined := length_joinSpace_concat none sentence
      refine ⟨fun _ => ?_, kept⟩
      show ((joinSpace (chunker.repeatedOf packing.current ++ [sentence])).length : Int) ≤ _
      omega

/-- A chunk that grows stays bounded exactly when there is room for its sentence. -/
theorem bounded_add_iff (nonneg : 0 ≤ chunker.overlap) {packing : Packing}
    {run : OverlapRun String} (current : packing.current = run.whole)
    (bounded : chunker.Bounded run) {sentence : String}
    (stays : packing.current = [] ∨ packing.currentLen + sentence.length ≤ chunker.chunkSize) :
    chunker.Bounded (run.add sentence) ↔ chunker.Room packing sentence := by
  by_cases first : packing.current = []
  · have next : chunker.Bounded (run.add sentence) := by
      rw [eq_empty (current.symm.trans first)]
      exact bounded_of_length_le_one (Nat.le_refl 1) nonneg
    refine iff_of_true next ⟨fun some => absurd first some, ?_, ?_⟩
    · intro _ trailing ends some
      rw [first] at ends
      exact absurd (List.suffix_nil.mp ends) some
    · intro _ trailing ends many
      rw [first] at ends
      rw [List.suffix_nil.mp ends] at many
      cases many
  · have fits := stays.resolve_left first
    have joined := length_joinSpace_concat first sentence
    rw [current] at joined
    have two : 2 ≤ (run.add sentence).whole.length := by
      have pos := List.length_pos_iff.mpr first
      rw [whole_add, List.length_append, List.length_singleton, ← current]
      omega
    constructor
    · intro next
      have size := next.size two
      rw [whole_add] at size
      refine ⟨fun _ _ => ?_, fun exceeds => ?_, fun exceeds => ?_⟩
      · rw [current]
        omega
      · exact absurd exceeds (not_lt.mpr fits)
      · exact absurd exceeds (not_lt.mpr fits)
    · intro room
      have size := room.joins first fits
      rw [current] at size
      refine ⟨fun _ => ?_, bounded.overlap⟩
      rw [whole_add]
      omega

/-- Behind bounded sentences a run is bounded exactly when there is room for its last one. -/
theorem bounded_packNext_iff (nonneg : 0 ≤ chunker.overlap) {packing : Packing}
    {packed : Packed String} (represents : Represents packing packed)
    (bounded : chunker.Bounded packed.current) (sentence : String) :
    chunker.Bounded (packNext chunker.overfills chunker.repeatedOf packed sentence).current ↔
      chunker.Room packing sentence := by
  unfold packNext
  rw [← represents.current]
  split
  case isTrue opens =>
    have exceeds := of_decide_eq_true opens.1
    rw [← represents.currentLen] at exceeds
    exact bounded_open_iff nonneg exceeds
  case isFalse stays =>
    refine bounded_add_iff nonneg represents.current bounded ?_
    by_contra both
    rw [not_or, not_le, represents.currentLen] at both
    exact stays ⟨decide_eq_true both.2, both.1⟩

/-- The sentences are packed within the bounds exactly when there is room for each. -/
theorem forall_bounded_iff (nonneg : 0 ≤ chunker.overlap) (sentences : List String) :
    (∀ run ∈ (OverlapRun.pack chunker.overfills chunker.repeatedOf sentences).runs,
      chunker.Bounded run) ↔
      ∀ before sentence, before ++ [sentence] <+: sentences →
        chunker.Room (before.foldl chunker.pack {}) sentence := by
  have start : chunker.Bounded empty := bounded_of_length_le_one (Nat.zero_le 1) nonneg
  rw [forall_runs_iff bounded_of_add start]
  have step (before : List String) (sentence : String)
      (bounded : chunker.Bounded
        (OverlapRun.pack chunker.overfills chunker.repeatedOf before).current) :=
    bounded_packNext_iff nonneg (chunker.represents_foldl before) bounded sentence
  constructor
  · intro each before sentence isPrefix
    refine (step before sentence ?_).mp (each before sentence isPrefix)
    rcases List.eq_nil_or_concat before with rfl | ⟨earlier, last, rfl⟩
    · exact start
    · rw [List.concat_eq_append] at isPrefix ⊢
      rw [pack_concat]
      exact each earlier last ((List.prefix_append _ _).trans isPrefix)
  · intro room before
    induction before using List.reverseRecOn with
    | nil => exact fun sentence isPrefix => (step [] sentence start).mpr (room [] sentence isPrefix)
    | append_singleton earlier last ih =>
      intro sentence isPrefix
      refine (step _ sentence ?_).mpr (room _ sentence isPrefix)
      rw [pack_concat]
      exact ih last ((List.prefix_append _ _).trans isPrefix)

section Chunk

variable {E : Type} {sha256 : String → String} {text documentId tenantId : String}
  {metadata : Dict} {chunks : List (DocumentChunk E)}

/-- The chunks of a text are the joined runs, and the runs keep to the bounds exactly when there
is room for every sentence behind those before it. -/
theorem chunk_bounded_iff (nonneg : 0 ≤ chunker.overlap)
    (chunked : chunker.chunk sha256 text documentId tenantId metadata = .ok chunks) :
    chunks.map DocumentChunk.content = (chunker.runs text).map (fun run => joinSpace run.whole) ∧
      ((∀ run ∈ chunker.runs text, chunker.Bounded run) ↔
        ∀ before sentence, before ++ [sentence] <+: sentencesOf text →
          chunker.Room (before.foldl chunker.pack {}) sentence) := by
  refine ⟨(chunk_spec chunked).1, ?_⟩
  unfold runs
  split
  case isTrue blank =>
    refine iff_of_true (List.forall_mem_nil _) fun before sentence isPrefix => ?_
    rw [blank] at isPrefix
    have longer := isPrefix.length_le
    rw [List.length_append] at longer
    cases longer
  case isFalse some => exact forall_bounded_iff nonneg (sentencesOf text)

/-- In a document of three sentences there is room for each, and its two chunks keep to the
bounds. -/
theorem chunk_bounded_six : ∃ chunks : List (DocumentChunk Nat),
    smallChunker.chunk sampleSha256 "One. Two. Six." "doc" "tn_a" [] = .ok chunks ∧
      chunks.map DocumentChunk.content =
        (smallChunker.runs "One. Two. Six.").map (fun run => joinSpace run.whole) ∧
      ((∀ run ∈ smallChunker.runs "One. Two. Six.", smallChunker.Bounded run) ↔
        ∀ before sentence, before ++ [sentence] <+: sentencesOf "One. Two. Six." →
          smallChunker.Room (before.foldl smallChunker.pack {}) sentence) :=
  ⟨_, chunked_six, chunk_bounded_iff (by decide) chunked_six⟩

/-- The runs of a text whose second chunk repeats two sentences. -/
theorem runs_five : smallChunker.runs "One. A. B. Five." =
    [⟨[], ["One.", "A.", "B."]⟩, ⟨["A.", "B."], ["Five."]⟩] := by
  decide +kernel

/-- A chunk of three sentences exceeds the chunk size, and its repeated text the overlap. -/
theorem bounds_exceeded : ¬ ∀ chunker : DocumentChunker, 0 ≤ chunker.overlap → ∀ text : String,
    ∀ run ∈ chunker.runs text, chunker.Bounded run := by
  intro bounded
  have second := bounded smallChunker (by decide) "One. A. B. Five." ⟨["A.", "B."], ["Five."]⟩
    (by rw [runs_five]; exact List.mem_cons_of_mem _ List.mem_cons_self)
  exact absurd second.size (by decide +kernel)

end Chunk

end VelaFlow.Rag.DocumentChunker
