import Mathlib.Data.List.TakeWhile
import VelaFlow.Foundation.Pieces
import VelaFlow.Rag.ChunkRuns

/-!
# Sentences in their text

The splitter cuts a text at the white space behind a full stop, an exclamation mark or a question
mark, and a chunk joins its sentences by blanks. So a sentence lies in a chunk of a text exactly
when it lies in the text.
-/
namespace VelaFlow.Rag

/-- The characters that end a sentence. -/
def isMark (character : Char) : Bool :=
  character == '.' || character == '!' || character == '?'

/-- A sentence ends with its last character. -/
theorem endsSentence_cons (last : Char) (earlier : List Char) :
    endsSentence (last :: earlier) = isMark last := by
  unfold endsSentence isMark
  split
  case h_1 is => rw [(List.cons.inj is).1]; rfl
  case h_2 is => rw [(List.cons.inj is).1]; rfl
  case h_3 is => rw [(List.cons.inj is).1]; rfl
  case h_4 full exclaims asks =>
    have notFull : last ≠ '.' := fun is => full earlier (by rw [is])
    have notExclaims : last ≠ '!' := fun is => exclaims earlier (by rw [is])
    have notAsks : last ≠ '?' := fun is => asks earlier (by rw [is])
    simp [notFull, notExclaims, notAsks]

/-- What no cut of the splitter divides. -/
abbrev Whole (text : List Char) : Prop := Unbroken isMark isSpace text

/-- The splitter cuts a text into pieces. -/
theorem spaced_splitSentencesFrom (text : List Char) :
    (∀ read, Spaced isMark isSpace (splitSentencesFrom text read false) (read.reverse ++ text)) ∧
      Spaced isMark isSpace (splitSentencesFrom text [] true) (text.dropWhile isSpace) := by
  induction text with
  | nil =>
    refine ⟨fun read => ?_, Spaced.last []⟩
    rw [List.append_nil]
    exact Spaced.last read.reverse
  | cons character rest ih =>
    have reads (read : List Char) : Spaced isMark isSpace
        (splitSentencesFrom rest (character :: read) false) (read.reverse ++ character :: rest) := by
      have later := ih.1 (character :: read)
      rw [List.reverse_cons, List.append_assoc] at later
      exact later
    by_cases space : isSpace character = true
    · constructor
      · intro read
        unfold splitSentencesFrom
        rw [if_pos space, if_neg Bool.false_ne_true]
        split
        case isFalse goesOn => exact reads read
        case isTrue ends =>
          obtain ⟨mark, earlier, rfl⟩ : ∃ mark earlier, read = mark :: earlier := by
            cases read with
            | nil => cases ends
            | cons mark earlier => exact ⟨mark, earlier, rfl⟩
          rw [endsSentence_cons] at ends
          have blanks : ∀ other ∈ character :: rest.takeWhile isSpace, isSpace other = true :=
            List.forall_mem_cons.mpr ⟨space, fun other member => List.mem_takeWhile_imp member⟩
          have spaced := @Spaced.more _ isMark isSpace earlier.reverse _ _ mark character _ ends
            blanks ih.2
          rw [List.cons_append, List.takeWhile_append_dropWhile] at spaced
          rw [List.reverse_cons]
          exact spaced
      · unfold splitSentencesFrom
        rw [if_pos space, if_pos rfl, List.dropWhile_cons_of_pos space]
        exact ih.2
    · constructor
      · intro read
        unfold splitSentencesFrom
        rw [if_neg space]
        exact reads read
      · unfold splitSentencesFrom
        rw [if_neg space, List.dropWhile_cons_of_neg space]
        exact ih.1 [character]

/-- A piece that is read on stays whole. -/
theorem whole_concat {read : List Char} {character : Char} (whole : Whole read.reverse)
    (opens : read = [] → isSpace character = false)
    (solid : endsSentence read = true → isSpace character = false) :
    Whole (character :: read).reverse where
  opens := by
    intro first isFirst
    rw [List.reverse_cons] at isFirst
    cases earlier : read.reverse with
    | nil =>
      rw [earlier] at isFirst
      obtain rfl := Option.some.inj isFirst
      exact opens (List.reverse_eq_nil_iff.mp earlier)
    | cons start more =>
      rw [earlier] at isFirst
      rw [earlier] at whole
      exact whole.opens first isFirst
  joined := by
    intro before mark next after is marked
    rw [List.reverse_cons] at is
    rcases List.eq_nil_or_concat after with rfl | ⟨middle, last, rfl⟩
    · have parts : read.reverse ++ [character] = (before ++ [mark]) ++ [next] := by
        rw [is, List.append_assoc]
        rfl
      obtain ⟨isRead, isNext⟩ := List.append_inj' parts rfl
      have reversed : read = mark :: before.reverse := by
        rw [← List.reverse_reverse read, isRead, List.reverse_append]
        rfl
      rw [← List.singleton_inj.mp isNext]
      apply solid
      rw [reversed, endsSentence_cons]
      exact marked
    · have parts : read.reverse ++ [character] = (before ++ mark :: next :: middle) ++ [last] := by
        rw [is, List.concat_eq_append, List.append_assoc]
        rfl
      exact whole.joined before mark next middle (List.append_inj' parts rfl).1 marked

/-- Every piece is whole. -/
theorem whole_of_mem_splitSentencesFrom (text : List Char) : ∀ read skipping,
    Whole read.reverse → (skipping = true → read = []) →
    (read = [] → skipping = true ∨ ∀ first ∈ text.head?, isSpace first = false) →
    ∀ piece ∈ splitSentencesFrom text read skipping, Whole piece := by
  have nothing : Whole ([] : List Char).reverse :=
    ⟨fun first none => (by cases none), fun before mark next after none =>
      absurd none.symm (List.append_ne_nil_of_right_ne_nil before (List.cons_ne_nil _ _))⟩
  induction text with
  | nil =>
    intro read skipping whole _ _ piece member
    rw [List.mem_singleton.mp member]
    exact whole
  | cons character rest ih =>
    intro read skipping whole skips starts piece member
    unfold splitSentencesFrom at member
    split at member
    case isTrue space =>
      split at member
      case isTrue skipped =>
        obtain rfl := skips skipped
        exact ih [] true nothing (fun _ => rfl) (fun _ => Or.inl rfl) piece member
      case isFalse reading =>
        split at member
        case isTrue ends =>
          rcases List.mem_cons.mp member with rfl | later
          · exact whole
          · exact ih [] true nothing (fun _ => rfl) (fun _ => Or.inl rfl) piece later
        case isFalse goesOn =>
          have some : read = [] → isSpace character = false :=
            fun none => ((starts none).resolve_left reading) character rfl
          exact ih _ false (whole_concat whole some fun ends => absurd ends goesOn)
            (fun no => by cases no) (fun no => by cases no) piece member
    case isFalse solid =>
      have notSpace := Bool.eq_false_iff.mpr solid
      exact ih _ false (whole_concat whole (fun _ => notSpace) fun _ => notSpace)
        (fun no => by cases no) (fun no => by cases no) piece member

/-- The sentences of a text are pieces of it. -/
theorem spaced_sentencesOf {text : String} (visible : strip text.toList ≠ []) :
    Spaced isMark isSpace ((sentencesOf text).map String.toList) (strip text.toList) := by
  have spaced := (spaced_splitSentencesFrom (strip text.toList)).1 []
  unfold sentencesOf splitSentences
  rw [if_neg visible, List.map_map]
  have same : String.toList ∘ String.ofList = id := funext fun _ => String.toList_ofList
  rw [same, List.map_id]
  exact spaced

/-- What is stripped begins with no white space. -/
theorem opens_strip (text : List Char) : ∀ first ∈ (strip text).head?, isSpace first = false := by
  intro first isFirst
  have starts : strip text <+: text.dropWhile isSpace := by
    unfold strip
    rw [← List.reverse_suffix, List.reverse_reverse]
    exact List.dropWhile_suffix isSpace
  have start : first ∈ (text.dropWhile isSpace).head? := by
    obtain ⟨rest, whole⟩ := starts
    rw [← whole, List.head?_append, isFirst]
    rfl
  have solid := List.head?_dropWhile_not isSpace text
  rw [start] at solid
  exact solid

/-- Every sentence is whole. -/
theorem whole_of_mem_sentencesOf {text sentence : String} (member : sentence ∈ sentencesOf text) :
    Whole sentence.toList := by
  unfold sentencesOf splitSentences at member
  split at member
  · cases member
  · obtain ⟨piece, inside, rfl⟩ := List.mem_map.mp member
    rw [String.toList_ofList]
    refine whole_of_mem_splitSentencesFrom _ [] false ?_ (fun no => by cases no)
      (fun _ => Or.inr (opens_strip text.toList)) piece inside
    exact ⟨fun first none => (by cases none), fun before mark next after none =>
      absurd none.symm (List.append_ne_nil_of_right_ne_nil before (List.cons_ne_nil _ _))⟩

namespace DocumentChunker

variable {E : Type} {chunker : DocumentChunker} {sha256 : String → String}
  {text documentId tenantId : String} {metadata : Dict} {chunks : List (DocumentChunk E)}

/-- A run of sentences is made of the pieces of what it is joined to. -/
theorem spaced_joinSpace {text : String} (visible : strip text.toList ≠ [])
    {run : OverlapRun String} (member : run ∈ chunker.runs text) :
    Spaced isMark isSpace (run.whole.map String.toList) (joinSpace run.whole).toList := by
  have covers := chunker.covers_runs text
  have marked := (spaced_sentencesOf visible).endMarked.of_infix
    ((covers.infix_of_mem member).map String.toList)
  have some : run.whole.map String.toList ≠ [] := fun none =>
    List.append_ne_nil_of_right_ne_nil _ (covers.added_ne_nil member) (List.map_eq_nil_iff.mp none)
  unfold joinSpace
  rw [String.toList_intercalate]
  exact marked.spaced_intercalate some rfl

/-- What no cut divides lies in a chunk of a text exactly when it lies in the text. -/
theorem infix_chunk_iff (visible : strip text.toList ≠ [])
    (chunked : chunker.chunk sha256 text documentId tenantId metadata = .ok chunks)
    {part : List Char} (whole : Whole part) :
    (∃ chunk ∈ chunks, part <:+: chunk.content.toList) ↔ part <:+: strip text.toList := by
  have contents := (chunk_spec chunked).1
  have covers := chunker.covers_runs text
  have spaced := spaced_sentencesOf visible
  have ofRun : (∃ chunk ∈ chunks, part <:+: chunk.content.toList) ↔
      ∃ run ∈ chunker.runs text, part <:+: (joinSpace run.whole).toList := by
    have asContents : (∃ content ∈ chunks.map DocumentChunk.content, part <:+: content.toList) ↔
        ∃ chunk ∈ chunks, part <:+: chunk.content.toList := by simp
    rw [← asContents, contents]
    simp
  rw [ofRun]
  constructor
  · rintro ⟨run, member, inside⟩
    by_cases none : part = []
    · rw [none]
      exact List.nil_infix
    · obtain ⟨piece, inRun, within⟩ := whole.infix_piece none (spaced_joinSpace visible member) inside
      have inText := ((covers.infix_of_mem member).map String.toList).subset inRun
      exact within.trans (spaced.infix_of_mem inText)
  · intro inside
    have found : ∃ piece ∈ (sentencesOf text).map String.toList, part <:+: piece := by
      by_cases none : part = []
      · obtain ⟨first, rest, is⟩ := List.exists_cons_of_ne_nil (sentencesOf_ne_nil visible)
        rw [none, is]
        exact ⟨first.toList, List.mem_cons_self, List.nil_infix⟩
      · exact whole.infix_piece none spaced inside
    obtain ⟨_, member, within⟩ := found
    obtain ⟨sentence, inText, rfl⟩ := List.mem_map.mp member
    rw [← covers.once] at inText
    obtain ⟨run, inRuns, added⟩ := List.mem_flatMap.mp inText
    have inRun : sentence.toList ∈ run.whole.map String.toList :=
      List.mem_map_of_mem (List.mem_append_right _ added)
    exact ⟨run, inRuns, within.trans ((spaced_joinSpace visible inRuns).infix_of_mem inRun)⟩

end DocumentChunker

end VelaFlow.Rag
