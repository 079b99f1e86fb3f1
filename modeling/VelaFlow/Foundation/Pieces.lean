import Mathlib.Data.List.Infix

/-!
# Pieces of a text

A text is cut at the blanks that stand behind a mark. What has no blank behind a mark inside it,
and begins with no blank, lies in the text only where it lies in one of the pieces.
-/
namespace VelaFlow

variable {α : Type} {isMark isBlank : α → Bool}

/-- A text is pieces with blanks between them; each piece but the last ends with a mark. -/
inductive Spaced (isMark isBlank : α → Bool) : List (List α) → List α → Prop
  /-- One piece is the text. -/
  | last (piece : List α) : Spaced isMark isBlank [piece] piece
  /-- A piece that ends with a mark, and the pieces behind some blanks. -/
  | more {piece gap text : List α} {mark blank : α} {pieces : List (List α)}
      (marked : isMark mark = true) (blanks : ∀ other ∈ blank :: gap, isBlank other = true)
      (rest : Spaced isMark isBlank pieces text) :
      Spaced isMark isBlank ((piece ++ [mark]) :: pieces)
        (piece ++ [mark] ++ (blank :: gap ++ text))

/-- What no cut divides: it begins with no blank and has no blank behind a mark. -/
structure Unbroken (isMark isBlank : α → Bool) (text : List α) : Prop where
  /-- No blank is first. -/
  opens : ∀ first ∈ text.head?, isBlank first = false
  /-- No blank is behind a mark. -/
  joined : ∀ before mark next after, text = before ++ mark :: next :: after →
    isMark mark = true → isBlank next = false

/-- A piece lies in its text. -/
theorem Spaced.infix_of_mem {pieces : List (List α)} {text piece : List α}
    (spaced : Spaced isMark isBlank pieces text) (member : piece ∈ pieces) : piece <:+: text := by
  induction spaced with
  | last whole =>
    obtain rfl := List.mem_singleton.mp member
    exact List.infix_rfl
  | more marked blanks rest ih =>
    rcases List.mem_cons.mp member with rfl | later
    · exact (List.prefix_append _ _).isInfix
    · exact ((ih later).trans (List.suffix_append _ _).isInfix).trans
        (List.suffix_append _ _).isInfix

/-- Each piece but the last ends with a mark. -/
def EndMarked (isMark : α → Bool) (pieces : List (List α)) : Prop :=
  ∀ before piece after, pieces = before ++ piece :: after → after ≠ [] →
    ∃ start mark, piece = start ++ [mark] ∧ isMark mark = true

/-- The pieces of a text end with marks. -/
theorem Spaced.endMarked {pieces : List (List α)} {text : List α}
    (spaced : Spaced isMark isBlank pieces text) : EndMarked isMark pieces := by
  induction spaced with
  | last whole =>
    intro before piece after is some
    cases before with
    | nil => exact absurd (List.cons.inj is).2.symm some
    | cons first rest =>
      have longer := List.append_ne_nil_of_right_ne_nil rest (List.cons_ne_nil piece after)
      exact absurd (List.cons.inj is).2.symm longer
  | @more piece gap text mark blank pieces marked blanks rest ih =>
    intro before other after is some
    cases before with
    | nil => exact ⟨piece, mark, (List.cons.inj is).1.symm, marked⟩
    | cons first more => exact ih more other after (List.cons.inj is).2 some

/-- Neighbours among pieces that end with marks do so. -/
theorem EndMarked.of_infix {pieces run : List (List α)} (marked : EndMarked isMark pieces)
    (inside : run <:+: pieces) : EndMarked isMark run := by
  obtain ⟨left, right, rfl⟩ := inside
  intro before piece after is some
  refine marked (left ++ before) piece (after ++ right) ?_ (List.append_ne_nil_of_left_ne_nil some _)
  rw [is, List.append_assoc, List.append_assoc, List.append_assoc]
  rfl

/-- Pieces that end with marks are the pieces of what a blank joins them to. -/
theorem EndMarked.spaced_intercalate {pieces : List (List α)} (marked : EndMarked isMark pieces)
    (some : pieces ≠ []) {blank : α} (isBlank_blank : isBlank blank = true) :
    Spaced isMark isBlank pieces ([blank].intercalate pieces) := by
  induction pieces with
  | nil => exact absurd rfl some
  | cons piece rest ih =>
    cases rest with
    | nil =>
      rw [List.intercalate_singleton]
      exact Spaced.last piece
    | cons second others =>
      obtain ⟨start, mark, rfl, ends⟩ := marked [] piece (second :: others) rfl
        (List.cons_ne_nil second others)
      have later := ih (marked.of_infix (List.suffix_cons _ _).isInfix)
        (List.cons_ne_nil second others)
      rw [List.intercalate_cons_cons, List.append_assoc]
      exact Spaced.more ends (List.forall_mem_singleton.mpr isBlank_blank) later

/-- What no cut divides does not begin in the blanks. -/
theorem Unbroken.eq_nil_of_suffix_blanks {text gap part other : List α}
    (unbroken : Unbroken isMark isBlank text) (is : text = part ++ other) (ends : part <:+ gap)
    (blanks : ∀ blank ∈ gap, isBlank blank = true) : part = [] := by
  cases part with
  | nil => rfl
  | cons first rest =>
    have solid := unbroken.opens first (by rw [is]; rfl)
    have blank := blanks first (ends.subset List.mem_cons_self)
    rw [solid] at blank
    cases blank

/-- What no cut divides lies in one of the pieces. -/
theorem Unbroken.infix_piece {pieces : List (List α)} {text sentence : List α}
    (unbroken : Unbroken isMark isBlank sentence) (some : sentence ≠ [])
    (spaced : Spaced isMark isBlank pieces text) (inside : sentence <:+: text) :
    ∃ piece ∈ pieces, sentence <:+: piece := by
  induction spaced with
  | last whole => exact ⟨whole, List.mem_cons_self, inside⟩
  | @more piece gap text mark blank pieces marked blanks rest ih =>
    have behind : sentence <:+: blank :: gap ++ text → sentence <:+: text := by
      intro later
      rcases List.infix_append_iff.mp later with inGap | inText | ⟨left, right, is, ends, starts⟩
      · obtain ⟨before, after, parts⟩ := inGap
        have inBlanks : ∀ other ∈ sentence, isBlank other = true := by
          intro other member
          refine blanks other ?_
          rw [← parts]
          exact List.mem_append_left _ (List.mem_append_right _ member)
        exact absurd (unbroken.eq_nil_of_suffix_blanks (List.append_nil sentence).symm
          List.suffix_rfl inBlanks) some
      · exact inText
      · have nothing := unbroken.eq_nil_of_suffix_blanks is ends blanks
        rw [is, nothing]
        exact starts.isInfix
    rcases List.infix_append_iff_ne_nil.mp inside with
      first | later | ⟨left, right, someLeft, someRight, is, ends, starts⟩
    · exact ⟨_, List.mem_cons_self, first⟩
    · obtain ⟨found, member, within⟩ := ih (behind later)
      exact ⟨found, List.mem_cons_of_mem _ member, within⟩
    · -- The part in the piece ends with the mark, and the part behind it begins with a blank.
      obtain ⟨before, last, rfl⟩ := (List.eq_nil_or_concat left).resolve_left someLeft
      obtain ⟨next, after, rfl⟩ := List.exists_cons_of_ne_nil someRight
      have isLast : last = mark := by
        obtain ⟨start, whole⟩ := ends
        rw [List.concat_eq_append, ← List.append_assoc] at whole
        exact List.singleton_inj.mp (List.append_inj' whole rfl).2
      have isNext : next = blank := by
        obtain ⟨final, whole⟩ := starts
        exact (List.cons.inj whole).1
      have solid := unbroken.joined before last next after
        (by rw [is, List.concat_eq_append, List.append_assoc]; rfl) (isLast ▸ marked)
      rw [isNext, blanks blank List.mem_cons_self] at solid
      cases solid

end VelaFlow
