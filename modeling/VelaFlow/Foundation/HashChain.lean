import Mathlib.Data.List.Forall2
import Mathlib.Data.List.Infix

/-!
# Hash chains

A chain is a list of entries each of which names the stamp of the one before it. Here an entry is
anything with a link and a stamp. When stamps bind links and never come back to the start of the
chain, the lists of entries of a chain that are chained themselves are its prefixes.
-/
namespace VelaFlow.HashChain

variable {E H : Type*} (link stamp : E → H)

/-- Each entry names the stamp of the one before it, the first the anchor. -/
def Linked : H → List E → Prop
  | _, [] => True
  | anchor, entry :: rest => link entry = anchor ∧ Linked (stamp entry) rest

/-- The stamp the next entry has to name. -/
def tip : H → List E → H
  | anchor, [] => anchor
  | _, entry :: rest => tip (stamp entry) rest

variable {link stamp}

/-- The tip of a chain is that of its second part on the tip of its first. -/
theorem tip_append (anchor : H) (first second : List E) :
    tip stamp anchor (first ++ second) = tip stamp (tip stamp anchor first) second := by
  induction first generalizing anchor with
  | nil => rfl
  | cons entry rest ih => exact ih (stamp entry)

/-- After an entry its stamp is the tip. -/
@[simp] theorem tip_concat (anchor : H) (entries : List E) (entry : E) :
    tip stamp anchor (entries ++ [entry]) = stamp entry := by
  rw [tip_append]
  rfl

/-- The tip of a chain is its anchor, or the stamp of an entry. -/
theorem tip_mem (anchor : H) (entries : List E) :
    tip stamp anchor entries = anchor ∧ entries = [] ∨
      ∃ entry ∈ entries, tip stamp anchor entries = stamp entry := by
  induction entries using List.reverseRecOn with
  | nil => exact Or.inl ⟨rfl, rfl⟩
  | append_singleton entries entry _ =>
    exact Or.inr ⟨entry, by simp, tip_concat anchor entries entry⟩

/-- Two parts are a chain when the second goes on from the tip of the first. -/
theorem linked_append {anchor : H} {first second : List E} :
    Linked link stamp anchor (first ++ second) ↔
      Linked link stamp anchor first ∧ Linked link stamp (tip stamp anchor first) second := by
  induction first generalizing anchor with
  | nil => simp [Linked, tip]
  | cons entry rest ih =>
    simp only [List.cons_append, Linked, ih, tip]
    exact and_assoc.symm

/-- One more entry goes on with a chain when it names its tip. -/
theorem linked_concat {anchor : H} {entries : List E} {entry : E} :
    Linked link stamp anchor (entries ++ [entry]) ↔
      Linked link stamp anchor entries ∧ link entry = tip stamp anchor entries := by
  rw [linked_append]
  simp [Linked]

/-- An entry of a chain names its anchor or the stamp of an entry. -/
theorem link_mem {anchor : H} {entries : List E} (linked : Linked link stamp anchor entries)
    {entry : E} (inside : entry ∈ entries) :
    link entry = anchor ∨ ∃ other ∈ entries, link entry = stamp other := by
  induction entries generalizing anchor with
  | nil => cases inside
  | cons first rest ih =>
    rcases List.mem_cons.mp inside with rfl | later
    · exact Or.inl linked.1
    · rcases ih linked.2 later with named | ⟨other, within, named⟩
      · exact Or.inr ⟨first, List.mem_cons_self, named⟩
      · exact Or.inr ⟨other, List.mem_cons_of_mem _ within, named⟩

/-- A chain of entries of a chain is one of its prefixes, when no stamp is the anchor and equal
stamps are of entries with equal links. -/
theorem prefix_of_linked {anchor : H} {entries chosen : List E}
    (linked : Linked link stamp anchor entries) (fresh : ∀ entry ∈ entries, stamp entry ≠ anchor)
    (binding : ∀ first ∈ entries, ∀ second ∈ entries, stamp first = stamp second →
      link first = link second)
    (linked' : Linked link stamp anchor chosen) (inside : ∀ entry ∈ chosen, entry ∈ entries) :
    chosen <+: entries := by
  induction entries generalizing anchor chosen with
  | nil =>
    have none : chosen = [] := List.eq_nil_iff_forall_not_mem.mpr fun entry is =>
      absurd (inside entry is) List.not_mem_nil
    rw [none]
  | cons first rest ih =>
    cases chosen with
    | nil => exact List.nil_prefix
    | cons entry more =>
      have later : ∀ other ∈ rest, link other ≠ anchor := by
        intro other within
        rcases link_mem linked.2 within with named | ⟨third, among, named⟩
        · rw [named]
          exact fresh first List.mem_cons_self
        · rw [named]
          exact fresh third (List.mem_cons_of_mem _ among)
      have start : entry = first := by
        rcases List.mem_cons.mp (inside entry List.mem_cons_self) with is | within
        · exact is
        · exact absurd linked'.1 (later entry within)
      subst start
      have rests : ∀ other ∈ more, other ∈ rest := by
        intro other within
        have away : link other ≠ anchor := by
          rcases link_mem linked'.2 within with named | ⟨third, among, named⟩
          · rw [named]
            exact fresh entry List.mem_cons_self
          · rw [named]
            exact fresh third (inside third (List.mem_cons_of_mem _ among))
        rcases List.mem_cons.mp (inside other (List.mem_cons_of_mem _ within)) with is | among
        · exact absurd (is ▸ linked.1) away
        · exact among
      have apart : ∀ other ∈ rest, stamp other ≠ stamp entry := by
        intro other within same
        have named := binding other (List.mem_cons_of_mem _ within) entry List.mem_cons_self same
        exact later other within (named.trans linked.1)
      have tail := ih linked.2 apart
        (fun one inOne two inTwo => binding one (List.mem_cons_of_mem _ inOne) two
          (List.mem_cons_of_mem _ inTwo)) linked'.2 rests
      exact List.cons_prefix_cons.mpr ⟨rfl, tail⟩

/-- A prefix of a chain is a chain. -/
theorem linked_of_prefix {anchor : H} {entries chosen : List E}
    (linked : Linked link stamp anchor entries) (part : chosen <+: entries) :
    Linked link stamp anchor chosen := by
  obtain ⟨rest, rfl⟩ := part
  exact (linked_append.mp linked).1

end VelaFlow.HashChain
