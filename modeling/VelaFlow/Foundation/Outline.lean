import Mathlib.Data.List.Basic

/-!
# Outlines

What hangs below a node, read in document order and down to a level: a node, then what is below its
first child, then what is below its second. A node may be its own descendant; the level ends the
reading. A place in an outline is the path of child positions that leads there.
-/
namespace VelaFlow

variable {ν : Type} (children : ν → List (Option ν))

/-- The node that a path of positions leads to; a position may hold no child. -/
def follow : ν → List Nat → Option ν
  | node, [] => some node
  | node, position :: path =>
    (children node)[position]?.join.bind fun child => follow child path

/-- The places down to a number of levels, in document order, and the nodes there. -/
def outline : Nat → ν → List (List Nat × ν)
  | 0, node => [([], node)]
  | levels + 1, node =>
    ([], node) :: (children node).zipIdx.flatMap fun child =>
      child.1.toList.flatMap fun below =>
        (outline levels below).map fun place => (child.2 :: place.1, place.2)

variable {children}

/-- What is below a position. -/
theorem mem_below {levels position : Nat} {child : Option ν} {place : List Nat × ν} :
    (place ∈ child.toList.flatMap fun below =>
      (outline children levels below).map fun inner => (position :: inner.1, inner.2)) ↔
      ∃ below path, child = some below ∧ (path, place.2) ∈ outline children levels below ∧
        place.1 = position :: path := by
  constructor
  · intro member
    have ⟨below, held, inside⟩ := List.mem_flatMap.mp member
    have ⟨inner, listed, is⟩ := List.mem_map.mp inside
    rw [← is]
    exact ⟨below, inner.1, Option.mem_toList.mp held, listed, rfl⟩
  · intro ⟨below, path, held, listed, is⟩
    refine List.mem_flatMap.mpr ⟨below, Option.mem_toList.mpr held, ?_⟩
    exact List.mem_map.mpr ⟨(path, place.2), listed, Prod.ext is.symm rfl⟩

/-- An outline holds the places that its levels reach, and no others. -/
theorem mem_outline {levels : Nat} {node target : ν} {path : List Nat} :
    (path, target) ∈ outline children levels node ↔
      path.length ≤ levels ∧ follow children node path = some target := by
  induction levels generalizing node path with
  | zero =>
    rw [outline, List.mem_singleton, Prod.mk.injEq, Nat.le_zero, List.length_eq_zero_iff]
    constructor
    · intro ⟨here, is⟩
      rw [here, is]
      exact ⟨rfl, rfl⟩
    · intro ⟨here, is⟩
      rw [here] at is
      exact ⟨here, (Option.some.inj is).symm⟩
  | succ levels ih =>
    rw [outline, List.mem_cons, List.mem_flatMap, Prod.mk.injEq]
    cases path with
    | nil =>
      constructor
      · intro found
        cases found with
        | inl here => exact ⟨Nat.zero_le _, congrArg some here.2.symm⟩
        | inr inside =>
          have ⟨_, _, member⟩ := inside
          have ⟨_, _, _, _, is⟩ := mem_below.mp member
          exact absurd is (List.cons_ne_nil _ _).symm
      · intro ⟨_, is⟩
        exact .inl ⟨rfl, (Option.some.inj is).symm⟩
    | cons position rest =>
      rw [follow, List.length_cons, Nat.add_le_add_iff_right]
      constructor
      · intro found
        cases found with
        | inl here => exact absurd here.1 (List.cons_ne_nil _ _)
        | inr inside =>
          have ⟨child, placed, member⟩ := inside
          have ⟨below, path, held, listed, is⟩ := mem_below.mp member
          have ⟨same, more⟩ := List.cons.inj is
          have found := List.mem_zipIdx_iff_getElem?.mp placed
          have ⟨within, leads⟩ := ih.mp listed
          rw [same, more, found, held]
          exact ⟨within, leads⟩
      · intro ⟨within, leads⟩
        have ⟨below, joined, further⟩ := Option.bind_eq_some_iff.mp leads
        have held := Option.join_eq_some_iff.mp joined
        refine .inr ⟨(some below, position), List.mem_zipIdx_iff_getElem?.mpr held, ?_⟩
        exact mem_below.mpr ⟨below, rest, rfl, ih.mpr ⟨within, further⟩, rfl⟩

/-- An outline is in document order: no place is listed twice, and a place stands before what is
below it and before what is below a later sibling. -/
theorem outline_sorted (levels : Nat) (node : ν) :
    (outline children levels node).Pairwise fun one other => one.1 < other.1 := by
  induction levels generalizing node with
  | zero => exact List.pairwise_singleton _ _
  | succ levels ih =>
    rw [outline, List.pairwise_cons]
    constructor
    · intro place member
      have ⟨_, _, inside⟩ := List.mem_flatMap.mp member
      have ⟨_, _, _, _, is⟩ := mem_below.mp inside
      rw [is]
      exact List.nil_lt_cons _ _
    · rw [List.pairwise_flatMap]
      constructor
      · intro child _
        cases child with
        | mk held position =>
          cases held with
          | none => exact List.Pairwise.nil
          | some below =>
            rw [Option.toList_some, List.flatMap_singleton, List.pairwise_map]
            exact (ih below).imp fun before => List.cons_lt_cons_self.mpr before
      · have ordered : (children node).zipIdx.Pairwise fun one other => one.2 < other.2 := by
          rw [← List.pairwise_map (f := Prod.snd), List.zipIdx_map_snd]
          exact List.pairwise_lt_range'
        refine ordered.imp fun {one other} before first inFirst second inSecond => ?_
        have ⟨_, _, _, _, isFirst⟩ := mem_below.mp inFirst
        have ⟨_, _, _, _, isSecond⟩ := mem_below.mp inSecond
        rw [isFirst, isSecond]
        exact List.Lex.rel before

/-- What is written place by place is what is written of a node, then what is written of its
children, one level down. -/
theorem flatMap_outline {β : Type} (levels : Nat) (node : ν) (write : Nat → ν → List β) :
    ((outline children (levels + 1) node).flatMap fun place => write place.1.length place.2) =
      write 0 node ++ (children node).flatMap fun child => child.toList.flatMap fun below =>
        (outline children levels below).flatMap fun place =>
          write (place.1.length + 1) place.2 := by
  rw [outline, List.flatMap_cons, List.flatMap_assoc]
  apply congrArg (write 0 node ++ ·)
  have shifted : ∀ child : Option ν × Nat,
      ((child.1.toList.flatMap fun below => (outline children levels below).map fun place =>
        (child.2 :: place.1, place.2)).flatMap fun place => write place.1.length place.2) =
      child.1.toList.flatMap fun below => (outline children levels below).flatMap fun place =>
        write (place.1.length + 1) place.2 := by
    intro child
    rw [List.flatMap_assoc]
    simp only [List.flatMap_map, List.length_cons]
  simp only [shifted]
  conv_rhs => rw [← List.zipIdx_map_fst 0 (children node), List.flatMap_map]

/-- The places that its levels reach and document order determine an outline. -/
theorem eq_outline {levels : Nat} {node : ν} {places : List (List Nat × ν)}
    (sorted : places.Pairwise fun one other => one.1 < other.1)
    (reached : ∀ path target, (path, target) ∈ places ↔
      path.length ≤ levels ∧ follow children node path = some target) :
    places = outline children levels node := by
  have nodup : ∀ {listed : List (List Nat × ν)},
      listed.Pairwise (fun one other => one.1 < other.1) → listed.Nodup := by
    intro listed ordered
    refine List.Pairwise.imp (fun {one other} before same => ?_) ordered
    rw [same] at before
    exact List.lt_irrefl _ before
  have same : places.Perm (outline children levels node) :=
    (List.perm_ext_iff_of_nodup (nodup sorted) (nodup (outline_sorted levels node))).mpr
      fun place => (reached place.1 place.2).trans mem_outline.symm
  refine same.eq_of_pairwise (fun one other _ _ before behind => ?_) sorted
    (outline_sorted levels node)
  exact absurd (List.lt_trans before behind) (List.lt_irrefl _)

end VelaFlow
