import Mathlib.Data.Finset.Card
import Mathlib.Data.List.Dedup

/-!
# The first element of each key

What a loop keeps of a list when it skips each element whose key it has seen: one element for each
key, the first. The keys seen before the loop are part of its state.
-/
namespace VelaFlow

variable {α κ : Type} [DecidableEq κ]

/-- The first element of each key that is not among the seen ones. -/
def firstBy (key : α → κ) : List α → List κ → List α
  | [], _ => []
  | item :: rest, seen =>
    if key item ∈ seen then firstBy key rest seen
    else item :: firstBy key rest (key item :: seen)

/-- An element of a seen key is skipped. -/
theorem firstBy_cons_of_mem (key : α → κ) {item : α} {seen : List κ} (old : key item ∈ seen)
    (rest : List α) : firstBy key (item :: rest) seen = firstBy key rest seen := by
  rw [firstBy, if_pos old]

/-- An element of a new key is kept. -/
theorem firstBy_cons_of_not_mem (key : α → κ) {item : α} {seen : List κ} (new : key item ∉ seen)
    (rest : List α) :
    firstBy key (item :: rest) seen = item :: firstBy key rest (key item :: seen) := by
  rw [firstBy, if_neg new]

/-- The keys that are kept are the new ones. -/
theorem mem_map_firstBy (key : α → κ) (items : List α) (seen : List κ) (one : κ) :
    one ∈ (firstBy key items seen).map key ↔ one ∈ items.map key ∧ one ∉ seen := by
  induction items generalizing seen with
  | nil => simp [firstBy]
  | cons item rest ih =>
    by_cases old : key item ∈ seen
    · rw [firstBy_cons_of_mem key old, ih, List.map_cons, List.mem_cons]
      constructor
      · exact fun both => ⟨Or.inr both.1, both.2⟩
      · rintro ⟨rfl | inside, new⟩
        · exact absurd old new
        · exact ⟨inside, new⟩
    · rw [firstBy_cons_of_not_mem key old, List.map_cons, List.map_cons, List.mem_cons,
        List.mem_cons, ih, List.mem_cons]
      by_cases same : one = key item
      · subst same
        simp [old]
      · simp [same]

/-- What is kept is of the list. -/
theorem mem_of_mem_firstBy (key : α → κ) {items : List α} {seen : List κ} {item : α}
    (kept : item ∈ firstBy key items seen) : item ∈ items := by
  induction items generalizing seen with
  | nil => exact kept
  | cons first rest ih =>
    by_cases old : key first ∈ seen
    · rw [firstBy_cons_of_mem key old] at kept
      exact List.mem_cons_of_mem _ (ih kept)
    · rw [firstBy_cons_of_not_mem key old] at kept
      cases List.mem_cons.mp kept with
      | inl same =>
        rw [same]
        exact List.mem_cons_self
      | inr later => exact List.mem_cons_of_mem _ (ih later)

/-- The keys that are kept are different. -/
theorem nodup_map_firstBy (key : α → κ) (items : List α) (seen : List κ) :
    ((firstBy key items seen).map key).Nodup := by
  induction items generalizing seen with
  | nil => exact List.nodup_nil
  | cons item rest ih =>
    by_cases old : key item ∈ seen
    · rw [firstBy_cons_of_mem key old]
      exact ih seen
    · rw [firstBy_cons_of_not_mem key old, List.map_cons, List.nodup_cons, mem_map_firstBy]
      exact ⟨fun both => both.2 List.mem_cons_self, ih _⟩

omit [DecidableEq κ] in
/-- Where elements of one key have one value, elements of all keys have all values. -/
theorem mem_map_of_covers {ν : Type} {key : α → κ} {value : α → ν} {items part : List α} {one : ν}
    (inside : ∀ item ∈ part, item ∈ items)
    (covers : ∀ item ∈ items, key item ∈ part.map key)
    (uniform : ∀ item ∈ items, ∀ other ∈ items, key item = key other → value item = value other) :
    one ∈ part.map value ↔ one ∈ items.map value := by
  constructor
  · intro member
    obtain ⟨item, own, is⟩ := List.mem_map.mp member
    exact List.mem_map.mpr ⟨item, inside item own, is⟩
  · intro member
    obtain ⟨item, own, is⟩ := List.mem_map.mp member
    obtain ⟨other, among, level⟩ := List.mem_map.mp (covers item own)
    have same := uniform other (inside other among) item own level
    exact List.mem_map.mpr ⟨other, among, same.trans is⟩

/-- When the elements to keep have each a key of their own among what is skipped, skipping seen keys
and keeping elements can be done in either order. -/
theorem filter_firstBy (key : α → κ) (keep : α → Bool) (items : List α) (seen others : List κ)
    (level : ∀ item ∈ items, keep item = true → (key item ∈ seen ↔ key item ∈ others))
    (apart : ∀ one ∈ firstBy key items seen, keep one = false → ∀ other ∈ items,
      keep other = true → key other ≠ key one) :
    (firstBy key items seen).filter keep = firstBy key (items.filter keep) others := by
  induction items generalizing seen others with
  | nil => rfl
  | cons item rest ih =>
    have later : ∀ {one}, one ∈ rest → one ∈ item :: rest := List.mem_cons_of_mem _
    by_cases kept : keep item = true
    · have same := level item List.mem_cons_self kept
      rw [List.filter_cons_of_pos kept]
      by_cases old : key item ∈ seen
      · rw [firstBy_cons_of_mem key old] at apart ⊢
        rw [firstBy_cons_of_mem key (same.mp old)]
        exact ih seen others (fun one inside => level one (later inside))
          fun one first drop other inside => apart one first drop other (later inside)
      · have new : key item ∉ others := fun inside => old (same.mpr inside)
        rw [firstBy_cons_of_not_mem key old] at apart ⊢
        rw [firstBy_cons_of_not_mem key new, List.filter_cons_of_pos kept,
          ih (key item :: seen) (key item :: others)]
        · intro one inside keeps
          rw [List.mem_cons, List.mem_cons, level one (later inside) keeps]
        · exact fun one first drop other inside =>
            apart one (List.mem_cons_of_mem _ first) drop other (later inside)
    · have dropped : keep item = false := by simpa using kept
      rw [List.filter_cons_of_neg kept]
      by_cases old : key item ∈ seen
      · rw [firstBy_cons_of_mem key old] at apart ⊢
        exact ih seen others (fun one inside => level one (later inside))
          fun one first drop other inside => apart one first drop other (later inside)
      · rw [firstBy_cons_of_not_mem key old] at apart ⊢
        rw [List.filter_cons_of_neg kept, ih (key item :: seen) others]
        · intro one inside keeps
          have different := apart item List.mem_cons_self dropped one (later inside) keeps
          rw [List.mem_cons, level one (later inside) keeps]
          exact or_iff_right different
        · exact fun one first drop other inside =>
            apart one (List.mem_cons_of_mem _ first) drop other (later inside)

/-- Skipping seen keys and keeping elements can be done in either order exactly when no element
that is skipped over has come before one of its key that is to be kept. -/
theorem filter_firstBy_iff (key : α → κ) (keep : α → Bool) (items : List α) :
    ((firstBy key items []).filter keep).map key =
        (firstBy key (items.filter keep) []).map key ↔
      ∀ one ∈ firstBy key items [], keep one = false → ∀ other ∈ items, keep other = true →
        key other ≠ key one := by
  constructor
  · intro same one first dropped other inside kept level
    have there : key other ∈ (firstBy key (items.filter keep) []).map key := by
      rw [mem_map_firstBy]
      exact ⟨List.mem_map_of_mem (List.mem_filter.mpr ⟨inside, kept⟩), List.not_mem_nil⟩
    rw [← same, List.mem_map] at there
    obtain ⟨third, member, is⟩ := there
    have parts := List.mem_filter.mp member
    have equal : third = one := List.inj_on_of_nodup_map (nodup_map_firstBy key items [])
      parts.1 first (is.trans level)
    rw [equal, dropped] at parts
    cases parts.2
  · intro apart
    rw [filter_firstBy key keep items [] [] (fun _ _ _ => Iff.rfl) apart]

/-- A list holds exactly the first element of each key of another, in its order. -/
structure KeepsFirsts (key : α → κ) (items kept : List α) : Prop where
  /-- What it holds is of the other list, in its order. -/
  sublist : kept.Sublist items
  /-- It holds one element of a key. -/
  distinct : (kept.map key).Nodup
  /-- It holds each element that none of its key comes before. -/
  first : ∀ front item back, items = front ++ item :: back → key item ∉ front.map key →
    item ∈ kept

/-- What is kept is part of the list, in its order. -/
theorem firstBy_sublist (key : α → κ) (items : List α) (seen : List κ) :
    (firstBy key items seen).Sublist items := by
  induction items generalizing seen with
  | nil => exact List.Sublist.refl _
  | cons item rest ih =>
    unfold firstBy
    split
    · exact (ih seen).cons item
    · exact (ih _).cons_cons item

/-- An element that none of its key comes before is kept. -/
theorem mem_firstBy_of_first (key : α → κ) {front back : List α} {item : α} {seen : List κ}
    (new : key item ∉ front.map key) (unseen : key item ∉ seen) :
    item ∈ firstBy key (front ++ item :: back) seen := by
  induction front generalizing seen with
  | nil =>
    rw [List.nil_append, firstBy_cons_of_not_mem key unseen]
    exact List.mem_cons_self
  | cons first more ih =>
    rw [List.map_cons, List.mem_cons, not_or] at new
    rw [List.cons_append]
    by_cases old : key first ∈ seen
    · rw [firstBy_cons_of_mem key old]
      exact ih new.2 unseen
    · rw [firstBy_cons_of_not_mem key old]
      apply List.mem_cons_of_mem
      apply ih new.2
      rw [List.mem_cons, not_or]
      exact ⟨new.1, unseen⟩

/-- The loop keeps the firsts. -/
theorem keepsFirsts_firstBy (key : α → κ) (items : List α) :
    KeepsFirsts key items (firstBy key items []) where
  sublist := firstBy_sublist key items []
  distinct := nodup_map_firstBy key items []
  first := fun front item back is new => by
    rw [is]
    exact mem_firstBy_of_first key new List.not_mem_nil

/-- Each key has a first element. -/
theorem exists_first (key : α → κ) {items : List α} {one : κ} (inside : one ∈ items.map key) :
    ∃ front item back, items = front ++ item :: back ∧ key item = one ∧
      key item ∉ front.map key := by
  induction items with
  | nil => cases inside
  | cons first rest ih =>
    by_cases here : key first = one
    · exact ⟨[], first, rest, rfl, here, List.not_mem_nil⟩
    · rw [List.map_cons, List.mem_cons] at inside
      have later := inside.resolve_left fun is => here is.symm
      obtain ⟨front, item, back, rfl, is, new⟩ := ih later
      refine ⟨first :: front, item, back, rfl, is, ?_⟩
      rw [List.map_cons, List.mem_cons, not_or]
      exact ⟨fun level => here (level.symm.trans is), new⟩

/-- There are as many firsts as keys. -/
theorem KeepsFirsts.length_eq {key : α → κ} {items kept : List α}
    (firsts : KeepsFirsts key items kept) : kept.length = (items.map key).dedup.length := by
  have same : (kept.map key).Perm (items.map key).dedup := by
    rw [List.perm_ext_iff_of_nodup firsts.distinct (List.nodup_dedup _)]
    intro one
    rw [List.mem_dedup]
    constructor
    · intro inside
      exact (firsts.sublist.map key).subset inside
    · intro inside
      obtain ⟨front, item, back, split, is, new⟩ := exists_first key inside
      rw [← is]
      exact List.mem_map_of_mem (firsts.first front item back split new)
  rw [← same.length_eq, List.length_map]

/-- One element is kept for each key. -/
theorem length_firstBy (key : α → κ) (items : List α) :
    (firstBy key items []).length = (items.map key).dedup.length :=
  (keepsFirsts_firstBy key items).length_eq

section Image

variable {ι : Type} [DecidableEq ι]

omit [DecidableEq κ] in
/-- Keys and their images keep the same elements when no two keys of the list have one image. -/
theorem keepsFirsts_comp {key : α → κ} {image : κ → ι} {items : List α}
    (apart : ∀ one ∈ items.map key, ∀ other ∈ items.map key, image one = image other → one = other) :
    KeepsFirsts key items (firstBy (image ∘ key) items []) where
  sublist := firstBy_sublist _ items []
  distinct := by
    have distinct := nodup_map_firstBy (image ∘ key) items []
    rw [← List.map_map] at distinct
    exact distinct.of_map image
  first := fun front item back is new => by
    rw [is] at apart ⊢
    apply mem_firstBy_of_first (image ∘ key) _ List.not_mem_nil
    intro inside
    obtain ⟨other, member, level⟩ := List.mem_map.mp inside
    have same := apart (key other) (List.mem_map_of_mem (by simp [member])) (key item)
      (List.mem_map_of_mem (by simp)) level
    exact new (List.mem_map.mpr ⟨other, member, same⟩)

/-- When images keep as many elements as there are keys, no two keys of the list have one image. -/
theorem apart_of_length_eq {key : α → κ} {image : κ → ι} {items : List α}
    (many : (firstBy (image ∘ key) items []).length = (items.map key).dedup.length) :
    ∀ one ∈ items.map key, ∀ other ∈ items.map key, image one = image other → one = other := by
  rw [length_firstBy, ← List.map_map, ← List.card_toFinset, ← List.card_toFinset] at many
  have image' : ((items.map key).map image).toFinset = (items.map key).toFinset.image image := by
    ext one
    simp
  rw [image'] at many
  have injective := Finset.card_image_iff.mp many
  intro one first other second level
  exact injective (by simpa using first) (by simpa using second) level

end Image

end VelaFlow
