import VelaFlow.Backup.Restore
import VelaFlow.Foundation.KeyValue

/-!
# The archive of a backup

What `_build_tarball` of `scripts/drive_backup.py` puts into an archive, as `tarfile` adds a
directory and what is in it: each entry once, and a file whose inode was added under another name
as a link to that name.
-/
namespace VelaFlow.Backup

open Storage

/-- The files and directories at one level, in the order `tar.add` reaches them. -/
inductive Forest where
  /-- No more entries. -/
  | nil
  /-- A regular file with its inode, its number of links and its content. -/
  | file (name : FileName) (inode links : Nat) (content : Bytes) (rest : Forest)
  /-- A symbolic link. -/
  | link (name : FileName) (target : List Char) (rest : Forest)
  /-- A directory with what is in it. -/
  | directory (name : FileName) (inside rest : Forest)
  deriving DecidableEq

/-- What `lstat` and `readlink` tell of an entry. -/
inductive Entry where
  /-- A regular file. -/
  | file (inode links : Nat) (content : Bytes)
  /-- A symbolic link. -/
  | link (target : List Char)
  /-- A directory. -/
  | directory
  deriving DecidableEq

namespace Forest

/-- The names at the top. -/
def names : Forest → List FileName
  | nil => []
  | file name _ _ _ rest => name :: rest.names
  | link name _ rest => name :: rest.names
  | directory name _ rest => name :: rest.names

/-- No two entries of a directory have the same name. -/
def Distinct : Forest → Prop
  | nil => True
  | file name _ _ _ rest => name ∉ rest.names ∧ rest.Distinct
  | link name _ rest => name ∉ rest.names ∧ rest.Distinct
  | directory name inside rest => name ∉ rest.names ∧ inside.Distinct ∧ rest.Distinct

/-- The entries with their paths, a directory before what is in it. -/
def entries (front : List FileName) : Forest → List (List FileName × Entry)
  | nil => []
  | file name inode links content rest =>
    (front ++ [name], .file inode links content) :: rest.entries front
  | link name target rest => (front ++ [name], .link target) :: rest.entries front
  | directory name inside rest =>
    (front ++ [name], .directory) :: (inside.entries (front ++ [name]) ++ rest.entries front)

/-- An entry's path goes on from the front with a name at the top. -/
theorem path_of_mem {forest : Forest} {front path : List FileName} {entry : Entry}
    (member : (path, entry) ∈ forest.entries front) :
    ∃ name rest, path = front ++ name :: rest ∧ name ∈ forest.names := by
  induction forest generalizing front with
  | nil => cases member
  | file name inode links content rest ih =>
    cases List.mem_cons.mp member with
    | inl here => exact ⟨name, [], congrArg Prod.fst here, List.mem_cons_self⟩
    | inr later =>
      obtain ⟨other, tail, shape, inside⟩ := ih later
      exact ⟨other, tail, shape, List.mem_cons_of_mem name inside⟩
  | link name target rest ih =>
    cases List.mem_cons.mp member with
    | inl here => exact ⟨name, [], congrArg Prod.fst here, List.mem_cons_self⟩
    | inr later =>
      obtain ⟨other, tail, shape, inside⟩ := ih later
      exact ⟨other, tail, shape, List.mem_cons_of_mem name inside⟩
  | directory name inside rest below ih =>
    cases List.mem_cons.mp member with
    | inl here => exact ⟨name, [], congrArg Prod.fst here, List.mem_cons_self⟩
    | inr later =>
      cases List.mem_append.mp later with
      | inl within =>
        obtain ⟨other, tail, shape, -⟩ := below within
        refine ⟨name, other :: tail, ?_, List.mem_cons_self⟩
        rw [shape, List.append_assoc, List.singleton_append]
      | inr beside =>
        obtain ⟨other, tail, shape, top⟩ := ih beside
        exact ⟨other, tail, shape, List.mem_cons_of_mem name top⟩

/-- An entry has a name. -/
theorem path_ne_nil {forest : Forest} {path : List FileName} {entry : Entry}
    (member : (path, entry) ∈ forest.entries []) : path ≠ [] := by
  obtain ⟨name, rest, shape, -⟩ := path_of_mem member
  rw [shape]
  exact List.cons_ne_nil _ _

/-- The path of an entry is that of no entry beside it or below one beside it. -/
theorem path_ne {forest : Forest} {front below path : List FileName} {name : FileName}
    (apart : name ∉ forest.names) (member : path ∈ (forest.entries front).map Prod.fst) :
    front ++ name :: below ≠ path := by
  obtain ⟨⟨other, entry⟩, inside, rfl⟩ := List.mem_map.mp member
  obtain ⟨first, tail, shape, top⟩ := path_of_mem inside
  intro same
  have heads := List.append_cancel_left (same.trans shape)
  rw [(List.cons.inj heads).1] at apart
  exact apart top

/-- No two entries have the same path. -/
theorem nodup_paths {forest : Forest} (distinct : forest.Distinct) (front : List FileName) :
    ((forest.entries front).map Prod.fst).Nodup := by
  induction forest generalizing front with
  | nil => exact List.nodup_nil
  | file name inode links content rest ih =>
    rw [entries, List.map_cons, List.nodup_cons]
    exact ⟨fun member => path_ne distinct.1 member rfl, ih distinct.2 front⟩
  | link name target rest ih =>
    rw [entries, List.map_cons, List.nodup_cons]
    exact ⟨fun member => path_ne distinct.1 member rfl, ih distinct.2 front⟩
  | directory name inside rest below ih =>
    obtain ⟨apart, within, beside⟩ := distinct
    rw [entries, List.map_cons, List.map_append, List.nodup_cons, List.nodup_append]
    refine ⟨fun member => ?_, below within _, ih beside front, fun path first other second same => ?_⟩
    · cases List.mem_append.mp member with
      | inl deeper =>
        obtain ⟨⟨path, entry⟩, there, same⟩ := List.mem_map.mp deeper
        obtain ⟨next, tail, shape, -⟩ := path_of_mem there
        have lengths := congrArg List.length (same.symm.trans shape)
        simp at lengths
      | inr beside => exact path_ne apart beside rfl
    · obtain ⟨⟨here, entry⟩, there, rfl⟩ := List.mem_map.mp first
      obtain ⟨next, tail, shape, -⟩ := path_of_mem there
      refine @path_ne rest front (next :: tail) other name apart second ?_
      rw [← same]
      exact (List.append_cons front name (next :: tail)).trans shape.symm

/-- An entry is at the top, or in a directory that is an entry before it. -/
theorem parent_before {forest : Forest} {front path : List FileName} {entry : Entry}
    {before after : List (List FileName × Entry)}
    (split : forest.entries front = before ++ (path, entry) :: after) :
    path.dropLast = front ∨ (path.dropLast, .directory) ∈ before := by
  induction forest generalizing front before after with
  | nil => exact absurd split.symm (List.append_ne_nil_of_right_ne_nil _ (List.cons_ne_nil _ _))
  | file name inode links content rest ih =>
    cases before with
    | nil =>
      left
      rw [← (Prod.mk.inj (List.cons.inj split).1).1, List.dropLast_concat]
    | cons head tail =>
      exact (ih (List.cons.inj split).2).imp_right (List.mem_cons_of_mem head)
  | link name target rest ih =>
    cases before with
    | nil =>
      left
      rw [← (Prod.mk.inj (List.cons.inj split).1).1, List.dropLast_concat]
    | cons head tail =>
      exact (ih (List.cons.inj split).2).imp_right (List.mem_cons_of_mem head)
  | directory name inside rest below ih =>
    cases before with
    | nil =>
      left
      rw [← (Prod.mk.inj (List.cons.inj split).1).1, List.dropLast_concat]
    | cons head tail =>
      obtain ⟨rfl, parts⟩ := List.cons.inj split
      cases List.append_eq_append_iff.mp parts with
      | inl late =>
        obtain ⟨middle, rfl, shape⟩ := late
        apply (ih shape).imp_right
        exact fun member => List.mem_cons_of_mem _ (List.mem_append_right _ member)
      | inr early =>
        obtain ⟨middle, shape, rest_shape⟩ := early
        cases middle with
        | nil =>
          rw [List.append_nil] at shape
          rw [List.nil_append] at rest_shape
          apply (@ih front [] _ rest_shape.symm).imp_right
          exact fun member => nomatch member
        | cons first others =>
          obtain ⟨rfl, -⟩ := List.cons.inj rest_shape
          cases below shape with
          | inl top =>
            right
            rw [top]
            exact List.mem_cons_self
          | inr deeper => exact Or.inr (List.mem_cons_of_mem _ deeper)

end Forest

/-- What an archive has at a path. -/
inductive Stored where
  /-- A regular file. -/
  | file (content : Bytes)
  /-- A symbolic link. -/
  | symbolicLink (target : List Char)
  /-- A link to what is at another path. -/
  | hardLink (first : List FileName)
  /-- A directory. -/
  | directory
  deriving DecidableEq

/-- `arcname`. -/
def pathText (path : List FileName) : List Char := (PurePath.mk .relative (path.map .down)).text

/-- The member for a path. -/
def Stored.member (path : List FileName) : Stored → Member
  | .file content => ⟨pathText path, .file, [], content⟩
  | .symbolicLink target => ⟨pathText path, .symbolicLink, target, []⟩
  | .hardLink first => ⟨pathText path, .hardLink, pathText first, []⟩
  | .directory => ⟨pathText path, .directory, [], []⟩

/-- `tar.gettarinfo`, with `tar.inodes` before and after. -/
def getTarInfo (inodes : List (Nat × List FileName)) (path : List FileName) :
    Entry → Stored × List (Nat × List FileName)
  | .directory => (.directory, inodes)
  | .link target => (.symbolicLink target, inodes)
  | .file inode links content =>
    match inodes.lookup inode with
    | some first =>
      if 1 < links ∧ path ≠ first then (.hardLink first, inodes)
      else (.file content, (inode, path) :: inodes)
    | none => (.file content, (inode, path) :: inodes)

/-- What an archive gets for each entry. -/
def store : List (Nat × List FileName) → List (List FileName × Entry) →
    List (List FileName × Stored)
  | _, [] => []
  | inodes, (path, entry) :: rest =>
    (path, (getTarInfo inodes path entry).1) :: store (getTarInfo inodes path entry).2 rest

/-- The name of the manifest. -/
def manifestName : FileName := ⟨"MANIFEST.json".toList, by decide⟩

/-- The members of `_build_tarball`. -/
def buildTarball (manifest : Bytes) (sources : Forest) : List Member :=
  (([manifestName], Stored.file manifest) :: store [] (sources.entries [])).map
    fun item => item.2.member item.1

/-- A file that is a hard link to one before it. -/
def Repeated (entries : List (List FileName × Entry)) (path : List FileName) (content : Bytes) :
    Prop :=
  ∃ before inode links after, entries = before ++ (path, .file inode links content) :: after ∧
    1 < links ∧ ∃ earlier others old, (earlier, Entry.file inode others old) ∈ before

section Storing

variable {inodes : List (Nat × List FileName)} {entries : List (List FileName × Entry)}
  {path : List FileName}

/-- What is stored of an entry is a directory for a directory alone. -/
theorem getTarInfo_directory {entry : Entry} :
    (getTarInfo inodes path entry).1 = .directory ↔ entry = .directory := by
  cases entry with
  | directory => exact ⟨fun _ => rfl, fun _ => rfl⟩
  | link target => exact iff_of_false (fun same => nomatch same) (fun same => nomatch same)
  | file inode links content =>
    unfold getTarInfo
    dsimp only
    split
    · split <;> exact iff_of_false (fun same => nomatch same) (fun same => nomatch same)
    · exact iff_of_false (fun same => nomatch same) (fun same => nomatch same)

/-- What is stored of an entry is a symbolic link for a symbolic link alone. -/
theorem getTarInfo_symbolicLink {entry : Entry} {target : List Char} :
    (getTarInfo inodes path entry).1 = .symbolicLink target ↔ entry = .link target := by
  cases entry with
  | directory => exact iff_of_false (fun same => nomatch same) (fun same => nomatch same)
  | link other =>
    constructor
    · intro same
      rw [Stored.symbolicLink.inj same]
    · intro same
      rw [Entry.link.inj same]
      rfl
  | file inode links content =>
    unfold getTarInfo
    dsimp only
    split
    · split <;> exact iff_of_false (fun same => nomatch same) (fun same => nomatch same)
    · exact iff_of_false (fun same => nomatch same) (fun same => nomatch same)

/-- What is stored has the paths of the entries. -/
theorem store_paths (inodes : List (Nat × List FileName))
    (entries : List (List FileName × Entry)) :
    (store inodes entries).map Prod.fst = entries.map Prod.fst := by
  induction entries generalizing inodes with
  | nil => rfl
  | cons entry rest ih => rw [store, List.map_cons, List.map_cons, ih]

/-- What is stored before an entry is what is stored of the entries before it. -/
theorem store_split {before after : List (List FileName × Stored)} {stored : Stored}
    (split : store inodes entries = before ++ (path, stored) :: after) :
    ∃ known front entry back, entries = front ++ (path, entry) :: back ∧
      before = store inodes front ∧ stored = (getTarInfo known path entry).1 := by
  induction entries generalizing inodes before with
  | nil => exact absurd split.symm (List.append_ne_nil_of_right_ne_nil _ (List.cons_ne_nil _ _))
  | cons head rest ih =>
    obtain ⟨top, entry⟩ := head
    cases before with
    | nil =>
      obtain ⟨rfl, rfl⟩ := Prod.mk.inj (List.cons.inj split).1
      exact ⟨inodes, [], entry, rest, rfl, rfl, rfl⟩
    | cons first others =>
      obtain ⟨rfl, later⟩ := List.cons.inj split
      obtain ⟨known, front, inner, back, rfl, rfl, same⟩ := ih later
      exact ⟨known, (top, entry) :: front, inner, back, rfl, rfl, same⟩

/-- A directory is stored for each directory, and for nothing else. -/
theorem mem_store_directory :
    (path, Stored.directory) ∈ store inodes entries ↔ (path, Entry.directory) ∈ entries := by
  induction entries generalizing inodes with
  | nil => exact iff_of_false (fun member => nomatch member) (fun member => nomatch member)
  | cons head rest ih =>
    obtain ⟨top, entry⟩ := head
    rw [store, List.mem_cons, List.mem_cons, ih, Prod.mk.injEq, Prod.mk.injEq,
      @eq_comm _ Stored.directory, @eq_comm _ Entry.directory, getTarInfo_directory]

/-- A symbolic link is stored for each symbolic link, and for nothing else. -/
theorem mem_store_symbolicLink {target : List Char} :
    (path, Stored.symbolicLink target) ∈ store inodes entries ↔
      (path, Entry.link target) ∈ entries := by
  induction entries generalizing inodes with
  | nil => exact iff_of_false (fun member => nomatch member) (fun member => nomatch member)
  | cons head rest ih =>
    obtain ⟨top, entry⟩ := head
    rw [store, List.mem_cons, List.mem_cons, ih, Prod.mk.injEq, Prod.mk.injEq,
      @eq_comm _ (Stored.symbolicLink target), @eq_comm _ (Entry.link target),
      getTarInfo_symbolicLink]

/-- An entry's inode is known after it, and no other is new. -/
theorem mem_getTarInfo {inode : Nat} {entry : Entry} :
    inode ∈ (getTarInfo inodes path entry).2.map Prod.fst ↔
      inode ∈ inodes.map Prod.fst ∨ ∃ others old, entry = .file inode others old := by
  cases entry with
  | directory => exact (or_iff_left fun ⟨_, _, same⟩ => nomatch same).symm
  | link target => exact (or_iff_left fun ⟨_, _, same⟩ => nomatch same).symm
  | file other links content =>
    have fresh : (∃ others old, Entry.file other links content = .file inode others old) ↔
        inode = other := by
      constructor
      · rintro ⟨others, old, same⟩
        exact (Entry.file.inj same).1.symm
      · rintro rfl
        exact ⟨links, content, rfl⟩
    rw [fresh, or_comm, getTarInfo]
    cases found : inodes.lookup other with
    | none => rw [List.map_cons, List.mem_cons]
    | some first =>
      dsimp only
      split
      · have known := List.mem_map_of_mem (f := Prod.fst) (mem_of_lookup found)
        exact (or_iff_right_of_imp fun same => same ▸ known).symm
      · rw [List.map_cons, List.mem_cons]

/-- The paths known after an entry are its own and those known before it. -/
theorem path_of_mem_getTarInfo {entry : Entry} {known : Nat × List FileName}
    (member : known ∈ (getTarInfo inodes path entry).2) : known ∈ inodes ∨ known.2 = path := by
  cases entry with
  | directory => exact Or.inl member
  | link target => exact Or.inl member
  | file inode links content =>
    have added : known ∈ (inode, path) :: inodes → known ∈ inodes ∨ known.2 = path := by
      intro inside
      cases List.mem_cons.mp inside with
      | inl here => exact Or.inr (congrArg Prod.snd here)
      | inr before => exact Or.inl before
    unfold getTarInfo at member
    dsimp only at member
    split at member
    · split at member
      · exact Or.inl member
      · exact added member
    · exact added member

/-- A file is stored as a link when its inode was added before and has several links, and with its
content otherwise. -/
theorem store_file {before after : List (List FileName × Entry)} {inode links : Nat}
    {content : Bytes} (split : entries = before ++ (path, .file inode links content) :: after)
    (distinct : (entries.map Prod.fst).Nodup)
    (fresh : ∀ known ∈ inodes, known.2 ∉ entries.map Prod.fst) :
    let linked := 1 < links ∧ (inode ∈ inodes.map Prod.fst ∨
      ∃ earlier others old, (earlier, Entry.file inode others old) ∈ before)
    (linked → ∃ first, (path, .hardLink first) ∈ store inodes entries) ∧
      (¬ linked → (path, .file content) ∈ store inodes entries) := by
  induction before generalizing inodes entries with
  | nil =>
    subst split
    have here : path ∈ ((path, Entry.file inode links content) :: after).map Prod.fst :=
      List.mem_cons_self
    dsimp only
    cases found : inodes.lookup inode with
    | none =>
      have unknown := not_mem_of_lookup found
      refine ⟨fun linked => ?_, fun _ => ?_⟩
      · obtain ⟨-, known | ⟨_, _, _, member⟩⟩ := linked
        · exact absurd known unknown
        · cases member
      · rw [List.nil_append, store, getTarInfo, found]
        exact List.mem_cons_self
    | some first =>
      have known := mem_of_lookup found
      have apart : path ≠ first := fun same => fresh _ known (same ▸ here)
      refine ⟨fun linked => ⟨first, ?_⟩, fun plain => ?_⟩
      · rw [List.nil_append, store, getTarInfo, found]
        dsimp only
        rw [if_pos ⟨linked.1, apart⟩]
        exact List.mem_cons_self
      · have single : ¬ 1 < links := fun several =>
          plain ⟨several, Or.inl (List.mem_map_of_mem known)⟩
        rw [List.nil_append, store, getTarInfo, found]
        dsimp only
        rw [if_neg fun both => single both.1]
        exact List.mem_cons_self
  | cons head rest ih =>
    obtain ⟨top, entry⟩ := head
    subst split
    rw [List.cons_append, List.map_cons, List.nodup_cons] at distinct
    have unseen : ∀ known ∈ (getTarInfo inodes top entry).2,
        known.2 ∉ (rest ++ (path, .file inode links content) :: after).map Prod.fst := by
      intro known member
      cases path_of_mem_getTarInfo member with
      | inl old => exact fun inside => fresh known old (List.mem_cons_of_mem _ inside)
      | inr new =>
        rw [new]
        exact distinct.1
    have later := ih rfl distinct.2 unseen
    have same : inode ∈ (getTarInfo inodes top entry).2.map Prod.fst ∨
        (∃ earlier others old, (earlier, Entry.file inode others old) ∈ rest) ↔
        inode ∈ inodes.map Prod.fst ∨
        ∃ earlier others old, (earlier, Entry.file inode others old) ∈ (top, entry) :: rest := by
      rw [mem_getTarInfo, or_assoc]
      apply or_congr_right
      constructor
      · rintro (⟨others, old, rfl⟩ | ⟨earlier, others, old, member⟩)
        · exact ⟨top, others, old, List.mem_cons_self⟩
        · exact ⟨earlier, others, old, List.mem_cons_of_mem _ member⟩
      · rintro ⟨earlier, others, old, member⟩
        cases List.mem_cons.mp member with
        | inl here => exact Or.inl ⟨others, old, (Prod.mk.inj here).2.symm⟩
        | inr behind => exact Or.inr ⟨earlier, others, old, behind⟩
    dsimp only at later ⊢
    rw [same] at later
    rw [List.cons_append, store]
    exact ⟨fun linked => (later.1 linked).imp fun _ member => List.mem_cons_of_mem _ member,
      fun plain => List.mem_cons_of_mem _ (later.2 plain)⟩

end Storing

end VelaFlow.Backup
