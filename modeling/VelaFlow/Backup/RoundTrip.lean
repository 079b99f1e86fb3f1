import VelaFlow.Backup.Archive

/-!
# Restoring what was backed up

An archive of a source tree is extracted member by member into an empty target. After each member
the target holds what the archive had up to there, links apart, which are skipped: a file that was
stored as a link to an earlier one is not restored.
-/
namespace VelaFlow.Backup

open Storage Security

/-- What a restore makes of what is stored. -/
def Stored.node? : Stored → Option (Node FileName Bytes)
  | .file content => some (.file content)
  | .directory => some .directory
  | .symbolicLink _ => none
  | .hardLink _ => none

/-- What a restore leaves at a path: what was made there last. -/
def laid : List (List FileName × Stored) → List FileName → Option (Node FileName Bytes)
  | [], _ => none
  | item :: rest, path => (laid rest path).or (if item.1 = path then item.2.node? else none)

/-- What is made last is there. -/
theorem laid_concat (done : List (List FileName × Stored)) (item : List FileName × Stored)
    (path : List FileName) :
    laid (done ++ [item]) path = (if item.1 = path then item.2.node? else none).or (laid done path) := by
  induction done with
  | nil =>
    rw [List.nil_append, laid, Option.or_none]
    rfl
  | cons head rest ih => rw [List.cons_append, laid, ih, laid, Option.or_assoc]

/-- Nothing is left at a path that nothing is stored at. -/
theorem laid_of_not_mem {done : List (List FileName × Stored)} {path : List FileName}
    (absent : path ∉ done.map Prod.fst) : laid done path = none := by
  induction done with
  | nil => rfl
  | cons head rest ih =>
    rw [List.map_cons, List.mem_cons, not_or] at absent
    rw [laid, ih absent.2, if_neg fun same => absent.1 same.symm]
    rfl

/-- What is stored at a path once is left there. -/
theorem laid_of_mem {done : List (List FileName × Stored)} {path : List FileName} {stored : Stored}
    (distinct : (done.map Prod.fst).Nodup) (member : (path, stored) ∈ done) :
    laid done path = stored.node? := by
  induction done with
  | nil => cases member
  | cons head rest ih =>
    rw [List.map_cons, List.nodup_cons] at distinct
    rw [laid]
    cases List.mem_cons.mp member with
    | inl here =>
      rw [← here] at distinct ⊢
      rw [laid_of_not_mem distinct.1, if_pos rfl, Option.none_or]
    | inr later =>
      have apart : head.1 ≠ path := fun same =>
        distinct.1 (same ▸ List.mem_map_of_mem (f := Prod.fst) later)
      rw [ih distinct.2 later, if_neg apart, Option.or_none]

/-- A directory that a target leads to, with nothing in it. -/
structure EmptyTarget (start : FileTree FileName Bytes) (target : NormalPath)
    (root : List FileName) : Prop where
  /-- The target leads there. -/
  leads : start.real? target.steps = some root
  /-- It is a directory. -/
  directory : start.isDirectory root = true
  /-- Nothing is in it. -/
  empty : ∀ name rest, start.node? (root ++ name :: rest) = none

/-- A member has the name of its path. -/
theorem member_name (path : List FileName) (stored : Stored) :
    (stored.member path).name = pathText path := by
  cases stored <;> rfl

/-- A member's path goes on from the target. -/
theorem memberPath_member (target : NormalPath) (path : List FileName) (stored : Stored) :
    memberPath target (stored.member path) =
      (NormalPath.mk target.doubled (target.names ++ path)).toPure := by
  rw [memberPath, member_name, pathText, PurePath.parse_text, PurePath.join, if_pos rfl]
  simp only [NormalPath.toPure, List.map_append]

section Extraction

variable {start : FileTree FileName Bytes} {cwd target : NormalPath} {root : List FileName}

/-- What is below an empty target is on no link. -/
theorem EmptyTarget.settled (ready : EmptyTarget start target root) (path : List FileName) :
    Settled start.link? (root ++ path) := by
  apply FileTree.settled_append (FileTree.settled_real? ready.leads)
  intro inner name _
  have nothing : start.node? (root ++ inner ++ [name]) = none := by
    cases inner with
    | nil => rw [List.append_nil]; exact ready.empty name []
    | cons first rest =>
      rw [List.append_assoc, List.cons_append]
      exact ready.empty first _
  rw [FileTree.link?, nothing]

/-- A member's path leads below an empty target. -/
theorem EmptyTarget.member_leads (ready : EmptyTarget start target root) (path : List FileName)
    (stored : Stored) :
    start.real? ((memberPath target (stored.member path)).fromRoot cwd) = some (root ++ path) := by
  rw [memberPath_member, fromRoot_anchored (NormalPath.toPure_anchored _)]
  have parts : (NormalPath.mk target.doubled (target.names ++ path)).toPure.steps =
      target.steps ++ path.map .down := List.map_append
  have first := ready.leads
  rw [FileTree.real?] at first
  rw [parts, FileTree.real?, resolveLinks_append, first, Option.bind_some]
  exact resolveLinks_of_settled (ready.settled path) fun _ _ _ => rfl

/-- A restore on its way: the target holds what the archive had so far. -/
structure Restoring (start : FileTree FileName Bytes) (root : List FileName)
    (done : List (List FileName × Stored)) (state : Extraction) : Prop where
  /-- Links stay. -/
  grows : start.Grows state.tree
  /-- What was stored is in the target. -/
  nodes : ∀ path, path ≠ [] → state.tree.node? (root ++ path) = laid done path

/-- What is stored can be made after what was: its directory is there, and nothing in its way. -/
structure Fits (done : List (List FileName × Stored)) (path : List FileName) (stored : Stored) :
    Prop where
  /-- It is not the target itself. -/
  named : path ≠ []
  /-- It is at the top or in a directory. -/
  parent : path.dropLast = [] ∨ laid done path.dropLast = some .directory
  /-- A directory is not made where something is. -/
  free : stored = .directory → laid done path = none
  /-- A file is not written where a directory is. -/
  noDirectory : laid done path ≠ some .directory

variable {done : List (List FileName × Stored)} {state : Extraction} {path : List FileName}
  {stored : Stored}

/-- The directory of what fits is there. -/
theorem Restoring.parent_directory (ready : EmptyTarget start target root)
    (restoring : Restoring start root done state)
    (parent : path.dropLast = [] ∨ laid done path.dropLast = some .directory) :
    state.tree.isDirectory (root ++ path.dropLast) = true := by
  by_cases top : path.dropLast = []
  · rw [top, List.append_nil]
    exact restoring.grows.directories root ready.directory
  · rw [FileTree.isDirectory, restoring.nodes path.dropLast top, parent.resolve_left top]
    rfl

/-- Making one node more leaves what is stored so far with it. -/
theorem Restoring.concat {after : Extraction} {node : Node FileName Bytes}
    (restoring : Restoring start root done state) (grows : state.tree.Grows after.tree)
    (makes : stored.node? = some node)
    (nodes : ∀ other, after.tree.node? other =
      if other = root ++ path then some node else state.tree.node? other) :
    Restoring start root (done ++ [(path, stored)]) after := by
  refine ⟨restoring.grows.trans grows, fun other named => ?_⟩
  rw [nodes, laid_concat]
  dsimp only
  by_cases same : path = other
  · rw [if_pos (congrArg (root ++ ·) same.symm), if_pos same, makes]
    rfl
  · rw [if_neg fun equal => same (List.append_cancel_left equal).symm, if_neg same, Option.none_or]
    exact restoring.nodes other named

/-- Skipping a link leaves what is stored so far with it. -/
theorem Restoring.skip (restoring : Restoring start root done state) (skips : stored.node? = none) :
    Restoring start root (done ++ [(path, stored)]) state := by
  refine ⟨restoring.grows, fun other named => ?_⟩
  rw [laid_concat, skips, ite_self, Option.none_or]
  exact restoring.nodes other named

/-- What fits is extracted. -/
theorem extractMember_of_fits (ready : EmptyTarget start target root)
    (restoring : Restoring start root done state) (fits : Fits done path stored) :
    ∃ after, extractMember cwd target root state (stored.member path) = (after, none) ∧
      Restoring start root (done ++ [(path, stored)]) after := by
  have leads : state.tree.real? ((memberPath target (stored.member path)).fromRoot cwd) =
      some (root ++ path) := by
    rw [restoring.grows.real?]
    exact ready.member_leads path stored
  have inside : root.isPrefixOf (root ++ path) = true :=
    List.isPrefixOf_iff_prefix.mpr (List.prefix_append root path)
  have settled : ∀ other, Settled state.tree.link? (root ++ other) := by
    intro other
    rw [restoring.grows.links]
    exact ready.settled other
  have directory := restoring.parent_directory ready fits.parent
  obtain ⟨name, last⟩ := Option.ne_none_iff_exists'.mp
    (fun none => fits.named (List.getLast?_eq_none_iff.mp none))
  have whole : root ++ path = root ++ path.dropLast ++ [name] := by
    rw [List.append_assoc, List.dropLast_append_getLast? name last]
  have there := restoring.nodes path fits.named
  cases stored with
  | symbolicLink text =>
    refine ⟨state, ?_, restoring.skip rfl⟩
    simp only [extractMember, leads, inside, if_true]
    rfl
  | hardLink first =>
    refine ⟨state, ?_, restoring.skip rfl⟩
    simp only [extractMember, leads, inside, if_true]
    rfl
  | directory =>
    rw [fits.free rfl, whole] at there
    obtain ⟨made, nodes⟩ := FileTree.mkdirs_of_free (settled _) directory there
    rw [← whole] at made nodes
    refine ⟨(state.mkdirs (root ++ path)).1, ?_,
      restoring.concat (FileTree.mkdirs_grows _ _).1 rfl nodes⟩
    simp only [extractMember, leads, inside, if_true]
    simp only [Stored.member, Extraction.mkdirs, made]
  | file content =>
    have outer : (root ++ path).dropLast = root ++ path.dropLast := by
      rw [whole, List.dropLast_concat]
    have along : Settled state.tree.link? (root ++ path.dropLast).reverse.reverse := by
      rw [List.reverse_reverse]
      exact settled _
    have made := FileTree.mkdirs_of_isDirectory along (by rwa [List.reverse_reverse])
    have free : state.tree.isDirectory (root ++ path) = false := by
      rw [FileTree.isDirectory, there]
      have other := fits.noDirectory
      cases left : laid done path with
      | none => rfl
      | some node =>
        cases node with
        | directory => exact absurd left other
        | file content => rfl
        | link target => rfl
    have path_settled := settled path
    rw [whole] at path_settled free
    obtain ⟨grown, written⟩ := FileTree.writeFile_of_free content path_settled directory free
    rw [← whole] at written
    obtain ⟨grows, -, nodes⟩ := FileTree.writeFile_ok written
    refine ⟨⟨grown, state.created ++ [], state.opened ++ [root ++ path]⟩, ?_,
      restoring.concat grows rfl nodes⟩
    simp only [extractMember, leads, inside, if_true]
    simp only [Stored.member, outer, Extraction.mkdirs, made, written]

/-- A directory is not extracted where a file was. -/
theorem extractMember_of_file {name : FileName} {content : Bytes}
    (ready : EmptyTarget start target root) (restoring : Restoring start root done state)
    (file : laid done [name] = some (.file content)) :
    ∃ after error, extractMember cwd target root state (Stored.directory.member [name]) =
      (after, some (.raises error)) := by
  have leads : state.tree.real?
      ((memberPath target (Stored.directory.member [name])).fromRoot cwd) =
      some (root ++ [name]) := by
    rw [restoring.grows.real?]
    exact ready.member_leads [name] .directory
  have inside : root.isPrefixOf (root ++ [name]) = true :=
    List.isPrefixOf_iff_prefix.mpr (List.prefix_append root [name])
  have settled : Settled state.tree.link? root := by
    rw [restoring.grows.links]
    exact FileTree.settled_real? ready.leads
  have there : state.tree.node? (root ++ [name]) = some (.file content) := by
    rw [restoring.nodes [name] (List.cons_ne_nil _ _), file]
  have directory := restoring.grows.directories root ready.directory
  obtain ⟨error, failed⟩ := Option.ne_none_iff_exists'.mp
    (FileTree.mkdirs_of_file settled directory there)
  simp only [extractMember, leads, inside, if_true]
  simp only [Stored.member, Extraction.mkdirs, failed]
  exact ⟨_, _, rfl⟩

/-- What fits one after the other is extracted, and then the rest. -/
theorem extractAll_of_fits (ready : EmptyTarget start target root)
    {stored : List (List FileName × Stored)}
    (fits : ∀ before path item after, stored = before ++ (path, item) :: after →
      Fits (done ++ before) path item)
    (restoring : Restoring start root done state) (tail : List Member) :
    ∃ after, extractAll cwd target root state
        ((stored.map fun item => item.2.member item.1) ++ tail) =
          extractAll cwd target root after tail ∧
      Restoring start root (done ++ stored) after := by
  induction stored generalizing done state with
  | nil => exact ⟨state, rfl, by rwa [List.append_nil]⟩
  | cons head rest ih =>
    obtain ⟨path, item⟩ := head
    have first := fits [] path item rest rfl
    rw [List.append_nil] at first
    obtain ⟨between, extracted, kept⟩ := @extractMember_of_fits start cwd target root done state
      path item ready restoring first
    have later : ∀ before other next after, rest = before ++ (other, next) :: after →
        Fits (done ++ [(path, item)] ++ before) other next := by
      intro before other next after split
      rw [List.append_assoc]
      exact fits ((path, item) :: before) other next after (congrArg ((path, item) :: ·) split)
    obtain ⟨after, ran, final⟩ := ih later kept
    refine ⟨after, ?_, ?_⟩
    · rw [List.map_cons, List.cons_append, extractAll, extracted]
      exact ran
    · rw [List.append_assoc] at final
      exact final

end Extraction

/-- What `_build_tarball` puts before the sources. -/
def manifestItem (manifest : Bytes) : List FileName × Stored := ([manifestName], .file manifest)

/-- Stored entries: their paths differ, and each is at the top or after its directory. -/
structure Layered (stored : List (List FileName × Stored)) : Prop where
  /-- No path is stored twice. -/
  distinct : (stored.map Prod.fst).Nodup
  /-- Every path has a name. -/
  named : ∀ item ∈ stored, item.1 ≠ []
  /-- The directory of an entry is stored before it. -/
  parents : ∀ before path item after, stored = before ++ (path, item) :: after →
    path.dropLast = [] ∨ (path.dropLast, .directory) ∈ before

/-- What an archive gets of a source tree is layered. -/
theorem layered_store {sources : Forest} (distinct : sources.Distinct) :
    Layered (store [] (sources.entries [])) := by
  refine ⟨?_, fun item member => ?_, fun before path item after split => ?_⟩
  · rw [store_paths]
    exact Forest.nodup_paths distinct []
  · have path := List.mem_map_of_mem (f := Prod.fst) member
    rw [store_paths] at path
    obtain ⟨⟨other, entry⟩, inside, same⟩ := List.mem_map.mp path
    rw [← same]
    exact Forest.path_ne_nil inside
  · obtain ⟨_, front, entry, back, entries, rfl, -⟩ := store_split split
    exact (Forest.parent_before entries).imp_right mem_store_directory.mpr

/-- What an archive leaves at another path than the manifest's is what was stored. -/
theorem laid_manifest {stored : List (List FileName × Stored)} {path : List FileName}
    (apart : path ≠ [manifestName]) (manifest : Bytes) :
    laid (manifestItem manifest :: stored) path = laid stored path := by
  rw [laid, if_neg fun same => apart same.symm, Option.or_none]

/-- What is stored of a source tree fits, unless a source is a directory with the manifest's name. -/
theorem Layered.fits {before after : List (List FileName × Stored)} {path : List FileName}
    {item : Stored} (layered : Layered (before ++ (path, item) :: after)) (manifest : Bytes)
    (clear : ([manifestName], Stored.directory) ∉ before ++ [(path, item)]) :
    Fits (manifestItem manifest :: before) path item := by
  obtain ⟨distinct, named, parents⟩ := layered
  rw [List.map_append, List.nodup_append] at distinct
  have absent : path ∉ before.map Prod.fst := fun member =>
    distinct.2.2 path member path List.mem_cons_self rfl
  have nothing := laid_of_not_mem absent
  refine ⟨named _ (List.mem_append_right _ List.mem_cons_self), ?_, fun same => ?_, ?_⟩
  · refine (parents before path item after rfl).imp_right fun member => ?_
    have apart : path.dropLast ≠ [manifestName] := fun same =>
      clear (List.mem_append_left _ (same ▸ member))
    rw [laid_manifest apart, laid_of_mem distinct.1 member]
    rfl
  · have apart : path ≠ [manifestName] := fun named =>
      clear (List.mem_append_right _ (List.mem_singleton.mpr (by rw [named, same])))
    rw [laid_manifest apart, nothing]
  · rw [laid, nothing, Option.none_or]
    split
    · exact fun same => nomatch Option.some.inj same
    · exact fun same => nomatch same

/-- The path of a link's target, from the directory the link has below the target. -/
def linkTarget (target : NormalPath) (path : List FileName) (text : List Char) : PurePath :=
  (NormalPath.mk target.doubled (target.names ++ path)).toPure.parent.join (PurePath.parse text)

/-- A link below the target points into the target by its text. -/
def LinkStays (cwd target : NormalPath) (path : List FileName) (text : List Char) : Prop :=
  SafePath.assertWithin ((linkTarget target path text).abspath cwd) target = true

/-- The target of a link below a target is not relative. -/
theorem linkTarget_anchored (target : NormalPath) (path : List FileName) (text : List Char) :
    (linkTarget target path text).anchor ≠ .relative := by
  rw [linkTarget, PurePath.join]
  split
  · exact (NormalPath.mk target.doubled (target.names ++ path)).toPure_anchored
  · next anchored => exact anchored

/-- A path with slashes stays in the target when it does in normal form. -/
theorem staysIn_eq {path : PurePath} (anchored : path.anchor ≠ .relative) (cwd target : NormalPath)
    (tree : FileTree FileName Bytes) :
    staysIn cwd tree target path = SafePath.assertWithin (path.abspath cwd) target := by
  have base : SafePath.normalize cwd target.text = target := abspath_parse_text cwd target
  rw [staysIn, SafePath.safeResolve_pure tree (List.cons_ne_nil _ _) anchored, List.map_singleton,
    List.any_cons, List.any_nil, Bool.or_false, base]
  cases SafePath.assertWithin (path.abspath cwd) target <;> rfl

/-- The text of a path of names starts with no slash. -/
theorem pathText_head (path : List FileName) : (pathText path).head? ≠ some '/' := by
  unfold pathText PurePath.text
  split
  · decide
  · intro slash
    exact PurePath.intercalate_head (path.map .down) '/' slash rfl

/-- Links to earlier members stay in the target. -/
theorem hardLink_stays {cwd target : NormalPath} {path : List FileName} (named : path ≠ [])
    (first : List FileName) : LinkStays cwd target path (pathText first) := by
  have whole : linkTarget target path (pathText first) =
      (NormalPath.mk target.doubled (target.names ++ path.dropLast ++ first)).toPure := by
    rw [linkTarget, pathText, PurePath.parse_text, PurePath.join, if_pos rfl]
    simp only [NormalPath.toPure, PurePath.parent, List.map_append,
      List.dropLast_append_of_ne_nil (List.map_eq_nil_iff.not.mpr named), List.map_dropLast]
  rw [LinkStays, whole, abspath_toPure, SafePath.assertWithin_iff, List.append_assoc]
  exact ⟨rfl, List.prefix_append _ _⟩

/-- Of what is stored, only a symbolic link that points out of the target is refused. -/
theorem refuses_member (cwd target : NormalPath) (tree : FileTree FileName Bytes)
    {path : List FileName} (named : path ≠ []) (stored : Stored) :
    refuses cwd tree target (stored.member path) = true ↔
      ∃ text, stored = .symbolicLink text ∧ ¬ LinkStays cwd target path text := by
  have slash : decide ((stored.member path).name.head? = some '/') = false := by
    rw [member_name]
    exact decide_eq_false (pathText_head path)
  have level : (PurePath.parse (stored.member path).name).climbs = false := by
    rw [member_name, pathText, PurePath.parse_text, PurePath.climbs]
    exact decide_eq_false fun up => by simp at up
  have inside : staysIn cwd tree target (memberPath target (stored.member path)) = true := by
    rw [memberPath_member, staysIn_eq (NormalPath.toPure_anchored _), abspath_toPure,
      SafePath.assertWithin_iff]
    exact ⟨rfl, List.prefix_append _ _⟩
  have link : staysIn cwd tree target ((memberPath target (stored.member path)).parent.join
      (PurePath.parse (stored.member path).linkname)) = SafePath.assertWithin
        ((linkTarget target path (stored.member path).linkname).abspath cwd) target := by
    rw [memberPath_member]
    exact staysIn_eq (linkTarget_anchored target path _) cwd target tree
  rw [refuses, slash, level, inside, link, Bool.not_true, Bool.false_or, Bool.false_or,
    Bool.false_or, Bool.and_eq_true, Bool.not_eq_true']
  cases stored with
  | file content => exact iff_of_false (fun both => nomatch both.1) fun ⟨_, same, _⟩ => nomatch same
  | directory => exact iff_of_false (fun both => nomatch both.1) fun ⟨_, same, _⟩ => nomatch same
  | hardLink first =>
    refine iff_of_false (fun both => ?_) fun ⟨_, same, _⟩ => nomatch same
    have stays := @hardLink_stays cwd target path named first
    exact absurd stays (Bool.eq_false_iff.mp both.2)
  | symbolicLink text =>
    constructor
    · exact fun both => ⟨text, rfl, Bool.eq_false_iff.mp both.2⟩
    · rintro ⟨other, same, out⟩
      rw [← Stored.symbolicLink.inj same] at out
      exact ⟨rfl, Bool.eq_false_iff.mpr out⟩

/-- A restore returns zero and every regular file of the sources is there with its content. -/
def Restores (sources : Forest) (root : List FileName) (result : Extraction × Ending) : Prop :=
  result.2 = .returns 0 ∧
    ∀ path inode links content, (path, Entry.file inode links content) ∈ sources.entries [] →
      result.1.tree.node? (root ++ path) = some (.file content)

/-- When sources can be restored: no link points out of the target, no source is a directory with the
manifest's name, and no file is a hard link to one before it. -/
structure Restorable (cwd target : NormalPath) (manifest : Bytes) (sources : Forest) : Prop where
  /-- Symbolic links point into the target by their text. -/
  links : ∀ path text, (path, Entry.link text) ∈ sources.entries [] →
    LinkStays cwd target path text
  /-- The manifest is in no directory's place. -/
  clear : ([manifestName], Entry.directory) ∉ sources.entries []
  /-- A file is stored with its content, unless it is in the manifest's place and equal to it. -/
  single : ∀ path content, Repeated (sources.entries []) path content →
    path = [manifestName] ∧ content = manifest

section Run

variable {cwd target : NormalPath} {start : FileTree FileName Bytes} {root : List FileName}
  {manifest : Bytes} {stored : List (List FileName × Stored)}

/-- The manifest and what is stored before a directory in its place fit one after the other. -/
theorem fits_all (layered : Layered stored) {before after : List (List FileName × Stored)}
    (split : stored = before ++ after) (clear : ([manifestName], Stored.directory) ∉ before) :
    ∀ front path item back, manifestItem manifest :: before = front ++ (path, item) :: back →
      Fits ([] ++ front) path item := by
  intro front path item back shape
  rw [List.nil_append]
  cases front with
  | nil =>
    obtain ⟨rfl, rfl⟩ := Prod.mk.inj (List.cons.inj shape).1
    refine ⟨List.cons_ne_nil _ _, Or.inl rfl, ?_, ?_⟩
    · exact fun same => nomatch same
    · exact fun same => nomatch same
  | cons head rest =>
    obtain ⟨rfl, parts⟩ := List.cons.inj shape
    have whole : stored = rest ++ (path, item) :: (back ++ after) := by
      rw [split, parts]
      exact List.append_assoc rest ((path, item) :: back) after
    rw [whole] at layered
    apply layered.fits manifest
    intro member
    apply clear
    have shorter : before = rest ++ [(path, item)] ++ back :=
      parts.trans (List.append_cons rest (path, item) back)
    rw [shorter]
    exact List.mem_append_left back member

/-- A restore starts with an empty target. -/
theorem EmptyTarget.restoring (ready : EmptyTarget start target root) :
    Restoring start root [] ⟨start, [], []⟩ := by
  refine ⟨FileTree.Grows.refl start, fun path named => ?_⟩
  obtain ⟨name, rest, rfl⟩ := List.exists_cons_of_ne_nil named
  exact ready.empty name rest

/-- All that is stored is extracted when no directory is in the manifest's place. -/
theorem extractAll_of_clear (ready : EmptyTarget start target root) (layered : Layered stored)
    (clear : ([manifestName], Stored.directory) ∉ stored) :
    ∃ after, extractAll cwd target root ⟨start, [], []⟩
        ((manifestItem manifest :: stored).map fun item => item.2.member item.1) =
          (after, .returns 0) ∧
      Restoring start root (manifestItem manifest :: stored) after := by
  have fits := @fits_all manifest stored layered stored [] (List.append_nil stored).symm clear
  obtain ⟨after, ran, restored⟩ := @extractAll_of_fits start cwd target root [] _ ready _ fits
    ready.restoring []
  rw [List.append_nil] at ran
  exact ⟨after, ran, restored⟩

/-- A directory in the manifest's place is not extracted. -/
theorem extractAll_of_clash (ready : EmptyTarget start target root) (layered : Layered stored)
    (clash : ([manifestName], Stored.directory) ∈ stored) :
    ∃ after error, extractAll cwd target root ⟨start, [], []⟩
        ((manifestItem manifest :: stored).map fun item => item.2.member item.1) =
          (after, .raises error) := by
  obtain ⟨before, after, rfl⟩ := List.append_of_mem clash
  have distinct := layered.distinct
  rw [List.map_append, List.nodup_append] at distinct
  have absent : [manifestName] ∉ before.map Prod.fst := fun member =>
    distinct.2.2 _ member _ List.mem_cons_self rfl
  have clear : ([manifestName], Stored.directory) ∉ before := fun member =>
    absent (List.mem_map_of_mem (f := Prod.fst) member)
  have fits := @fits_all manifest _ layered before _ rfl clear
  obtain ⟨state, ran, restored⟩ := @extractAll_of_fits start cwd target root [] _ ready _ fits
    ready.restoring ((([manifestName], Stored.directory) :: after).map fun item =>
      item.2.member item.1)
  have file : laid ([] ++ manifestItem manifest :: before) [manifestName] =
      some (.file manifest) := by
    rw [List.nil_append, laid, laid_of_not_mem absent, Option.none_or]
    exact if_pos rfl
  obtain ⟨final, error, raised⟩ := @extractMember_of_file start cwd target root _ state
    manifestName manifest ready restored file
  refine ⟨final, error, ?_⟩
  rw [← List.cons_append, List.map_append, ran, List.map_cons, extractAll, raised]

end Run

section Sources

variable {cwd target : NormalPath} {start : FileTree FileName Bytes} {root : List FileName}
  {sources : Forest}

/-- An archive is refused when a link of the sources points out of the target. -/
theorem refused_iff (distinct : sources.Distinct) (manifest : Bytes) :
    (buildTarball manifest sources).any (refuses cwd start target) = true ↔
      ∃ path text, (path, Entry.link text) ∈ sources.entries [] ∧
        ¬ LinkStays cwd target path text := by
  have layered := layered_store distinct
  rw [buildTarball, List.any_map, List.any_eq_true]
  constructor
  · rintro ⟨item, member, refuse⟩
    cases List.mem_cons.mp member with
    | inl first =>
      rw [first] at refuse
      obtain ⟨text, same, -⟩ :=
        (refuses_member cwd target start (List.cons_ne_nil _ _) _).mp refuse
      cases same
    | inr inside =>
      obtain ⟨path, kind⟩ := item
      obtain ⟨text, same, out⟩ :=
        (refuses_member cwd target start (layered.named _ inside) kind).mp refuse
      rw [same] at inside
      exact ⟨path, text, mem_store_symbolicLink.mp inside, out⟩
  · rintro ⟨path, text, member, out⟩
    have inside : (path, Stored.symbolicLink text) ∈ store [] (sources.entries []) :=
      mem_store_symbolicLink.mpr member
    refine ⟨_, List.mem_cons_of_mem _ inside, ?_⟩
    exact (refuses_member cwd target start (layered.named _ inside) _).mpr ⟨text, rfl, out⟩

/-- An archive whose links stay in the target is extracted. -/
theorem extract_of_links (distinct : sources.Distinct) (manifest : Bytes)
    (ready : EmptyTarget start target root)
    (links : ∀ path text, (path, Entry.link text) ∈ sources.entries [] →
      LinkStays cwd target path text) :
    extract cwd target start (buildTarball manifest sources) =
      extractAll cwd target root ⟨start, [], []⟩ (buildTarball manifest sources) := by
  have accepted : (buildTarball manifest sources).any (refuses cwd start target) = false := by
    rw [← Bool.not_eq_true, refused_iff distinct manifest]
    rintro ⟨path, text, member, out⟩
    exact out (links path text member)
  rw [extract, accepted, if_neg Bool.false_ne_true, ready.leads]

/-- A regular file is left with its content exactly when it is no hard link to one before it, or is in
the manifest's place and equal to it. -/
theorem laid_file_iff (distinct : sources.Distinct) (manifest : Bytes) {path : List FileName}
    {inode links : Nat} {content : Bytes}
    (member : (path, Entry.file inode links content) ∈ sources.entries []) :
    laid (manifestItem manifest :: store [] (sources.entries [])) path = some (.file content) ↔
      (Repeated (sources.entries []) path content → path = [manifestName] ∧ content = manifest) := by
  have layered := layered_store distinct
  have paths := Forest.nodup_paths distinct []
  have fresh : ∀ known ∈ ([] : List (Nat × List FileName)),
      known.2 ∉ (sources.entries []).map Prod.fst := fun _ none => nomatch none
  have linked : Repeated (sources.entries []) path content →
      laid (store [] (sources.entries [])) path = none := by
    rintro ⟨before, other, count, after, split, several, earlier⟩
    obtain ⟨first, inside⟩ := (store_file split paths fresh).1 ⟨several, Or.inr earlier⟩
    exact laid_of_mem layered.distinct inside
  obtain ⟨before, after, split⟩ := List.append_of_mem member
  by_cases again : Repeated (sources.entries []) path content
  · rw [laid, linked again, Option.none_or]
    constructor
    · intro left _
      split at left
      · next same => exact ⟨same.symm, (Node.file.inj (Option.some.inj left)).symm⟩
      · cases left
    · intro equal
      obtain ⟨same, rfl⟩ := equal again
      exact if_pos same.symm
  · have alone : ¬ (1 < links ∧ (inode ∈ ([] : List (Nat × List FileName)).map Prod.fst ∨
        ∃ earlier others old, (earlier, Entry.file inode others old) ∈ before)) := by
      rintro ⟨several, none | earlier⟩
      · cases none
      · exact again ⟨before, inode, links, after, split, several, earlier⟩
    have inside := (store_file split paths fresh).2 alone
    rw [laid, laid_of_mem layered.distinct inside]
    exact iff_of_true rfl fun repeated => absurd repeated again

/-- An archive is restored into an empty target exactly when its sources can be restored. -/
theorem restores_extract_iff (distinct : sources.Distinct) (manifest : Bytes)
    (ready : EmptyTarget start target root) :
    Restores sources root (extract cwd target start (buildTarball manifest sources)) ↔
      Restorable cwd target manifest sources := by
  have layered := layered_store distinct
  constructor
  · rintro ⟨returned, written⟩
    have links : ∀ path text, (path, Entry.link text) ∈ sources.entries [] →
        LinkStays cwd target path text := by
      intro path text member
      by_contra out
      rw [extract, if_pos ((refused_iff distinct manifest).mpr ⟨path, text, member, out⟩)]
        at returned
      cases returned
    rw [extract_of_links distinct manifest ready links] at returned written
    have clear : ([manifestName], Stored.directory) ∉ store [] (sources.entries []) := by
      intro clash
      obtain ⟨after, error, raised⟩ := @extractAll_of_clash cwd target start root manifest _
        ready layered clash
      have ended := returned.symm.trans (congrArg Prod.snd raised)
      cases ended
    obtain ⟨after, ran, restored⟩ := @extractAll_of_clear cwd target start root manifest _
      ready layered clear
    have left : (extractAll cwd target root ⟨start, [], []⟩ (buildTarball manifest sources)).1 =
        after := congrArg Prod.fst ran
    rw [left] at written
    refine ⟨links, fun clash => clear (mem_store_directory.mpr clash), fun path content again => ?_⟩
    have member : ∃ inode count, (path, Entry.file inode count content) ∈ sources.entries [] := by
      obtain ⟨before, inode, count, behind, split, -⟩ := again
      refine ⟨inode, count, ?_⟩
      rw [split]
      exact List.mem_append_right before List.mem_cons_self
    obtain ⟨inode, count, member⟩ := member
    have there := written path inode count content member
    rw [restored.nodes path (Forest.path_ne_nil member)] at there
    exact (laid_file_iff distinct manifest member).mp there again
  · rintro ⟨links, clear, single⟩
    rw [extract_of_links distinct manifest ready links]
    obtain ⟨after, ran, restored⟩ := @extractAll_of_clear cwd target start root manifest _
      ready layered fun clash => clear (mem_store_directory.mp clash)
    have left : extractAll cwd target root ⟨start, [], []⟩ (buildTarball manifest sources) =
        (after, .returns 0) := ran
    rw [left]
    refine ⟨rfl, fun path inode count content member => ?_⟩
    rw [restored.nodes path (Forest.path_ne_nil member)]
    exact (laid_file_iff distinct manifest member).mpr (single path content)

end Sources

/-- What is relied on of `AESGCM`. -/
structure AeadLaws (aead : Aead) : Prop where
  /-- What was encrypted decrypts under its key, nonce and associated data. -/
  decrypts : ∀ key nonce plaintext data,
    aead.decrypt key nonce (aead.encrypt key nonce plaintext data) data = some plaintext
  /-- A ciphertext ends in a tag. -/
  tagged : ∀ key nonce plaintext data, 16 ≤ (aead.encrypt key nonce plaintext data).length

/-- Decrypting an envelope gives what was encrypted. -/
theorem decryptStream_encryptStream {aead : Aead} (laws : AeadLaws aead) {nonce : Bytes}
    (sized : nonce.length = nonceSize) (plaintext key : Bytes) :
    decryptStream aead (encryptStream aead nonce plaintext key) key = .ok plaintext := by
  have tag := laws.tagged key nonce plaintext magic
  have long : ¬ (encryptStream aead nonce plaintext key).length < magic.length + nonceSize + 16 := by
    rw [encryptStream, List.length_append, List.length_append, sized]
    omega
  have front : (encryptStream aead nonce plaintext key).take magic.length = magic := by
    rw [encryptStream, List.append_assoc]
    exact List.take_left
  have middle : ((encryptStream aead nonce plaintext key).drop magic.length).take nonceSize =
      nonce := by
    rw [encryptStream, List.append_assoc, List.drop_left, ← sized]
    exact List.take_left
  have back : (encryptStream aead nonce plaintext key).drop (magic.length + nonceSize) =
      aead.encrypt key nonce plaintext magic := by
    rw [encryptStream, ← sized, ← List.length_append]
    exact List.drop_left
  unfold decryptStream
  rw [if_neg long, if_neg (not_not.mpr front), middle, back, laws.decrypts]

/-- A call of `run_restore` that comes to extracting into an empty target: both paths are accepted,
the key is there and the envelope is read, and the target is made. -/
structure Prepared (context : RestoreContext) (tree between start : FileTree FileName Bytes)
    (envelopePath targetDir : List Char) (key envelope : Bytes) (target : NormalPath)
    (root : List FileName) : Prop where
  /-- The envelope is accepted, and read once there is the target's directory. -/
  reads : ∃ safeEnvelope, SafePath.safeResolve context.cwd tree (some envelopePath)
      (SafePath.defaultBases context.cwd context.surroundings) true false =
        (.ok safeEnvelope, tree) ∧ between.readFile safeEnvelope.steps = some envelope
  /-- The target is accepted. -/
  allows : SafePath.safeResolve context.cwd tree (some targetDir)
    (SafePath.defaultBases context.cwd context.surroundings) false true = (.ok target, between)
  /-- The key is there. -/
  loads : context.key? = some key
  /-- The target is made. -/
  makes : ∃ places, between.mkdirs target.names.reverse = ⟨start, places, none⟩
  /-- It is empty. -/
  ready : EmptyTarget start target root

/-- A backup is restored into an empty target exactly when its sources can be restored. -/
theorem restores_iff {context : RestoreContext} {tree between start : FileTree FileName Bytes}
    {envelopePath targetDir : List Char} {key nonce manifest : Bytes} {target : NormalPath}
    {root : List FileName} {sources : Forest} {writeTar : List Member → Bytes}
    (laws : AeadLaws context.aead) (sized : nonce.length = nonceSize)
    (faithful : context.readTar (writeTar (buildTarball manifest sources)) =
      some (buildTarball manifest sources))
    (prepared : Prepared context tree between start envelopePath targetDir key
      (encryptStream context.aead nonce (writeTar (buildTarball manifest sources)) key) target root)
    (distinct : sources.Distinct) :
    Restores sources root (runRestore context tree envelopePath targetDir) ↔
      Restorable context.cwd target manifest sources := by
  obtain ⟨⟨safeEnvelope, accepted, read⟩, allowed, loaded, ⟨places, made⟩, ready⟩ := prepared
  have ran : runRestore context tree envelopePath targetDir =
      extract context.cwd target start (buildTarball manifest sources) := by
    unfold runRestore
    simp only [accepted, allowed, loaded, read, made, faithful,
      decryptStream_encryptStream laws sized]
  rw [ran]
  exact restores_extract_iff distinct manifest ready

section Samples

/-- A file `a`. -/
def firstName : FileName := ⟨"a".toList, by decide⟩

/-- A file `b`. -/
def secondName : FileName := ⟨"b".toList, by decide⟩

/-- The sources `a` and `b`, each a file with its own inode or both with one. -/
def twoFiles (first second : Nat) : Forest :=
  .file firstName first 2 [0x31] (.file secondName second 2 [0x31] .nil)

/-- A cipher that hides nothing, with a tag of zeros. -/
def openAead : Aead where
  encrypt _ _ plaintext _ := plaintext ++ List.replicate 16 0
  decrypt _ _ ciphertext _ := some (ciphertext.take (ciphertext.length - 16))

/-- The open cipher decrypts what it encrypts. -/
theorem openAead_laws : AeadLaws openAead where
  decrypts key nonce plaintext data := by
    have length : (plaintext ++ List.replicate 16 (0 : UInt8)).length - 16 = plaintext.length := by
      rw [List.length_append, List.length_replicate]
      omega
    show some ((plaintext ++ List.replicate 16 0).take
      ((plaintext ++ List.replicate 16 (0 : UInt8)).length - 16)) = _
    rw [length, List.take_left]
  tagged key nonce plaintext data := by
    show 16 ≤ (plaintext ++ List.replicate 16 (0 : UInt8)).length
    rw [List.length_append, List.length_replicate]
    omega

/-- A restore in the root directory of the archive of some sources with an empty manifest. -/
def sampleContext (sources : Forest) : RestoreContext where
  cwd := ⟨false, []⟩
  surroundings := ⟨some "/".toList, "/".toList, "/".toList⟩
  key? := some []
  aead := openAead
  readTar _ := some (buildTarball [] sources)

/-- An envelope `e` and an empty directory `t`. -/
def sampleTree : FileTree FileName Bytes :=
  ((FileTree.bare 12).put [] ⟨"e".toList, by decide⟩
    (.file (encryptStream openAead (List.replicate 12 0) [] [])) rfl rfl).put []
    ⟨"t".toList, by decide⟩ .directory rfl rfl

/-- The place of the empty directory. -/
def sampleRoot : List FileName := [⟨"t".toList, by decide⟩]

/-- The restore of the sample comes to extracting. -/
theorem prepared_sample (sources : Forest) :
    Prepared (sampleContext sources) sampleTree sampleTree sampleTree "/e".toList "/t".toList []
      (encryptStream openAead (List.replicate 12 0) [] []) ⟨false, sampleRoot⟩ sampleRoot where
  reads := ⟨⟨false, [⟨"e".toList, by decide⟩]⟩, rfl, rfl⟩
  allows := rfl
  loads := rfl
  makes := ⟨[], rfl⟩
  ready := by
    refine ⟨rfl, rfl, fun name rest => ?_⟩
    simp [sampleTree, sampleRoot, FileTree.put, FileTree.bare]

/-- Two hard links to one file: the second is not restored. -/
theorem hardLink_lost :
    ¬ Restores (twoFiles 7 7) sampleRoot
      (runRestore (sampleContext (twoFiles 7 7)) sampleTree "/e".toList "/t".toList) := by
  intro restores
  have member : ([secondName], Entry.file 7 2 [0x31]) ∈ (twoFiles 7 7).entries [] := by decide
  have there := restores.2 [secondName] 7 2 [0x31] member
  have nothing : ((runRestore (sampleContext (twoFiles 7 7)) sampleTree "/e".toList
      "/t".toList).1.tree.node? (sampleRoot ++ [secondName])).isNone = true := by decide +kernel
  rw [there] at nothing
  cases nothing

/-- Two files with inodes of their own are restored. -/
theorem restores_two :
    Restores (twoFiles 7 8) sampleRoot
        (runRestore (sampleContext (twoFiles 7 8)) sampleTree "/e".toList "/t".toList) ↔
      Restorable ⟨false, []⟩ ⟨false, sampleRoot⟩ [] (twoFiles 7 8) :=
  @restores_iff (sampleContext (twoFiles 7 8)) sampleTree sampleTree sampleTree "/e".toList
    "/t".toList [] (List.replicate 12 0) [] ⟨false, sampleRoot⟩ sampleRoot (twoFiles 7 8)
    (fun _ => []) openAead_laws rfl rfl (prepared_sample (twoFiles 7 8)) (by
      refine ⟨by decide, by decide, trivial⟩)

end Samples

end VelaFlow.Backup
