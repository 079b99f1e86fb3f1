import VelaFlow.Security.SafePath

/-!
# Restoring a backup

`run_restore` of `scripts/drive_backup.py`. What it reads is decrypted and taken for a tar archive;
the reading of archives and the cipher are parameters. All members are checked before the first is
extracted. A member is written where its path leads at that time, and links are never made, so an
archive cannot prepare the way out of the target for a later member.
-/
namespace VelaFlow.Backup

open Storage Security

/-- A file's content. -/
abbrev Bytes := List UInt8

/-- `AESGCM`, with the key, the nonce and the associated data each call is given. -/
structure Aead where
  /-- `AESGCM(key).encrypt`. -/
  encrypt : (key nonce plaintext data : Bytes) → Bytes
  /-- `AESGCM(key).decrypt`, when the tag is right. -/
  decrypt : (key nonce ciphertext data : Bytes) → Option Bytes

/-- `_MAGIC`. -/
def magic : Bytes := [0x56, 0x46, 0x42, 0x4B, 0x55, 0x50, 0x30, 0x31]

/-- `_NONCE_SIZE`. -/
def nonceSize : Nat := 12

/-- `_encrypt_stream`, with the nonce it draws. -/
def encryptStream (aead : Aead) (nonce plaintext key : Bytes) : Bytes :=
  magic ++ nonce ++ aead.encrypt key nonce plaintext magic

/-- Why `run_restore` raises. -/
inductive RestoreError where
  /-- `_load_backup_key` raises. -/
  | noKey
  /-- The envelope is no file. -/
  | noEnvelope
  /-- `_decrypt_stream` raises. -/
  | runtimeError (message : String)
  /-- The tag is wrong. -/
  | invalidTag
  /-- The archive cannot be read. -/
  | readError
  /-- `Path.resolve` meets links that lead to one another without end. -/
  | symlinkLoop
  /-- An operation of the kernel fails. -/
  | osError (error : FileError)
  deriving DecidableEq

/-- `_decrypt_stream`. -/
def decryptStream (aead : Aead) (envelope key : Bytes) : Except RestoreError Bytes :=
  if envelope.length < magic.length + nonceSize + 16 then
    .error (.runtimeError "Envelope too short to be a valid VelaFlow backup")
  else if envelope.take magic.length ≠ magic then
    .error (.runtimeError "Backup magic bytes mismatch — not a VelaFlow backup")
  else
    match aead.decrypt key ((envelope.drop magic.length).take nonceSize)
        (envelope.drop (magic.length + nonceSize)) magic with
    | some plaintext => .ok plaintext
    | none => .error .invalidTag

/-- What `tarfile` tells members apart by. -/
inductive MemberKind where
  /-- `isfile()`. -/
  | file
  /-- `isdir()`. -/
  | directory
  /-- `issym()`. -/
  | symbolicLink
  /-- `islnk()`. -/
  | hardLink
  /-- A device, a pipe or an unknown kind. -/
  | other
  deriving DecidableEq

/-- A `TarInfo`, with the content of its file. -/
structure Member where
  /-- `name`. -/
  name : List Char
  /-- Its kind. -/
  kind : MemberKind
  /-- `linkname`. -/
  linkname : List Char
  /-- What `extractfile` reads. -/
  content : Bytes
  deriving DecidableEq

/-- Whether a member is a link. -/
def Member.isLink (member : Member) : Bool :=
  decide (member.kind = .symbolicLink) || decide (member.kind = .hardLink)

/-- `target / m.name`. -/
def memberPath (target : NormalPath) (member : Member) : PurePath :=
  target.toPure.join (PurePath.parse member.name)

/-- Whether `safe_resolve(path, allowed_bases=[target])` returns. -/
def staysIn (cwd : NormalPath) (tree : FileTree FileName Bytes) (target : NormalPath)
    (path : PurePath) : Bool :=
  match (SafePath.safeResolve cwd tree (some path.text) [target.text] false false).1 with
  | .ok _ => true
  | .error _ => false

/-- Whether a member is refused before anything is extracted. -/
def refuses (cwd : NormalPath) (tree : FileTree FileName Bytes) (target : NormalPath)
    (member : Member) : Bool :=
  decide (member.name.head? = some '/') || (PurePath.parse member.name).climbs ||
    !staysIn cwd tree target (memberPath target member) ||
    (member.isLink &&
      !staysIn cwd tree target ((memberPath target member).parent.join
        (PurePath.parse member.linkname)))

/-- How a restore ends. -/
inductive Ending where
  /-- It returns an exit code. -/
  | returns (code : Nat)
  /-- It raises. -/
  | raises (error : RestoreError)
  deriving DecidableEq

/-- What an extraction has come to. -/
structure Extraction where
  /-- The file system. -/
  tree : FileTree FileName Bytes
  /-- The places of the directories made. -/
  created : List (List FileName)
  /-- The places of the files opened for writing. -/
  opened : List (List FileName)

/-- `mkdir(parents=True, exist_ok=True)` during an extraction. -/
def Extraction.mkdirs (state : Extraction) (place : List FileName) :
    Extraction × Option FileError :=
  let made := state.tree.mkdirs place.reverse
  (⟨made.tree, state.created ++ made.places, state.opened⟩, made.error?)

/-- Extracts a member below where the target leads, and says when this is the end. -/
def extractMember (cwd target : NormalPath) (root : List FileName) (state : Extraction)
    (member : Member) : Extraction × Option Ending :=
  match state.tree.real? ((memberPath target member).fromRoot cwd) with
  | none => (state, some (.raises .symlinkLoop))
  | some out =>
    if root.isPrefixOf out then
      match member.kind with
      | .directory =>
        match state.mkdirs out with
        | (after, none) => (after, none)
        | (after, some error) => (after, some (.raises (.osError error)))
      | .file =>
        match state.mkdirs out.dropLast with
        | (after, some error) => (after, some (.raises (.osError error)))
        | (after, none) =>
          match after.tree.writeFile out member.content with
          | .ok (place, tree) => (⟨tree, after.created, after.opened ++ [place]⟩, none)
          | .error error => (after, some (.raises (.osError error)))
      | .symbolicLink => (state, none)
      | .hardLink => (state, none)
      | .other => (state, none)
    else (state, some (.returns 3))

/-- Extracts the members one by one. -/
def extractAll (cwd target : NormalPath) (root : List FileName) :
    Extraction → List Member → Extraction × Ending
  | state, [] => (state, .returns 0)
  | state, member :: rest =>
    match extractMember cwd target root state member with
    | (after, none) => extractAll cwd target root after rest
    | (after, some ending) => (after, ending)

/-- The extraction of an archive into a target that is there: all members are checked first. -/
def extract (cwd target : NormalPath) (tree : FileTree FileName Bytes) (members : List Member) :
    Extraction × Ending :=
  if members.any (refuses cwd tree target) then (⟨tree, [], []⟩, .returns 3)
  else
    match tree.real? target.steps with
    | none => (⟨tree, [], []⟩, .raises .symlinkLoop)
    | some root => extractAll cwd target root ⟨tree, [], []⟩ members

/-- What `run_restore` does not compute itself. -/
structure RestoreContext where
  /-- The working directory. -/
  cwd : NormalPath
  /-- What `default_bases` reads. -/
  surroundings : SafePath.Surroundings
  /-- What `_load_backup_key` returns, when it does. -/
  key? : Option Bytes
  /-- `AESGCM`. -/
  aead : Aead
  /-- The members of a compressed archive, when it is one. -/
  readTar : Bytes → Option (List Member)

/-- `run_restore`, with what it extracts. -/
def runRestore (context : RestoreContext) (tree : FileTree FileName Bytes)
    (envelopePath targetDir : List Char) : Extraction × Ending :=
  let bases := SafePath.defaultBases context.cwd context.surroundings
  match SafePath.safeResolve context.cwd tree (some envelopePath) bases true false with
  | (.error _, tree) => (⟨tree, [], []⟩, .returns 3)
  | (.ok safeEnvelope, tree) =>
    match SafePath.safeResolve context.cwd tree (some targetDir) bases false true with
    | (.error _, tree) => (⟨tree, [], []⟩, .returns 3)
    | (.ok target, tree) =>
      match context.key?, tree.readFile safeEnvelope.steps with
      | none, _ => (⟨tree, [], []⟩, .raises .noKey)
      | some _, none => (⟨tree, [], []⟩, .raises .noEnvelope)
      | some key, some envelope =>
        match decryptStream context.aead envelope key with
        | .error error => (⟨tree, [], []⟩, .raises error)
        | .ok plaintext =>
          match tree.mkdirs target.names.reverse with
          | ⟨tree, _, some error⟩ => (⟨tree, [], []⟩, .raises (.osError error))
          | ⟨tree, _, none⟩ =>
            match context.readTar plaintext with
            | none => (⟨tree, [], []⟩, .raises .readError)
            | some members => extract context.cwd target tree members

/-- What an extraction keeps: links stay, and what it makes and writes is below the root. -/
structure Within (start : FileTree FileName Bytes) (root : List FileName) (state : Extraction) :
    Prop where
  /-- The links are those from the start. -/
  grows : start.Grows state.tree
  /-- What was made and written is below the root, and on no link. -/
  below : ∀ place ∈ state.created ++ state.opened, root <+: place ∧ Settled start.link? place

section Containment

variable {cwd target : NormalPath} {start : FileTree FileName Bytes} {root : List FileName}
  {state : Extraction}

/-- The directories made on the way to a place below the root are below the root. -/
theorem within_mkdirs (directory : start.isDirectory root = true) (within : Within start root state)
    {out place : List FileName} (settled : Settled state.tree.link? out) (inside : root <+: out)
    (part : place <+: out) : Within start root (state.mkdirs place).1 := by
  have grows := (FileTree.mkdirs_grows state.tree place.reverse).1
  refine ⟨within.grows.trans grows, fun other member => ?_⟩
  simp only [Extraction.mkdirs, List.mem_append] at member
  have known : other ∈ state.created ++ state.opened ∨
      other ∈ (state.tree.mkdirs place.reverse).places := by
    rw [List.mem_append]
    tauto
  cases known with
  | inl earlier => exact within.below other earlier
  | inr made =>
    have reversed : place.reverse.reverse <+: out := by
      rw [List.reverse_reverse]
      exact part
    obtain ⟨below, ahead⟩ := FileTree.below_of_mkdirs (within.grows.directories root directory)
      settled inside reversed other made
    refine ⟨below, ?_⟩
    rw [← within.grows.links]
    exact settled.of_prefix ahead

/-- A member is extracted below the root. -/
theorem within_extractMember (directory : start.isDirectory root = true)
    (within : Within start root state) (member : Member) :
    Within start root (extractMember cwd target root state member).1 := by
  unfold extractMember
  split
  · exact within
  · next out leads =>
    have settled := FileTree.settled_real? leads
    split
    · next inside =>
      rw [List.isPrefixOf_iff_prefix] at inside
      split
      · have made := within_mkdirs directory within settled inside List.prefix_rfl
        split
        · next same => rwa [same] at made
        · next same => rwa [same] at made
      · have made := within_mkdirs directory within settled inside (List.dropLast_prefix out)
        split
        · next same => rwa [same] at made
        · next after same =>
          rw [same] at made
          split
          · next place tree written =>
            obtain ⟨grows, located, -⟩ := FileTree.writeFile_ok written
            have kept : Settled after.tree.link? out := by
              have links := (FileTree.mkdirs_grows state.tree out.dropLast.reverse).1.links
              have after_tree : (state.mkdirs out.dropLast).1.tree = after.tree := by rw [same]
              rw [← after_tree]
              exact links ▸ settled
            obtain rfl := FileTree.eq_of_locate? kept located
            refine ⟨made.grows.trans grows, fun other member => ?_⟩
            rw [← List.append_assoc, List.mem_append, List.mem_singleton] at member
            cases member with
            | inl earlier => exact made.below other earlier
            | inr last =>
              subst last
              refine ⟨inside, ?_⟩
              rw [← made.grows.links]
              exact kept
          · exact made
      · exact within
      · exact within
      · exact within
    · exact within

/-- All members are extracted below the root. -/
theorem within_extractAll (directory : start.isDirectory root = true)
    (within : Within start root state) (members : List Member) :
    Within start root (extractAll cwd target root state members).1 := by
  induction members generalizing state with
  | nil => exact within
  | cons member rest ih =>
    have next := @within_extractMember cwd target start root state directory within member
    unfold extractAll
    split
    · next after same =>
      rw [same] at next
      exact ih next
    · next after ending same =>
      rw [same] at next
      exact next

/-- What an extraction makes and writes is where the target leads, or below. -/
def BelowTarget (target : NormalPath) (state : Extraction) : Prop :=
  ∀ place ∈ state.created ++ state.opened, ∃ root real,
    state.tree.real? target.steps = some root ∧
    state.tree.real? (place.map .down) = some real ∧ root <+: real

/-- An extraction that makes nothing makes nothing elsewhere. -/
theorem belowTarget_none (target : NormalPath) (tree : FileTree FileName Bytes) :
    BelowTarget target ⟨tree, [], []⟩ := fun _ member => nomatch member

/-- An archive is extracted below where a target leads that is a directory. -/
theorem belowTarget_extract {tree : FileTree FileName Bytes}
    (directory : tree.leadsToDirectory target.steps = true) (members : List Member) :
    BelowTarget target (extract cwd target tree members).1 := by
  unfold extract
  split
  · exact belowTarget_none target tree
  · split
    · exact belowTarget_none target tree
    · next root leads =>
      have there : tree.isDirectory root = true := by
        unfold FileTree.leadsToDirectory at directory
        split at directory
        · next place located =>
          have same : tree.real? target.steps = some place :=
            resolveLinks_mono (fun _ _ => rfl) located
          obtain rfl := Option.some.inj (same.symm.trans leads)
          exact directory
        · cases directory
      have start : Within tree root ⟨tree, [], []⟩ :=
        ⟨FileTree.Grows.refl tree, fun _ member => nomatch member⟩
      have within := @within_extractAll cwd target tree root ⟨tree, [], []⟩ there start members
      intro place member
      obtain ⟨below, settled⟩ := within.below place member
      refine ⟨root, place, ?_, ?_, below⟩
      · rw [within.grows.real?]
        exact leads
      · rw [within.grows.real?]
        exact FileTree.real?_of_settled settled

/-- What a restore makes and writes while extracting is where its target leads, or below. -/
theorem restore_contained (context : RestoreContext) (tree : FileTree FileName Bytes)
    (envelopePath targetDir : List Char) :
    BelowTarget (SafePath.normalize context.cwd targetDir)
      (runRestore context tree envelopePath targetDir).1 := by
  unfold runRestore
  dsimp only
  split
  · exact belowTarget_none _ _
  · split
    · exact belowTarget_none _ _
    · next accepted =>
      obtain ⟨-, same, -⟩ := SafePath.safeResolve_ok accepted
      rw [same targetDir rfl]
      split
      · exact belowTarget_none _ _
      · exact belowTarget_none _ _
      · split
        · exact belowTarget_none _ _
        · split
          · exact belowTarget_none _ _
          · next made =>
            split
            · exact belowTarget_none _ _
            · next members _ =>
              apply belowTarget_extract
              have leads := (FileTree.mkdirs_grows _ _).2 (congrArg FileTree.Made.error? made)
              rw [congrArg FileTree.Made.tree made, List.reverse_reverse] at leads
              exact leads

end Containment

end VelaFlow.Backup
