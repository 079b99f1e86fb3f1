import VelaFlow.Backup.Restore
import Mathlib.Data.List.Perm.Subperm
import Mathlib.Data.List.Sort

/-!
# The backups that are kept

`run_backup` of `scripts/drive_backup.py` uploads an envelope, lists the backups of its prefix and
trashes those beyond the retention. A call of Drive can fail at any attempt, also after Drive has
done what it asked, and is tried again; so an upload can be there more than once. Delays and logging
are left out.
-/
namespace VelaFlow.Backup

section Drive

/-- A file of the Drive folder. -/
structure DriveFile where
  /-- `id`; Drive gives each upload one of its own. -/
  id : Nat
  /-- `name`. -/
  name : String
  /-- What was uploaded. -/
  content : Bytes
  /-- `createdTime`. -/
  createdTime : Int
  /-- `trashed`. -/
  trashed : Bool := false
  deriving DecidableEq

/-- The folder, in the order of the uploads. -/
abbrev Folder := List DriveFile

/-- How a call of the API fails. -/
inductive CallFailure where
  /-- An `HttpError` with its status and its text. -/
  | http (status : Nat) (text : String)
  /-- Another exception. -/
  | transport

/-- What one attempt of a call comes to. -/
inductive Attempt where
  /-- It returns. -/
  | returns
  /-- It fails, though Drive may have done what it asked. -/
  | fails (failure : CallFailure) (done : Bool)

/-- Whether a failure is retried. -/
def CallFailure.retries : CallFailure → Bool
  | .http status _ =>
    decide (status = 403 ∨ status = 429) || (decide (500 ≤ status) && decide (status < 600))
  | .transport => true

/-- The exception of a failure. -/
def CallFailure.exception : CallFailure → PyException
  | .http _ text => .other "HttpError" text
  | .transport => .other "Exception" "transport error"

/-- `_MAX_RETRIES`. -/
def maxRetries : Nat := 5

/-- The loop of `_with_retry` from an attempt on, for what an attempt does to the folder. -/
def retryFrom (opName : String) (perform : Nat → Folder → Folder) (attempts : Nat → Attempt)
    (attempt : Nat) : Nat → Folder → Except PyException Unit × Folder
  | 0, folder =>
    (.error (.other "RuntimeError" ("Drive " ++ opName ++ " failed after retries")), folder)
  | left + 1, folder =>
    match attempts attempt with
    | .returns => (.ok (), perform attempt folder)
    | .fails failure done =>
      let reached := if done then perform attempt folder else folder
      if failure.retries then retryFrom opName perform attempts (attempt + 1) left reached
      else (.error failure.exception, reached)

/-- `_with_retry`. -/
def withRetry (opName : String) (perform : Nat → Folder → Folder) (attempts : Nat → Attempt)
    (folder : Folder) : Except PyException Unit × Folder :=
  retryFrom opName perform attempts 0 maxRetries folder

/-- The folder with files trashed. -/
def Folder.trash (ids : List Nat) (folder : Folder) : Folder :=
  folder.map fun file => if file.id ∈ ids then { file with trashed := true } else file

/-- How Drive lists the backups of a name prefix. -/
structure DriveListing where
  /-- `name contains '...'`. -/
  hasName : String → Bool
  /-- A backup has the prefix that it was given. -/
  namePrefix : String
  /-- `contains` finds a name by what it starts with. -/
  own : ∀ rest, hasName (namePrefix ++ rest) = true
  /-- `createdTime desc`; of files of one time any may be first. -/
  arrange : Folder → Folder
  /-- A file is listed once. -/
  perm : ∀ files, (arrange files).Perm files
  /-- The latest are first. -/
  latest : ∀ files,
    (arrange files).Pairwise fun first second => second.createdTime ≤ first.createdTime

/-- A backup that is not trashed. -/
def DriveListing.isLive (listing : DriveListing) (file : DriveFile) : Bool :=
  listing.hasName file.name && !file.trashed

/-- `list_backups`: the first page. -/
def DriveListing.listBackups (listing : DriveListing) (folder : Folder) : Folder :=
  (listing.arrange (folder.filter listing.isLive)).take 1000

/-- `existing[retention:]`. -/
def beyond (retention : Int) (existing : Folder) : Folder :=
  if 0 ≤ retention then existing.drop retention.toNat
  else existing.drop (existing.length + retention).toNat

/-- What a run of `run_backup` finds. -/
structure BackupRun where
  /-- The checks of the folder and of the service account pass. -/
  configured : Bool
  /-- `_load_backup_key`. -/
  key : Except PyException Bytes
  /-- `_build_tarball`. -/
  tarball : Except PyException Bytes
  /-- The nonce of the encryption. -/
  nonce : Bytes
  /-- `strftime("%Y%m%dT%H%M%SZ")`. -/
  stamp : String
  /-- `_DriveClient(...)`. -/
  connect : Except PyException Unit
  /-- The attempts of `upload`. -/
  upload : Nat → Attempt
  /-- When Drive creates the file of an attempt. -/
  createdTime : Nat → Int
  /-- The attempts of `list_backups`. -/
  list : Nat → Attempt
  /-- The attempts of `trash`, by the file. -/
  trash : Nat → Nat → Attempt

/-- The name of a backup. -/
def BackupRun.name (listing : DriveListing) (run : BackupRun) : String :=
  listing.namePrefix ++ (run.stamp ++ ".tar.gz.enc")

/-- What an attempt of `upload` adds. -/
def BackupRun.add (listing : DriveListing) (run : BackupRun) (envelope : Bytes) (attempt : Nat)
    (folder : Folder) : Folder :=
  folder ++ [⟨folder.length, run.name listing, envelope, run.createdTime attempt, false⟩]

/-- The loop that trashes old backups. -/
def trashAll (run : BackupRun) : Folder → Folder → Except PyException Unit × Folder
  | [], folder => (.ok (), folder)
  | old :: rest, folder =>
    match withRetry "trash" (fun _ => Folder.trash [old.id]) (run.trash old.id) folder with
    | (.ok _, left) => trashAll run rest left
    | (.error exception, left) => (.error exception, left)

/-- The part of `run_backup` that talks to Drive. -/
def deliver (listing : DriveListing) (retention : Int) (run : BackupRun) (envelope : Bytes)
    (folder : Folder) : Except PyException Nat × Folder :=
  match withRetry "upload" (run.add listing envelope) run.upload folder with
  | (.error exception, left) => (.error exception, left)
  | (.ok _, stored) =>
    match withRetry "list" (fun _ folder => folder) run.list stored with
    | (.error exception, left) => (.error exception, left)
    | (.ok _, listed) =>
      match trashAll run (beyond retention (listing.listBackups listed)) listed with
      | (.error exception, left) => (.error exception, left)
      | (.ok _, left) => (.ok 0, left)

/-- `run_backup`: its exit code, and the folder it leaves. -/
def runBackup (aead : Aead) (listing : DriveListing) (retention : Int) (run : BackupRun)
    (folder : Folder) : Except PyException Nat × Folder :=
  if run.configured = false then (.ok 2, folder)
  else
    match run.key, run.tarball, run.connect with
    | .error exception, _, _ => (.error exception, folder)
    | .ok _, .error exception, _ => (.error exception, folder)
    | .ok _, .ok _, .error exception => (.error exception, folder)
    | .ok key, .ok plaintext, .ok _ =>
      deliver listing retention run (encryptStream aead run.nonce plaintext key) folder

end Drive

section Retention

variable {listing : DriveListing} {run : BackupRun} {folder : Folder}

/-- A call that changes nothing leaves the folder. -/
theorem retryFrom_list (attempts : Nat → Attempt) (left attempt : Nat) :
    (retryFrom "list" (fun _ folder => folder) attempts attempt left folder).2 = folder := by
  induction left generalizing attempt with
  | zero => rfl
  | succ left ih =>
    unfold retryFrom
    cases attempts attempt with
    | returns => rfl
    | fails failure done =>
      dsimp only
      rw [ite_self]
      cases failure.retries with
      | true => exact ih (attempt + 1)
      | false => rfl

/-- What the attempts of an upload add: files of the backup, as many as were done, and one at least
when the upload returns. -/
structure Uploads (listing : DriveListing) (run : BackupRun) (envelope : Bytes) (folder : Folder)
    (limit : Nat) (added : Folder) : Prop where
  /-- They are not more than the attempts. -/
  few : added.length ≤ limit
  /-- Each gets the next number. -/
  numbered : added.map DriveFile.id = List.range' folder.length added.length
  /-- Each is the backup. -/
  are : ∀ file ∈ added, file.name = run.name listing ∧ file.content = envelope ∧
    file.trashed = false ∧ ∃ attempt, file.createdTime = run.createdTime attempt

/-- An upload adds files of the backup. -/
theorem retryFrom_upload (envelope : Bytes) (left attempt : Nat) (folder : Folder) :
    ∃ added, (retryFrom "upload" (run.add listing envelope) run.upload attempt left folder).2 =
        folder ++ added ∧ Uploads listing run envelope folder left added ∧
      ((retryFrom "upload" (run.add listing envelope) run.upload attempt left folder).1 = .ok () →
        added ≠ []) := by
  induction left generalizing attempt folder with
  | zero =>
    refine ⟨[], (List.append_nil folder).symm, ⟨Nat.le_refl 0, rfl, ?_⟩, ?_⟩
    · intro file inside
      cases inside
    · intro ends
      cases ends
  | succ left ih =>
    let file : DriveFile :=
      ⟨folder.length, run.name listing, envelope, run.createdTime attempt, false⟩
    have one : Uploads listing run envelope folder (left + 1) [file] := by
      refine ⟨Nat.le_add_left 1 left, rfl, fun other inside => ?_⟩
      rw [List.mem_singleton.mp inside]
      exact ⟨rfl, rfl, rfl, attempt, rfl⟩
    have none : Uploads listing run envelope folder (left + 1) [] :=
      ⟨Nat.zero_le _, rfl, fun other inside => absurd inside List.not_mem_nil⟩
    unfold retryFrom
    cases run.upload attempt with
    | returns => exact ⟨[file], rfl, one, fun _ => List.cons_ne_nil _ _⟩
    | fails failure done =>
      dsimp only
      cases failure.retries with
      | false =>
        cases done with
        | true => exact ⟨[file], rfl, one, fun ends => by cases ends⟩
        | false => exact ⟨[], (List.append_nil folder).symm, none, fun ends => by cases ends⟩
      | true =>
        cases done with
        | false =>
          have ⟨added, is, uploads, some'⟩ := ih (attempt + 1) folder
          exact ⟨added, is, ⟨uploads.few.trans (Nat.le_succ left), uploads.numbered, uploads.are⟩,
            some'⟩
        | true =>
          have ⟨added, is, uploads, _⟩ := ih (attempt + 1) (folder ++ [file])
          refine ⟨file :: added, ?_, ⟨?_, ?_, ?_⟩, fun _ => List.cons_ne_nil _ _⟩
          · rw [List.append_cons]
            exact is
          · exact Nat.succ_le_succ uploads.few
          · have numbers := uploads.numbered
            rw [List.length_append, List.length_singleton] at numbers
            rw [List.map_cons, numbers, List.length_cons, List.range'_succ]
          · intro other inside
            cases List.mem_cons.mp inside with
            | inl same => exact one.are other (List.mem_singleton.mpr same)
            | inr later => exact uploads.are other later

/-- Trashing is done in any parts. -/
theorem trash_trash (first second : List Nat) (folder : Folder) :
    (folder.trash first).trash second = folder.trash (first ++ second) := by
  unfold Folder.trash
  rw [List.map_map]
  refine List.map_congr_left fun file _ => ?_
  rw [Function.comp_apply]
  by_cases one : file.id ∈ first
  · rw [if_pos one, if_pos (List.mem_append_left second one)]
    split <;> rfl
  · rw [if_neg one]
    by_cases two : file.id ∈ second
    · rw [if_pos two, if_pos (List.mem_append_right first two)]
    · rw [if_neg two, if_neg fun inside => (List.mem_append.mp inside).elim one two]

/-- A file that is trashed again is trashed. -/
theorem trash_again (id : Nat) (folder : Folder) :
    (folder.trash [id]).trash [id] = folder.trash [id] := by
  rw [trash_trash]
  unfold Folder.trash
  refine List.map_congr_left fun file _ => ?_
  simp

/-- A call of `trash` trashes its file, or leaves the folder when it raises. -/
theorem retryFrom_trash (attempts : Nat → Attempt) (id left attempt : Nat) (folder : Folder) :
    let ended := retryFrom "trash" (fun _ => Folder.trash [id]) attempts attempt left folder
    ended.2 = folder.trash [id] ∨ ended.2 = folder ∧ ended.1 ≠ .ok () := by
  induction left generalizing attempt folder with
  | zero =>
    refine Or.inr ⟨rfl, fun ends => ?_⟩
    cases ends
  | succ left ih =>
    intro ended
    simp only [ended]
    unfold retryFrom
    cases attempts attempt with
    | returns => exact Or.inl rfl
    | fails failure done =>
      dsimp only
      cases failure.retries with
      | false =>
        cases done with
        | true => exact Or.inl rfl
        | false =>
          refine Or.inr ⟨rfl, fun ends => ?_⟩
          cases ends
      | true =>
        cases done with
        | false => exact ih (attempt + 1) folder
        | true =>
          have again := ih (attempt + 1) (folder.trash [id])
          rw [trash_again] at again
          cases again with
          | inl is => exact Or.inl is
          | inr is => exact Or.inl is.1

/-- The loop trashes some of its files, and all of them when it returns. -/
theorem trashAll_trashes (olds folder : Folder) :
    ∃ ids, (trashAll run olds folder).2 = folder.trash ids ∧ ids ⊆ olds.map DriveFile.id ∧
      ((trashAll run olds folder).1 = .ok () → olds.map DriveFile.id ⊆ ids) := by
  induction olds generalizing folder with
  | nil =>
    refine ⟨[], ?_, List.nil_subset _, fun _ => List.nil_subset _⟩
    unfold trashAll Folder.trash
    simp
  | cons old rest ih =>
    have one := retryFrom_trash (run.trash old.id) old.id maxRetries 0 folder
    unfold trashAll withRetry
    cases ran : retryFrom "trash" (fun _ => Folder.trash [old.id]) (run.trash old.id) 0 maxRetries
        folder with
    | mk outcome left =>
      rw [ran] at one
      dsimp only at one
      cases outcome with
      | error exception =>
        have more : [old.id] ⊆ (old :: rest).map DriveFile.id := by simp
        cases one with
        | inl is => exact ⟨[old.id], is, more, fun ends => by cases ends⟩
        | inr is =>
          refine ⟨[], ?_, List.nil_subset _, fun ends => by cases ends⟩
          rw [is.1]
          unfold Folder.trash
          simp
      | ok value =>
        have is : left = folder.trash [old.id] := by
          cases one with
          | inl is => exact is
          | inr is => exact absurd rfl is.2
        have ⟨ids, trashed, among, all⟩ := ih left
        refine ⟨old.id :: ids, ?_, ?_, fun ends => ?_⟩
        · dsimp only
          rw [trashed, is, trash_trash]
          rfl
        · exact List.cons_subset_cons _ among
        · exact List.cons_subset_cons _ (all ends)

end Retention

/-- The folder keeps enough of the backups: its files are numbered, and each one that is trashed has
as many that are not and are as late. -/
structure Retained (listing : DriveListing) (retention : Nat) (folder : Folder) : Prop where
  /-- Files are numbered. -/
  numbered : folder.map DriveFile.id = List.range folder.length
  /-- What is trashed is old. -/
  kept : ∀ old ∈ folder, old.trashed = true →
    retention ≤ (folder.filter fun file =>
      listing.isLive file && decide (old.createdTime ≤ file.createdTime)).length

section Keeping

variable {listing : DriveListing} {run : BackupRun} {folder : Folder} {retention : Nat}

/-- Files of one number are one. -/
theorem eq_of_id (numbered : folder.map DriveFile.id = List.range folder.length)
    {first second : DriveFile} (one : first ∈ folder) (two : second ∈ folder)
    (same : first.id = second.id) : first = second := by
  have distinct : (folder.map DriveFile.id).Nodup := by
    rw [numbered]
    exact List.nodup_range
  exact List.inj_on_of_nodup_map distinct one two same

/-- A folder has a file once. -/
theorem nodup_folder (numbered : folder.map DriveFile.id = List.range folder.length) :
    folder.Nodup := by
  apply List.Nodup.of_map DriveFile.id
  rw [numbered]
  exact List.nodup_range

/-- What is listed is live, once, and the latest are first. -/
theorem listBackups_lists (listing : DriveListing)
    (numbered : folder.map DriveFile.id = List.range folder.length) :
    (∀ file ∈ listing.listBackups folder, file ∈ folder ∧ listing.isLive file = true) ∧
      (listing.listBackups folder).Nodup ∧
      (listing.listBackups folder).Pairwise fun first second =>
        second.createdTime ≤ first.createdTime := by
  have page := List.take_sublist 1000 (listing.arrange (folder.filter listing.isLive))
  have perm := listing.perm (folder.filter listing.isLive)
  refine ⟨fun file inside => ?_, ?_, (listing.latest _).sublist page⟩
  · exact List.mem_filter.mp (perm.mem_iff.mp (page.subset inside))
  · exact (perm.nodup_iff.mpr ((nodup_folder numbered).filter _)).sublist page

/-- Trashing leaves the files of other numbers. -/
theorem mem_trash {ids : List Nat} {file : DriveFile} (inside : file ∈ folder)
    (other : file.id ∉ ids) : file ∈ folder.trash ids :=
  List.mem_map.mpr ⟨file, inside, if_neg other⟩

/-- What is in a folder after trashing was there, trashed or not. -/
theorem of_mem_trash {ids : List Nat} {file : DriveFile} (inside : file ∈ folder.trash ids) :
    (file ∈ folder ∧ file.id ∉ ids) ∨
      ∃ old ∈ folder, old.id ∈ ids ∧ file = { old with trashed := true } := by
  have ⟨old, there, is⟩ := List.mem_map.mp inside
  by_cases chosen : old.id ∈ ids
  · rw [if_pos chosen] at is
    exact Or.inr ⟨old, there, chosen, is.symm⟩
  · rw [if_neg chosen] at is
    rw [← is]
    exact Or.inl ⟨there, chosen⟩

/-- Trashing keeps the numbers. -/
theorem numbered_trash (numbered : folder.map DriveFile.id = List.range folder.length)
    (ids : List Nat) :
    (folder.trash ids).map DriveFile.id = List.range (folder.trash ids).length := by
  have same : (folder.trash ids).map DriveFile.id = folder.map DriveFile.id := by
    unfold Folder.trash
    rw [List.map_map]
    refine List.map_congr_left fun file _ => ?_
    rw [Function.comp_apply]
    split <;> rfl
  have length : (folder.trash ids).length = folder.length := List.length_map _
  rw [same, length, numbered]

/-- The first of the listed backups are not among the others, by number. -/
theorem id_of_taken (numbered : folder.map DriveFile.id = List.range folder.length)
    {ids : List Nat}
    (among : ids ⊆ ((listing.listBackups folder).drop retention).map DriveFile.id)
    {file : DriveFile} (taken : file ∈ (listing.listBackups folder).take retention) :
    file.id ∉ ids := by
  intro chosen
  have ⟨listed, distinct, _⟩ := listBackups_lists listing numbered
  have ⟨old, dropped, same⟩ := List.mem_map.mp (among chosen)
  have one := (listed file (List.mem_of_mem_take taken)).1
  have two := (listed old (List.mem_of_mem_drop dropped)).1
  have is := eq_of_id numbered two one same
  rw [is] at dropped
  exact List.disjoint_take_drop distinct (Nat.le_refl retention) taken dropped

/-- Trashing backups beyond the retention leaves as many that are as late as any of them. -/
theorem enough_of_dropped (numbered : folder.map DriveFile.id = List.range folder.length)
    {ids : List Nat}
    (among : ids ⊆ ((listing.listBackups folder).drop retention).map DriveFile.id)
    {old : DriveFile} (dropped : old ∈ (listing.listBackups folder).drop retention) {time : Int}
    (late : time ≤ old.createdTime) :
    retention ≤ ((folder.trash ids).filter fun file =>
      listing.isLive file && decide (time ≤ file.createdTime)).length := by
  have ⟨listed, distinct, latest⟩ := listBackups_lists listing numbered
  have ordered := latest
  rw [← List.take_append_drop retention (listing.listBackups folder)] at ordered
  have later := (List.pairwise_append.mp ordered).2.2
  have many : ((listing.listBackups folder).take retention).length = retention := by
    have some' := List.length_pos_of_mem dropped
    rw [List.length_drop] at some'
    rw [List.length_take]
    omega
  have kept : (listing.listBackups folder).take retention ⊆ (folder.trash ids).filter fun file =>
      listing.isLive file && decide (time ≤ file.createdTime) := by
    intro file taken
    have ⟨there, live⟩ := listed file (List.mem_of_mem_take taken)
    have time := late.trans (later file taken old dropped)
    refine List.mem_filter.mpr ⟨mem_trash there (id_of_taken numbered among taken), ?_⟩
    rw [live, decide_eq_true time]
    rfl
  have fewer := ((distinct.sublist (List.take_sublist _ _)).subperm kept).length_le
  rw [many] at fewer
  exact fewer

/-- Trashing backups beyond the retention keeps enough. -/
theorem retained_trash (retained : Retained listing retention folder) {ids : List Nat}
    (among : ids ⊆ ((listing.listBackups folder).drop retention).map DriveFile.id) :
    Retained listing retention (folder.trash ids) := by
  have numbered := retained.numbered
  have ⟨listed, _, _⟩ := listBackups_lists listing numbered
  have dropped : ∀ file ∈ folder, file.id ∈ ids →
      file ∈ (listing.listBackups folder).drop retention := by
    intro file inside chosen
    have ⟨old, beyond, same⟩ := List.mem_map.mp (among chosen)
    have there := (listed old (List.mem_of_mem_drop beyond)).1
    rw [← eq_of_id numbered there inside same]
    exact beyond
  refine ⟨numbered_trash numbered ids, fun old inside trashed => ?_⟩
  cases of_mem_trash inside with
  | inr chosen =>
    have ⟨file, there, number, is⟩ := chosen
    have late : old.createdTime ≤ file.createdTime := by rw [is]
    exact enough_of_dropped numbered among (dropped file there number) late
  | inl left =>
    have before := retained.kept old left.1 trashed
    by_cases lost : ∃ file ∈ folder, file.id ∈ ids ∧ old.createdTime ≤ file.createdTime
    · have ⟨file, there, number, late⟩ := lost
      exact enough_of_dropped numbered among (dropped file there number) late
    · have kept : (folder.filter fun file =>
          listing.isLive file && decide (old.createdTime ≤ file.createdTime)) ⊆
          (folder.trash ids).filter fun file =>
            listing.isLive file && decide (old.createdTime ≤ file.createdTime) := by
        intro file counted
        have ⟨there, is⟩ := List.mem_filter.mp counted
        have late := of_decide_eq_true (Bool.and_eq_true_iff.mp is).2
        have free : file.id ∉ ids := fun chosen => lost ⟨file, there, chosen, late⟩
        exact List.mem_filter.mpr ⟨mem_trash there free, is⟩
      have fewer := (((nodup_folder numbered).filter _).subperm kept).length_le
      exact before.trans fewer

/-- An upload keeps enough. -/
theorem retained_upload (retained : Retained listing retention folder) {envelope : Bytes}
    {limit : Nat} {added : Folder} (uploads : Uploads listing run envelope folder limit added) :
    Retained listing retention (folder ++ added) := by
  constructor
  case numbered =>
    rw [List.map_append, retained.numbered, uploads.numbered, List.length_append,
      List.range_eq_range', List.range_eq_range', ← List.range'_append_1, Nat.zero_add]
  case kept =>
    intro old inside trashed
    cases List.mem_append.mp inside with
    | inl there =>
      rw [List.filter_append, List.length_append]
      exact (retained.kept old there trashed).trans (Nat.le_add_right _ _)
    | inr new =>
      have plain := (uploads.are old new).2.2.1
      rw [trashed] at plain
      cases plain

end Keeping

section Runs

variable {listing : DriveListing} {retention : Nat}

/-- What a delivery leaves: an upload, and backups trashed beyond the retention, all of them when it
returns. -/
theorem deliver_leaves (run : BackupRun) (envelope : Bytes) (folder : Folder) :
    ∃ added ids, Uploads listing run envelope folder maxRetries added ∧
      (deliver listing retention run envelope folder).2 = (folder ++ added).trash ids ∧
      ids ⊆ ((listing.listBackups (folder ++ added)).drop retention).map DriveFile.id ∧
      ((deliver listing retention run envelope folder).1 = .ok 0 → added ≠ [] ∧
        ((listing.listBackups (folder ++ added)).drop retention).map DriveFile.id ⊆ ids) := by
  have untouched : ∀ folder : Folder, folder = folder.trash [] := by
    intro folder
    unfold Folder.trash
    simp
  have ⟨added, stored, uploads, some'⟩ :=
    @retryFrom_upload listing run envelope maxRetries 0 folder
  have listed := @retryFrom_list (folder ++ added) run.list maxRetries 0
  have dropped : ∀ existing : Folder, beyond retention existing = existing.drop retention := by
    intro existing
    unfold beyond
    rw [if_pos (Int.natCast_nonneg retention), Int.toNat_natCast]
  unfold deliver withRetry
  cases sent : retryFrom "upload" (run.add listing envelope) run.upload 0 maxRetries folder with
  | mk outcome left =>
    rw [sent] at stored some'
    dsimp only at stored some'
    cases outcome with
    | error exception =>
      refine ⟨added, [], uploads, ?_, List.nil_subset _, fun ends => by cases ends⟩
      dsimp only
      rw [stored]
      exact untouched _
    | ok value =>
      dsimp only
      rw [stored]
      cases read : retryFrom "list" (fun _ folder => folder) run.list 0 maxRetries
          (folder ++ added) with
      | mk outcome left =>
        rw [read] at listed
        dsimp only at listed
        cases outcome with
        | error exception =>
          refine ⟨added, [], uploads, ?_, List.nil_subset _, fun ends => by cases ends⟩
          dsimp only
          rw [listed]
          exact untouched _
        | ok value =>
          dsimp only
          rw [listed, dropped]
          have ⟨ids, trashed, among, all⟩ := @trashAll_trashes run
            ((listing.listBackups (folder ++ added)).drop retention) (folder ++ added)
          refine ⟨added, ids, uploads, ?_, among, fun ends => ⟨some' rfl, ?_⟩⟩
          · cases ran : trashAll run ((listing.listBackups (folder ++ added)).drop retention)
                (folder ++ added) with
            | mk outcome left =>
              rw [ran] at trashed
              cases outcome <;> exact trashed
          · apply all
            cases ran : trashAll run ((listing.listBackups (folder ++ added)).drop retention)
                (folder ++ added) with
            | mk outcome left =>
              rw [ran] at ends
              cases outcome with
              | error exception => cases ends
              | ok value => rfl

/-- A run either leaves the folder, or delivers an envelope. -/
theorem runBackup_cases (aead : Aead) (run : BackupRun) (folder : Folder) :
    ((runBackup aead listing retention run folder).2 = folder ∧
        (runBackup aead listing retention run folder).1 ≠ .ok 0) ∨
      ∃ key plaintext, run.key = .ok key ∧ run.tarball = .ok plaintext ∧
        runBackup aead listing retention run folder =
          deliver listing retention run (encryptStream aead run.nonce plaintext key) folder := by
  unfold runBackup
  by_cases closed : run.configured = false
  · rw [if_pos closed]
    refine Or.inl ⟨rfl, fun ends => ?_⟩
    have codes := Except.ok.inj ends
    omega
  · rw [if_neg closed]
    cases run.key with
    | error exception => exact Or.inl ⟨rfl, fun ends => by cases ends⟩
    | ok key =>
      cases run.tarball with
      | error exception => exact Or.inl ⟨rfl, fun ends => by cases ends⟩
      | ok plaintext =>
        cases run.connect with
        | error exception => exact Or.inl ⟨rfl, fun ends => by cases ends⟩
        | ok value => exact Or.inr ⟨key, plaintext, rfl, rfl, rfl⟩

/-- A run keeps enough. -/
theorem retained_runBackup (aead : Aead) {folder : Folder}
    (retained : Retained listing retention folder) (run : BackupRun) :
    Retained listing retention (runBackup aead listing retention run folder).2 := by
  cases runBackup_cases aead run folder with
  | inl left =>
    rw [left.1]
    exact retained
  | inr delivered =>
    have ⟨key, plaintext, _, _, is⟩ := delivered
    have ⟨added, ids, uploads, leaves, among, _⟩ := @deliver_leaves listing retention run
      (encryptStream aead run.nonce plaintext key) folder
    rw [is, leaves]
    exact retained_trash (retained_upload retained uploads) among

/-- Runs keep enough, from a folder that does. -/
theorem retained_runs (aead : Aead) {folder : Folder}
    (retained : Retained listing retention folder) (runs : List BackupRun) :
    Retained listing retention
      (runs.foldl (fun folder run => (runBackup aead listing retention run folder).2) folder) := by
  induction runs generalizing folder with
  | nil => exact retained
  | cons run rest ih => exact ih (retained_runBackup aead retained run)

/-- When all live backups were listed and those beyond the retention are trashed, only the first are
live. -/
theorem live_of_trashed {folder : Folder} {ids : List Nat}
    (page : (folder.filter listing.isLive).length ≤ 1000)
    (all : ((listing.listBackups folder).drop retention).map DriveFile.id ⊆ ids)
    {file : DriveFile} (live : file ∈ (folder.trash ids).filter listing.isLive) :
    file ∈ (listing.listBackups folder).take retention := by
  have ⟨inside, is⟩ := List.mem_filter.mp live
  have perm := listing.perm (folder.filter listing.isLive)
  cases of_mem_trash inside with
  | inr chosen =>
    have ⟨old, _, _, same⟩ := chosen
    rw [same] at is
    unfold DriveListing.isLive at is
    simp at is
  | inl left =>
    have listed : file ∈ listing.listBackups folder := by
      unfold DriveListing.listBackups
      rw [List.take_of_length_le (perm.length_eq.trans_le page)]
      exact perm.mem_iff.mpr (List.mem_filter.mpr ⟨left.1, is⟩)
    rw [← List.take_append_drop retention (listing.listBackups folder)] at listed
    cases List.mem_append.mp listed with
    | inl taken => exact taken
    | inr dropped => exact absurd (all (List.mem_map_of_mem dropped)) left.2

/-- When the uploads are later than what was there, one of them is retained. -/
theorem exists_first_upload {folder added : Folder} {run : BackupRun} {envelope : Bytes}
    {limit : Nat}
    (numbered : (folder ++ added).map DriveFile.id = List.range (folder ++ added).length)
    (page : ((folder ++ added).filter listing.isLive).length ≤ 1000)
    (uploads : Uploads listing run envelope folder limit added) (some' : added ≠ [])
    (positive : 0 < retention)
    (newer : ∀ file ∈ folder, ∀ attempt, file.createdTime < run.createdTime attempt) :
    ∃ file ∈ added, file ∈ (listing.listBackups (folder ++ added)).take retention := by
  have ⟨one, new⟩ := List.exists_mem_of_ne_nil added some'
  have ⟨named, _, plain, attempt, created⟩ := uploads.are one new
  have live : listing.isLive one = true := by
    unfold DriveListing.isLive
    rw [named, plain, BackupRun.name, listing.own]
    rfl
  have perm := listing.perm ((folder ++ added).filter listing.isLive)
  have listed : one ∈ listing.listBackups (folder ++ added) := by
    unfold DriveListing.listBackups
    rw [List.take_of_length_le (perm.length_eq.trans_le page)]
    exact perm.mem_iff.mpr (List.mem_filter.mpr ⟨List.mem_append_right folder new, live⟩)
  have ⟨are, _, latest⟩ := listBackups_lists listing numbered
  cases existing : listing.listBackups (folder ++ added) with
  | nil =>
    rw [existing] at listed
    cases listed
  | cons head rest =>
    rw [existing] at listed are latest
    have first : head ∈ (head :: rest).take retention := by
      cases retention with
      | zero => omega
      | succ left => exact List.mem_cons_self
    have late : one.createdTime ≤ head.createdTime := by
      cases List.mem_cons.mp listed with
      | inl same => rw [same]
      | inr later => exact (List.pairwise_cons.mp latest).1 one later
    cases List.mem_append.mp (are head List.mem_cons_self).1 with
    | inr uploaded => exact ⟨head, uploaded, first⟩
    | inl old =>
      have earlier := newer head old attempt
      omega

/-- However runs of `run_backup` end, and whatever their calls of Drive come to, a backup is only in
the trash while as many others as are to be retained are not and are as late. A run that returns
leaves no more than are to be retained, as long as they are on one page; and one of those is its own
envelope, when its uploads are later than what was there. -/
theorem backups_retained (aead : Aead) (listing : DriveListing) (retention : Nat)
    (runs : List BackupRun) :
    let folder := runs.foldl (fun folder run => (runBackup aead listing retention run folder).2) []
    (∀ old ∈ folder, old.trashed = true →
      retention ≤ (folder.filter fun file =>
        listing.isLive file && decide (old.createdTime ≤ file.createdTime)).length) ∧
    ∀ run : BackupRun, (runBackup aead listing retention run folder).1 = .ok 0 →
      (folder.filter listing.isLive).length ≤ 995 →
        let after := (runBackup aead listing retention run folder).2.filter listing.isLive
        after.length ≤ retention ∧
        (0 < retention →
          (∀ file ∈ folder, ∀ attempt, file.createdTime < run.createdTime attempt) →
            ∃ file ∈ after, file.name = run.name listing ∧ ∃ key plaintext,
              run.key = .ok key ∧ run.tarball = .ok plaintext ∧
                file.content = encryptStream aead run.nonce plaintext key) := by
  intro folder
  have start : Retained listing retention ([] : Folder) :=
    ⟨rfl, fun old inside => absurd inside List.not_mem_nil⟩
  have retained : Retained listing retention folder := retained_runs aead start runs
  refine ⟨retained.kept, ?_⟩
  intro run returned page after
  cases runBackup_cases aead run folder with
  | inl left => exact absurd returned left.2
  | inr delivered =>
    have ⟨key, plaintext, hasKey, hasTarball, is⟩ := delivered
    have ⟨added, ids, uploads, leaves, among, ends⟩ := @deliver_leaves listing retention run
      (encryptStream aead run.nonce plaintext key) folder
    rw [is] at returned
    have ⟨some', all⟩ := ends returned
    have stored := retained_upload retained uploads
    have numbered := stored.numbered
    have left : (runBackup aead listing retention run folder).2 = (folder ++ added).trash ids := by
      rw [is, leaves]
    have full : ((folder ++ added).filter listing.isLive).length ≤ 1000 := by
      have few := uploads.few
      have fewer := List.length_filter_le listing.isLive added
      unfold maxRetries at few
      rw [List.filter_append, List.length_append]
      omega
    have taken : after ⊆ (listing.listBackups (folder ++ added)).take retention := by
      intro file live
      simp only [after] at live
      rw [left] at live
      exact live_of_trashed full all live
    have distinct : after.Nodup := by
      simp only [after]
      rw [left]
      exact (nodup_folder (numbered_trash numbered ids)).filter _
    refine ⟨?_, fun positive newer => ?_⟩
    · have fewer := (distinct.subperm taken).length_le
      have most := List.length_take_le retention (listing.listBackups (folder ++ added))
      omega
    · have ⟨file, new, first⟩ := @exists_first_upload listing retention _ _ run _ _ numbered full
        uploads some' positive newer
      have ⟨named, content, _⟩ := uploads.are file new
      have there := (listBackups_lists listing numbered).1 file (List.mem_of_mem_take first)
      have live : file ∈ after := by
        simp only [after]
        rw [left]
        exact List.mem_filter.mpr
          ⟨mem_trash there.1 (id_of_taken numbered among first), there.2⟩
      exact ⟨file, live, named, key, plaintext, hasKey, hasTarball, content⟩

/-- A listing of a folder that has backups only. -/
def plainListing : DriveListing where
  hasName _ := true
  namePrefix := "velaflow-backup-"
  own _ := rfl
  arrange := List.insertionSort fun first second => second.createdTime ≤ first.createdTime
  perm := List.perm_insertionSort _
  latest := List.pairwise_insertionSort (fun first second : DriveFile =>
    second.createdTime ≤ first.createdTime)

/-- A run whose calls return. -/
def nightly (stamp : String) (time : Int) : BackupRun where
  configured := true
  key := .ok []
  tarball := .ok []
  nonce := []
  stamp
  connect := .ok ()
  upload _ := .returns
  createdTime _ := time
  list _ := .returns
  trash _ _ := .returns

/-- A cipher that hides nothing. -/
def plainAead : Aead := ⟨fun _ _ plaintext _ => plaintext, fun _ _ ciphertext _ => some ciphertext⟩

/-- The rule for two nights of which one is retained. -/
theorem backups_retained_nightly :
    let folder := (runBackup plainAead plainListing 1 (nightly "1" 1) []).2
    let after := (runBackup plainAead plainListing 1 (nightly "2" 2) folder).2
    after.length = 2 ∧ (after.filter plainListing.isLive).length ≤ 1 ∧
      ∃ file ∈ after.filter plainListing.isLive, file.name = (nightly "2" 2).name plainListing := by
  intro folder after
  have ⟨_, next⟩ := backups_retained plainAead plainListing 1 [nightly "1" 1]
  have returned : (runBackup plainAead plainListing 1 (nightly "2" 2) folder).1 = .ok 0 := rfl
  have page : (folder.filter plainListing.isLive).length ≤ 995 := by decide
  have newer : ∀ file ∈ folder, ∀ attempt,
      file.createdTime < (nightly "2" 2).createdTime attempt := by
    intro file inside attempt
    rw [List.mem_singleton.mp inside]
    show (1 : Int) < 2
    omega
  have ⟨few, own⟩ := next (nightly "2" 2) returned page
  have ⟨file, live, named, _⟩ := own Nat.one_pos newer
  exact ⟨rfl, few, file, live, named⟩

end Runs

end VelaFlow.Backup
