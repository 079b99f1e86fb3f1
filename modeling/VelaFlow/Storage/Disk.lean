import VelaFlow.Foundation.KeyValue
import VelaFlow.Storage.Containment
import VelaFlow.Storage.Local

/-!
# The local storage on a disk with directories

`LocalStorageBackend` of `storage/local.py` for JSON documents and texts. A write makes the
directories of its file, which stay when the file is deleted, and goes through a temporary file, so
it fails where a directory has the name of that file. A text is read with its line ends turned to
line feeds. A listing finds every name that ends in `.json`, of files and of directories.
-/
namespace VelaFlow.Storage

/-- What a file holds, by the method that wrote it. -/
inductive Content where
  /-- Of `write_json`. -/
  | json (data : Dict)
  /-- Of `write_text`. -/
  | text (text : List Char)

/-- Why a method raises. -/
inductive DiskError where
  /-- `_resolve` refuses the key. -/
  | key (exception : PyException)
  /-- A file is where a directory is to be. -/
  | notDirectory (path : Path)
  /-- A directory is where a file is to be. -/
  | isDirectory (path : Path)
  /-- The text of a file is no JSON. -/
  | notJson

/-- The text that `json.dump` writes, and the value that `json.load` reads. -/
structure JsonFiles where
  /-- `json.dump`, indented. -/
  dump : Dict → List Char
  /-- `json.load`; `none` is a `JSONDecodeError`. -/
  load : List Char → Option Json

/-- Reading in text mode: each line end becomes a line feed. -/
def newlines : List Char → List Char
  | [] => []
  | first :: rest =>
    if first = '\r' then
      match rest with
      | '\n' :: others => '\n' :: newlines others
      | others => '\n' :: newlines others
    else first :: newlines rest

/-- No carriage return is read in text mode. -/
theorem not_mem_newlines (text : List Char) : '\r' ∉ newlines text := by
  fun_induction newlines text with
  | case1 => exact List.not_mem_nil
  | case2 others ih => exact fun read => (List.mem_cons.mp read).elim (by decide) ih
  | case3 rest _ ih => exact fun read => (List.mem_cons.mp read).elim (by decide) ih
  | case4 first rest other ih =>
    exact fun read => (List.mem_cons.mp read).elim (fun same => other same.symm) ih

/-- Reading in text mode returns a text exactly when it has no carriage return. -/
theorem newlines_eq_self_iff {text : List Char} : newlines text = text ↔ '\r' ∉ text := by
  constructor
  · intro same
    rw [← same]
    exact not_mem_newlines text
  · intro plain
    induction text with
    | nil => rfl
    | cons first rest ih =>
      rw [List.mem_cons, not_or] at plain
      unfold newlines
      rw [if_neg (Ne.symm plain.1), ih plain.2]

/-- The first parts of a path. -/
def Path.take (path : Path) (count : Nat) : Path where
  parts := path.parts.take count
  areParts part member := path.areParts part (List.mem_of_mem_take member)

/-- The directories that a path is in, the base directory first. -/
def ancestors (path : Path) : List Path := (List.range path.parts.length).map path.take

/-- A stem with the new suffix can be a part of a path. -/
theorem isPart_tmp {name : List Char} (part : IsPart name) :
    IsPart (stem name ++ ".tmp".toList) := by
  have file : IsFileName (stem name ++ ".tmp".toList) :=
    isFileName_tmp ⟨name, part.1, part.2.1, part.2.2.1, part.2.2.2.1⟩
  refine ⟨file.1, file.2.1, file.2.2.1, file.2.2.2, ?_⟩
  rw [List.mem_append]
  intro backslash
  cases backslash with
  | inl inside => exact part.2.2.2.2 (mem_of_mem_stem inside)
  | inr suffix => exact absurd suffix (by decide)

/-- The name that a write goes through, where the path has a name. -/
def tmpParts (parts : List (List Char)) : List (List Char) :=
  match parts.getLast? with
  | none => []
  | some name => parts.dropLast ++ [stem name ++ ".tmp".toList]

/-- What a write goes through is a path. -/
theorem areParts_tmpParts {parts : List (List Char)} (are : ∀ part ∈ parts, IsPart part) :
    ∀ part ∈ tmpParts parts, IsPart part := by
  unfold tmpParts
  intro part member
  split at member
  · cases member
  · next name last =>
    rw [List.mem_append, List.mem_singleton] at member
    cases member with
    | inl inside => exact are part (List.dropLast_subset _ inside)
    | inr is =>
      rw [is]
      exact isPart_tmp (are name (List.mem_of_getLast? last))

/-- `path.with_suffix(".tmp")`. -/
def Path.tmp (path : Path) : Path := ⟨tmpParts path.parts, areParts_tmpParts path.areParts⟩

/-- What is below the base directory. -/
structure Disk where
  /-- The files. -/
  files : List Path
  /-- What each file holds. -/
  content : KeyMap Path Content
  /-- The directories. -/
  directories : List Path
  /-- A path names one file. -/
  distinct : files.Nodup
  /-- The files are what holds something. -/
  held : ∀ path, path ∈ files ↔ (content path).isSome = true

namespace Disk

/-- No path holds anything. -/
theorem held_empty (path : Path) :
    path ∈ ([] : List Path) ↔ ((KeyMap.empty : KeyMap Path Content) path).isSome = true :=
  iff_of_false List.not_mem_nil Bool.false_ne_true

/-- An empty base directory. -/
def empty : Disk := ⟨[], .empty, [], List.nodup_nil, held_empty⟩

variable (disk : Disk)

/-- `path.is_file()`. -/
def isFile (path : Path) : Bool := (disk.content path).isSome

/-- `path.is_dir()`. -/
def isDirectory (path : Path) : Bool :=
  decide (path.parts = []) || decide (path ∈ disk.directories)

/-- The paths that hold something once a file is removed. -/
theorem held_erase (removed path : Path) :
    path ∈ disk.files.erase removed ↔ (disk.content.erase removed path).isSome = true := by
  rw [disk.distinct.mem_erase_iff, disk.held]
  unfold KeyMap.erase
  by_cases same : path = removed
  · simp [same]
  · simp [same]

/-- The paths that hold something once a file is put. -/
theorem held_put (written : Path) (content : Content) (path : Path) :
    path ∈ written :: disk.files.erase written ↔
      (disk.content.put written content path).isSome = true := by
  rw [List.mem_cons, disk.held_erase]
  unfold KeyMap.erase KeyMap.put
  by_cases same : path = written
  · simp [same]
  · simp [same]

/-- The files once one is put are different. -/
theorem distinct_put (written : Path) : (written :: disk.files.erase written).Nodup := by
  rw [List.nodup_cons, disk.distinct.mem_erase_iff]
  exact ⟨fun both => both.1 rfl, disk.distinct.erase written⟩

/-- Removes a file. -/
def remove (path : Path) : Disk :=
  ⟨disk.files.erase path, disk.content.erase path, disk.directories, disk.distinct.erase path,
    disk.held_erase path⟩

/-- Puts a file, in the place of one that is there. -/
def put (path : Path) (content : Content) : Disk :=
  ⟨path :: disk.files.erase path, disk.content.put path content, disk.directories,
    disk.distinct_put path, disk.held_put path content⟩

/-- `path.parent.mkdir(parents=True, exist_ok=True)`, where no file is in the way. -/
def makeDirectories (path : Path) : Disk :=
  { disk with directories := disk.directories ∪ ancestors path }

/-- Writing a file, from the directories it needs to the replacement by the temporary file. -/
def write (path : Path) (content : Content) : Except DiskError Unit × Disk :=
  match (ancestors path).find? disk.isFile with
  | some outer => (.error (.notDirectory outer), disk)
  | none =>
    let made := disk.makeDirectories path
    if made.isDirectory path.tmp then (.error (.isDirectory path.tmp), made)
    else if made.isDirectory path then (.error (.isDirectory path), made.remove path.tmp)
    else (.ok (), (made.remove path.tmp).put path content)

/-- A method on the path of a key. -/
def atKey {α : Type} (key : String) (method : Path → Except DiskError α) : Except DiskError α :=
  match resolve key with
  | .error exception => .error (.key exception)
  | .ok path => method path

/-- A method on the path of a key that changes the disk. -/
def changeAt {α : Type} (key : String) (method : Path → Except DiskError α × Disk) :
    Except DiskError α × Disk :=
  match resolve key with
  | .error exception => (.error (.key exception), disk)
  | .ok path => method path

/-- `write_json`. -/
def writeJson (key : String) (data : Dict) : Except DiskError Unit × Disk :=
  disk.changeAt key fun path => disk.write path (.json data)

/-- `write_text`. -/
def writeText (key : String) (text : List Char) : Except DiskError Unit × Disk :=
  disk.changeAt key fun path => disk.write path (.text text)

/-- `delete`. -/
def delete (key : String) : Except DiskError Bool × Disk :=
  disk.changeAt key fun path =>
    if disk.isFile path then (.ok true, disk.remove path) else (.ok false, disk)

/-- `exists`. -/
def exists' (key : String) : Except DiskError Bool := atKey key fun path => .ok (disk.isFile path)

/-- The value that `json.load` reads of a file. -/
def loadJson (json : JsonFiles) : Content → Except DiskError Json
  | .json data => .ok (.obj data)
  | .text text =>
    match json.load (newlines text) with
    | some value => .ok value
    | none => .error .notJson

/-- The text that is read of a file. -/
def loadText (json : JsonFiles) : Content → List Char
  | .json data => json.dump data
  | .text text => newlines text

/-- `read_json`. -/
def readJson (json : JsonFiles) (key : String) : Except DiskError (Option Json) :=
  atKey key fun path =>
    match disk.content path with
    | none => .ok none
    | some content => (loadJson json content).map some

/-- `read_text`. -/
def readText (json : JsonFiles) (key : String) : Except DiskError (Option (List Char)) :=
  atKey key fun path => .ok ((disk.content path).map (loadText json))

/-- `sorted(directory.rglob("*.json"))`. -/
def rglob (directory : Path) : List Path :=
  LocalStorage.sorted ((disk.files ++ disk.directories).filter fun path =>
    LocalStorage.below directory path && LocalStorage.isJson path)

/-- `list_keys`. -/
def listKeys (keyPrefix : String) : Except DiskError (List String) :=
  atKey keyPrefix fun base =>
    if disk.isDirectory base then .ok ((disk.rglob base).map Path.toKey)
    else if disk.isFile base then
      .ok (((disk.rglob (LocalStorage.parent base)).map Path.toKey).filter fun key =>
        (keyPrefix.toList.rdropWhile (· = '/')).isPrefixOf key.toList)
    else .ok []

end Disk

end VelaFlow.Storage
