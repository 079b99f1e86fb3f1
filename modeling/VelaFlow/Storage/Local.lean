import Mathlib.Data.Char
import Mathlib.Data.List.Lex
import Mathlib.Data.List.DropRight
import Mathlib.Data.List.Sort
import Mathlib.Data.List.Nodup
import VelaFlow.Foundation.Json
import VelaFlow.Storage.Path

/-!
# Local storage

`LocalStorageBackend` of `storage/local.py` for JSON documents: the files below the base
directory, by path. A write replaces a whole document at once. The disk itself does not fail,
and no name is both a file and a directory.
-/
namespace VelaFlow.Storage

/-- The files below the base directory. -/
structure LocalStorage where
  /-- Each file with the object it holds. -/
  files : List (Path × Dict)
  /-- A path names one file. -/
  distinct : (files.map Prod.fst).Nodup

namespace LocalStorage

/-- An empty base directory. -/
def empty : LocalStorage := ⟨[], List.nodup_nil⟩

/-- The object a file holds, when there is the file. -/
def lookup (storage : LocalStorage) (path : Path) : Option Dict :=
  (storage.files.find? fun file => decide (file.1 = path)).map Prod.snd

/-- Removes a file. -/
def remove (storage : LocalStorage) (path : Path) : LocalStorage where
  files := storage.files.filter fun file => decide (file.1 ≠ path)
  distinct := storage.distinct.sublist (List.filter_sublist.map Prod.fst)

/-- Puts an object in a file, replacing what it held. -/
def put (storage : LocalStorage) (path : Path) (data : Dict) : LocalStorage where
  files := (path, data) :: (storage.remove path).files
  distinct := by
    rw [List.map_cons, List.nodup_cons]
    refine ⟨?_, (storage.remove path).distinct⟩
    rintro member
    obtain ⟨file, kept, same⟩ := List.mem_map.mp member
    exact of_decide_eq_true (List.mem_filter.mp kept).2 same

/-- Whether a file is below a directory. -/
def below (directory path : Path) : Bool :=
  directory.parts.isPrefixOf path.parts && decide (directory.parts ≠ path.parts)

/-- Whether `rglob("*.json")` matches the name of a file. -/
def isJson (path : Path) : Bool :=
  match path.parts.getLast? with
  | none => false
  | some name => ".json".toList.isSuffixOf name

/-- Paths in the order of `sorted`, which compares their parts. -/
def sorted (paths : List Path) : List Path :=
  paths.mergeSort fun first second => decide (first.parts ≤ second.parts)

/-- `read_json`. -/
def readJson (storage : LocalStorage) (key : String) : Except PyException (Option Dict) :=
  (resolve key).map storage.lookup

/-- `write_json`. -/
def writeJson (storage : LocalStorage) (key : String) (data : Dict) : Except PyException LocalStorage :=
  (resolve key).map fun path => storage.put path data

/-- `delete`. -/
def delete (storage : LocalStorage) (key : String) : Except PyException (Bool × LocalStorage) :=
  (resolve key).map fun path => ((storage.lookup path).isSome, storage.remove path)

/-- The paths of the files in a directory and below, as `rglob("*.json")` finds them. -/
def rglob (storage : LocalStorage) (directory : Path) : List Path :=
  sorted ((storage.files.map Prod.fst).filter fun path => below directory path && isJson path)

/-- The directory a path is in. -/
def parent (path : Path) : Path where
  parts := path.parts.dropLast
  areParts part member := path.areParts part (List.dropLast_subset _ member)

/-- `list_keys`: what is below a directory, or beside a file and shares its name's beginning. -/
def listKeys (storage : LocalStorage) (keyPrefix : String) : Except PyException (List String) :=
  (resolve keyPrefix).map fun base =>
    if (storage.files.map Prod.fst).any (below base) then (storage.rglob base).map Path.toKey
    else if (storage.lookup base).isSome then
      ((storage.rglob (parent base)).map Path.toKey).filter fun key =>
        (keyPrefix.toList.rdropWhile (· = '/')).isPrefixOf key.toList
    else []

/-- A file that was just written holds what was written. -/
@[simp] theorem lookup_put_self (storage : LocalStorage) (path : Path) (data : Dict) :
    (storage.put path data).lookup path = some data := by
  simp [lookup, put]

/-- Removing a file leaves every other file. -/
theorem lookup_remove_ne (storage : LocalStorage) {path other : Path} (ne : other ≠ path) :
    (storage.remove path).lookup other = storage.lookup other := by
  unfold lookup remove
  rw [List.find?_filter]
  congr 1
  congr 1
  funext file
  by_cases same : file.1 = other
  · simp [same, ne]
  · simp [same]

/-- Writing a file leaves every other file. -/
theorem lookup_put_ne (storage : LocalStorage) {path other : Path} (data : Dict) (ne : other ≠ path) :
    (storage.put path data).lookup other = storage.lookup other := by
  rw [← storage.lookup_remove_ne ne]
  unfold lookup put
  rw [List.find?_cons_of_neg]
  simpa using Ne.symm ne

/-- A removed file is gone. -/
@[simp] theorem lookup_remove_self (storage : LocalStorage) (path : Path) :
    (storage.remove path).lookup path = none := by
  unfold lookup remove
  rw [Option.map_eq_none_iff, List.find?_eq_none]
  intro file member
  simpa using (List.mem_filter.mp member).2

/-- A file holds what its entry says. -/
theorem lookup_eq_some_iff {storage : LocalStorage} {path : Path} {data : Dict} :
    storage.lookup path = some data ↔ (path, data) ∈ storage.files := by
  unfold lookup
  constructor
  · intro found
    obtain ⟨⟨other, held⟩, first, rfl⟩ := Option.map_eq_some_iff.mp found
    obtain rfl : other = path := by simpa using List.find?_some first
    exact List.mem_of_find?_eq_some first
  · intro member
    cases first : storage.files.find? fun file => decide (file.1 = path) with
    | none =>
      have absent := List.find?_eq_none.mp first (path, data) member
      simp at absent
    | some file =>
      obtain ⟨other, held⟩ := file
      obtain rfl : other = path := by simpa using List.find?_some first
      have inside := List.mem_of_find?_eq_some first
      have same := List.inj_on_of_nodup_map storage.distinct inside member rfl
      simpa using congrArg Prod.snd same

/-- The paths of the files. -/
def paths (storage : LocalStorage) : List Path := storage.files.map Prod.fst

/-- A path is listed when there is a file. -/
theorem mem_paths_iff {storage : LocalStorage} {path : Path} :
    path ∈ storage.paths ↔ ∃ data, storage.lookup path = some data := by
  unfold paths
  rw [List.mem_map]
  constructor
  · rintro ⟨⟨_, data⟩, member, rfl⟩
    exact ⟨data, lookup_eq_some_iff.mpr member⟩
  · rintro ⟨data, found⟩
    exact ⟨(path, data), lookup_eq_some_iff.mp found, rfl⟩

/-- Sorting paths permutes them. -/
theorem sorted_perm (paths : List Path) : (sorted paths).Perm paths := List.mergeSort_perm _ _

/-- What `rglob` finds, up to order. -/
theorem rglob_perm (storage : LocalStorage) (directory : Path) :
    (storage.rglob directory).Perm
      (storage.paths.filter fun path => below directory path && isJson path) := sorted_perm _

/-- Listing a directory gives the keys of the files below it. -/
theorem listKeys_directory {storage : LocalStorage} {keyPrefix : String} {base : Path}
    (resolved : resolve keyPrefix = .ok base) (notFile : storage.lookup base = none) :
    storage.listKeys keyPrefix = .ok ((storage.rglob base).map Path.toKey) := by
  unfold listKeys
  rw [resolved]
  simp only [Except.map, notFile, Option.isSome_none, Bool.false_eq_true, if_false]
  split
  case isTrue => rfl
  case isFalse nothing =>
    have none : (storage.files.map Prod.fst).filter
        (fun path => below base path && isJson path) = [] := by
      rw [List.filter_eq_nil_iff]
      intro path member listed
      apply nothing
      rw [List.any_eq_true]
      exact ⟨path, member, (Bool.and_eq_true_iff.mp listed).1⟩
    simp only [rglob, none, sorted, List.mergeSort_nil, List.map_nil]

end LocalStorage

end VelaFlow.Storage
