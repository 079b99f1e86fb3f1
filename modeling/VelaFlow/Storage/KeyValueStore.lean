import Mathlib.Data.List.Nodup
import Mathlib.Data.String.Basic
import VelaFlow.Foundation.Machine
import VelaFlow.Storage.Disk

/-!
# The local storage as a key-value map

`StorageBackend` promises the documents that were last written and the sorted keys that start with a
prefix. `LocalStorageBackend` keeps that promise in a run exactly when no write finds a directory
where its temporary file goes, no text that is read back has a carriage return, and each listing is
of the keys of a directory, or of those beside a key, that all end in `.json` and have the same order
as texts and part by part.
-/
namespace VelaFlow.Storage

open LocalStorage (below isJson)

/-- The keys that a store is used with, as paths. -/
structure KeySet where
  /-- What a key is. -/
  has : Path → Prop
  /-- The base directory is no key. -/
  named : ∀ path, has path → path.parts ≠ []
  /-- No key ends in `.tmp`. -/
  lasting : ∀ path, has path → ∀ name ∈ path.parts.getLast?, ¬ ".tmp".toList <:+ name
  /-- No key is in another. -/
  apart : ∀ one other, has one → has other → below one other = false

/-- A call of the backend. -/
inductive StoreCall where
  /-- `write_json`. -/
  | writeJson (key : String) (data : Dict)
  /-- `write_text`. -/
  | writeText (key : String) (text : List Char)
  /-- `delete`. -/
  | delete (key : String)
  /-- `read_json`. -/
  | readJson (key : String)
  /-- `read_text`. -/
  | readText (key : String)
  /-- `exists`. -/
  | isThere (key : String)
  /-- `list_keys`. -/
  | listKeys (keyPrefix : String)

/-- The disk, and the map it stands for. -/
structure Store where
  /-- The disk. -/
  disk : Disk
  /-- What was last written under each key and not deleted since. -/
  map : KeyMap String Content

/-- A key as a listing gives it. -/
def listedKey (key : String) : String :=
  match resolve key with
  | .ok path => path.toKey
  | .error _ => key

/-- A call with its effect on the disk and on the map. -/
def Store.step (store : Store) : StoreCall → Option Store
  | .writeJson key data =>
    some ⟨(store.disk.writeJson key data).2, store.map.put (listedKey key) (.json data)⟩
  | .writeText key text =>
    some ⟨(store.disk.writeText key text).2, store.map.put (listedKey key) (.text text)⟩
  | .delete key => some ⟨(store.disk.delete key).2, store.map.erase (listedKey key)⟩
  | .readJson _ | .readText _ | .isThere _ | .listKeys _ => some store

/-- An empty store. -/
def Store.empty : Store := ⟨.empty, .empty⟩

/-- The result of a call is that of the map. -/
def StoreCall.Right (json : JsonFiles) (store : Store) : StoreCall → Prop
  | .writeJson key data => (store.disk.writeJson key data).1 = .ok ()
  | .writeText key text => (store.disk.writeText key text).1 = .ok ()
  | .delete key => (store.disk.delete key).1 = .ok (store.map (listedKey key)).isSome
  | .readJson key =>
    match store.map (listedKey key) with
    | none => store.disk.readJson json key = .ok none
    | some (.json data) => store.disk.readJson json key = .ok (some (.obj data))
    | some (.text _) => True
  | .readText key =>
    match store.map (listedKey key) with
    | none => store.disk.readText json key = .ok none
    | some (.text text) => store.disk.readText json key = .ok (some text)
    | some (.json _) => True
  | .isThere key => store.disk.exists' key = .ok (store.map (listedKey key)).isSome
  | .listKeys keyPrefix => ∃ listed, store.disk.listKeys keyPrefix = .ok listed ∧
      store.map.Lists (fun key => keyPrefix.toList <+: key.toList) listed

/-- A relative key. -/
def Relative (key : String) : Prop := ¬ ['/'] <+: forwardSlashes key

/-- A text is one of the keys. -/
def KeySet.Spells (keys : KeySet) (key : String) : Prop :=
  Relative key ∧ ∃ path, resolve key = .ok path ∧ keys.has path

/-- A prefix names a path: it is what a listing gives for the path, or that and a slash when the path
is no key. -/
def KeySet.Names (keys : KeySet) (keyPrefix : String) (base : Path) : Prop :=
  keyPrefix = base.toKey ∨
    base.parts ≠ [] ∧ ¬ keys.has base ∧ keyPrefix = base.toKey ++ "/"

/-- A call is about the keys, or about a prefix. -/
def StoreCall.Within (keys : KeySet) : StoreCall → Prop
  | .writeJson key _ | .writeText key _ | .delete key | .readJson key | .readText key
  | .isThere key => keys.Spells key
  | .listKeys keyPrefix => ∃ base, keys.Names keyPrefix base

/-- No directory is where the temporary file of a write goes. -/
def Disk.TmpFree (disk : Disk) (key : String) : Prop :=
  ∀ path, resolve key = .ok path → path.tmp ∉ disk.directories

/-- What a listing needs. -/
structure Disk.Listable (disk : Disk) (keyPrefix : String) (base : Path) : Prop where
  /-- The keys that start with the prefix end in `.json`, and lie in the directory that the prefix
  names unless the prefix is a key. -/
  reached : ∀ path ∈ disk.files, keyPrefix.toList <+: path.toKey.toList → isJson path = true ∧
    (disk.isDirectory base = true ∧ below base path = true ∨ disk.isFile base = true)
  /-- No directory that would be listed has a name that ends in `.json`. -/
  plain : ∀ path ∈ disk.directories, isJson path = true →
    ¬ (disk.isDirectory base = true ∧ below base path = true) ∧
    ¬ (disk.isFile base = true ∧ keyPrefix.toList <+: path.toKey.toList)
  /-- The keys that start with the prefix have the same order as texts and part by part. -/
  ordered : ∀ one ∈ disk.files, ∀ other ∈ disk.files, keyPrefix.toList <+: one.toKey.toList →
    keyPrefix.toList <+: other.toKey.toList → one.toKey < other.toKey → one.parts ≤ other.parts

/-- What the code needs of a call. -/
def StoreCall.Suits (disk : Disk) : StoreCall → Prop
  | .writeJson key _ | .writeText key _ => disk.TmpFree key
  | .delete _ | .readJson _ | .isThere _ => True
  | .readText key => ∀ path text, resolve key = .ok path → disk.content path = some (.text text) →
      '\r' ∉ text
  | .listKeys keyPrefix => ∀ base, resolve keyPrefix = .ok base → disk.Listable keyPrefix base

/-- A disk stands for a map. -/
structure Store.Stands (keys : KeySet) (store : Store) : Prop where
  /-- The files hold what the map says. -/
  same : ∀ path, store.map path.toKey = store.disk.content path
  /-- The map has keys alone. -/
  spelled : ∀ key, (store.map key).isSome = true → ∃ path : Path, key = path.toKey
  /-- The files are keys. -/
  files : ∀ path ∈ store.disk.files, keys.has path
  /-- The directories are those of keys. -/
  directories : ∀ path ∈ store.disk.directories, ∃ key, keys.has key ∧ below path key = true
  /-- The directories are different. -/
  distinct : store.disk.directories.Nodup

section Texts

/-- The segments of a text and of a longer one are the same up to the last of the shorter. -/
theorem segments_append (first rest : List Char) :
    ∃ before last tail more, segments first = before ++ [last] ∧
      segments (first ++ rest) = before ++ (last ++ tail) :: more := by
  induction first with
  | nil =>
    cases split : segments rest with
    | nil => exact absurd split (segments_ne_nil rest)
    | cons head more => exact ⟨[], [], head, more, rfl, by simpa using split⟩
  | cons character others ih =>
    obtain ⟨before, last, tail, more, short, long⟩ := ih
    by_cases slash : character = '/'
    · exact ⟨[] :: before, last, tail, more, by simp [segments, slash, short],
        by simp [segments, slash, long]⟩
    · cases before with
      | nil => exact ⟨[], character :: last, tail, more, by simp [segments, slash, short],
          by simp [segments, slash, long]⟩
      | cons head front => exact ⟨(character :: head) :: front, last, tail, more,
          by simp [segments, slash, short], by simp [segments, slash, long]⟩

/-- Joined parts are not empty. -/
theorem segments_toKey {path : Path} (named : path.parts ≠ []) :
    segments path.toKey.toList = path.parts := by
  unfold Path.toKey
  rw [String.toList_ofList]
  exact segments_intercalate named fun part member => (path.areParts part member).2.2.2.1

/-- Joining more parts joins their texts with a slash. -/
theorem intercalate_append {first second : List (List Char)} (some : first ≠ [])
    (more : second ≠ []) : ['/'].intercalate (first ++ second) =
      ['/'].intercalate first ++ '/' :: ['/'].intercalate second := by
  induction first with
  | nil => exact absurd rfl some
  | cons head rest ih =>
    cases rest with
    | nil =>
      cases second with
      | nil => exact absurd rfl more
      | cons next others => simp [List.intercalate, List.intersperse]
    | cons next others =>
      have later := ih (by simp)
      have joined : ∀ tail : List (List Char), ['/'].intercalate (head :: next :: tail) =
          head ++ '/' :: ['/'].intercalate (next :: tail) := fun tail => by
        simp [List.intercalate, List.intersperse]
      rw [List.cons_append, List.cons_append, joined, joined, ← List.cons_append, later]
      simp

/-- Different paths have different texts. -/
theorem toKey_inj {one other : Path} (same : one.toKey = other.toKey) : one = other := by
  have resolved := resolve_toKey one
  rw [same, resolve_toKey] at resolved
  exact (Except.ok.inj resolved).symm

/-- What is below a directory has more parts. -/
theorem below_iff {directory path : Path} :
    below directory path = true ↔ ∃ rest, rest ≠ [] ∧ path.parts = directory.parts ++ rest := by
  unfold below
  rw [Bool.and_eq_true, List.isPrefixOf_iff_prefix, decide_eq_true_eq]
  constructor
  · rintro ⟨⟨rest, is⟩, apart⟩
    refine ⟨rest, fun none => apart ?_, is.symm⟩
    rw [← is, none, List.append_nil]
  · rintro ⟨rest, some, is⟩
    refine ⟨⟨rest, is.symm⟩, fun same => some ?_⟩
    rw [is] at same
    exact List.self_eq_append_right.mp same

/-- The text of what is below a directory starts with that of the directory and a slash. -/
theorem toKey_of_below {directory path : Path} (named : directory.parts ≠ [])
    (inside : below directory path = true) :
    directory.toKey.toList ++ ['/'] <+: path.toKey.toList := by
  obtain ⟨rest, some, is⟩ := below_iff.mp inside
  unfold Path.toKey
  rw [String.toList_ofList, String.toList_ofList, is, intercalate_append named some]
  exact ⟨['/'].intercalate rest, by simp⟩

/-- A key that starts with the text of a path is in the directory of that path. -/
theorem below_parent_of_begins {base path : Path} (named : base.parts ≠ [])
    (starts : base.toKey.toList <+: path.toKey.toList) :
    below (LocalStorage.parent base) path = true := by
  obtain ⟨rest, is⟩ := starts
  obtain ⟨before, last, tail, more, short, long⟩ := segments_append base.toKey.toList rest
  rw [segments_toKey named] at short
  rw [is] at long
  have filled : last ≠ [] := by
    have member : last ∈ base.parts := by rw [short]; exact List.mem_append_right _ List.mem_cons_self
    exact (base.areParts last member).1
  have given : path.parts ≠ [] := by
    intro empty
    have blank : path.toKey.toList = [] := by
      rw [Path.toKey, String.toList_ofList, empty]
      rfl
    rw [blank] at long
    cases before with
    | nil =>
      have head := (List.cons.inj long).1
      exact filled (List.append_eq_nil_iff.mp head.symm).1
    | cons first others =>
      have rests := (List.cons.inj long).2
      exact absurd rests.symm (by simp)
  rw [segments_toKey given] at long
  refine below_iff.mpr ⟨(last ++ tail) :: more, by simp, ?_⟩
  show path.parts = base.parts.dropLast ++ _
  rw [long, short, List.dropLast_concat]

/-- The text of a path that is not the base directory does not end in a slash. -/
theorem rdropWhile_toKey {path : Path} (named : path.parts ≠ []) :
    path.toKey.toList.rdropWhile (· = '/') = path.toKey.toList := by
  rw [List.rdropWhile_eq_self_iff]
  intro given slash
  have ends := List.dropLast_concat_getLast given
  rw [of_decide_eq_true slash] at ends
  have parts := segments_toKey named
  rw [← ends, segments_append_slash] at parts
  have blank : [] ∈ path.parts := by
    rw [← parts]
    exact List.mem_append_right _ List.mem_cons_self
  exact (path.areParts [] blank).1 rfl

end Texts

section Prefixes

variable {keys : KeySet} {keyPrefix : String} {base : Path}

/-- A prefix resolves to the path that it names. -/
theorem resolve_of_names (names : keys.Names keyPrefix base) : resolve keyPrefix = .ok base := by
  rcases names with rfl | ⟨_, _, rfl⟩
  · exact resolve_toKey base
  · apply resolve_eq_ok
    have split := keyParts_append_slash base.toKey ""
    rw [String.append_empty, ← parts_of_resolve (resolve_toKey base)] at split
    rw [split]
    exact List.append_nil _

/-- What is below the path that a prefix names starts with the prefix. -/
theorem prefix_of_below (names : keys.Names keyPrefix base) {path : Path}
    (inside : below base path = true) : keyPrefix.toList <+: path.toKey.toList := by
  by_cases named : base.parts = []
  · rcases names with rfl | ⟨some, _, _⟩
    · rw [Path.toKey, String.toList_ofList, named]
      exact List.nil_prefix
    · exact absurd named some
  · have starts := toKey_of_below named inside
    rcases names with rfl | ⟨_, _, rfl⟩
    · exact (List.prefix_append _ _).trans starts
    · rwa [String.toList_append]

end Prefixes

section Listing

variable (disk : Disk) (keyPrefix : String) (base : Path)

/-- The paths that a listing gives the keys of. -/
def Disk.listedPaths : List Path :=
  if disk.isDirectory base then disk.rglob base
  else if disk.isFile base then (disk.rglob (LocalStorage.parent base)).filter fun path =>
    (keyPrefix.toList.rdropWhile (· = '/')).isPrefixOf path.toKey.toList
  else []

variable {disk keyPrefix base}

/-- A listing gives the keys of the listed paths. -/
theorem listKeys_eq (resolved : resolve keyPrefix = .ok base) :
    disk.listKeys keyPrefix = .ok ((disk.listedPaths keyPrefix base).map Path.toKey) := by
  unfold Disk.listKeys Disk.atKey Disk.listedPaths
  rw [resolved]
  dsimp only
  split
  case isTrue => rfl
  case isFalse =>
    split
    case isTrue => rw [List.filter_map]; rfl
    case isFalse => rfl

/-- What `rglob` finds. -/
theorem mem_rglob {directory path : Path} : path ∈ disk.rglob directory ↔
    (path ∈ disk.files ∨ path ∈ disk.directories) ∧ below directory path = true ∧
      isJson path = true := by
  unfold Disk.rglob
  rw [(LocalStorage.sorted_perm _).mem_iff, List.mem_filter, List.mem_append, Bool.and_eq_true]

/-- What `rglob` finds is in the order of the parts. -/
theorem ordered_rglob (directory : Path) :
    (disk.rglob directory).Pairwise fun one other => one.parts ≤ other.parts := by
  have sorted := @List.pairwise_mergeSort Path (fun one other => decide (one.parts ≤ other.parts))
    (fun one other third first second => decide_eq_true
      ((of_decide_eq_true first).trans (of_decide_eq_true second)))
    (fun one other => by
      rw [Bool.or_eq_true, decide_eq_true_eq, decide_eq_true_eq]
      exact le_total one.parts other.parts)
    ((disk.files ++ disk.directories).filter fun path => below directory path && isJson path)
  exact sorted.imp of_decide_eq_true

/-- The listed paths are in the order of their parts. -/
theorem ordered_listedPaths :
    (disk.listedPaths keyPrefix base).Pairwise fun one other => one.parts ≤ other.parts := by
  unfold Disk.listedPaths
  split
  case isTrue => exact ordered_rglob base
  case isFalse =>
    split
    case isTrue => exact (ordered_rglob _).sublist List.filter_sublist
    case isFalse => exact List.Pairwise.nil

end Listing

section Standing

variable {keys : KeySet} {store : Store} {path : Path} {json : JsonFiles}

/-- A file is a key that holds something. -/
theorem isFile_iff (disk : Disk) : disk.isFile path = true ↔ path ∈ disk.files := (disk.held path).symm

/-- A key is not among the directories. -/
theorem not_mem_directories (stands : store.Stands keys) (key : keys.has path) :
    path ∉ store.disk.directories := by
  intro directory
  obtain ⟨other, has, inside⟩ := stands.directories path directory
  rw [keys.apart path other key has] at inside
  cases inside

/-- A key is no directory. -/
theorem not_directory (stands : store.Stands keys) (key : keys.has path) :
    store.disk.isDirectory path = false := by
  unfold Disk.isDirectory
  rw [decide_eq_false (keys.named path key), decide_eq_false (not_mem_directories stands key)]
  rfl

/-- What the map has is the text of a file. -/
theorem isSome_map_iff (stands : store.Stands keys) {key : String} :
    (store.map key).isSome = true ↔ ∃ path ∈ store.disk.files, path.toKey = key := by
  constructor
  · intro held
    obtain ⟨path, rfl⟩ := stands.spelled key held
    rw [stands.same, ← store.disk.held] at held
    exact ⟨path, held, rfl⟩
  · rintro ⟨path, file, rfl⟩
    rw [stands.same, ← store.disk.held]
    exact file

/-- The directories are no files. -/
theorem not_file (stands : store.Stands keys) (directory : path ∈ store.disk.directories) :
    path ∉ store.disk.files :=
  fun file => not_mem_directories stands (stands.files path file) directory

section Listings

variable {keyPrefix : String} {base : Path}

/-- What a listing goes through: what is below a directory, and what starts with a key. -/
theorem mem_listedPaths (stands : store.Stands keys) (names : keys.Names keyPrefix base) :
    path ∈ store.disk.listedPaths keyPrefix base ↔
      (path ∈ store.disk.files ∨ path ∈ store.disk.directories) ∧ isJson path = true ∧
        (store.disk.isDirectory base = true ∧ below base path = true ∨
          store.disk.isFile base = true ∧ keyPrefix.toList <+: path.toKey.toList) := by
  unfold Disk.listedPaths
  cases directory : store.disk.isDirectory base with
  | true =>
    have noFile : store.disk.isFile base = false := by
      rw [Bool.eq_false_iff]
      intro file
      have key := stands.files base ((isFile_iff store.disk).mp file)
      rw [not_directory stands key] at directory
      cases directory
    simp only [if_true, mem_rglob, noFile, Bool.false_eq_true, false_and, or_false, true_and,
      and_comm]
  | false =>
    cases file : store.disk.isFile base with
    | false => simp
    | true =>
      have key := stands.files base ((isFile_iff store.disk).mp file)
      have named := keys.named base key
      have whole : keyPrefix = base.toKey := by
        rcases names with same | ⟨_, noKey, _⟩
        · exact same
        · exact absurd key noKey
      have beside := @below_parent_of_begins base path named
      simp only [Bool.false_eq_true, if_false, if_true, List.mem_filter, mem_rglob, whole,
        rdropWhile_toKey named, List.isPrefixOf_iff_prefix, false_and, false_or, true_and]
      constructor
      · rintro ⟨⟨there, _, json⟩, starts⟩
        exact ⟨there, json, starts⟩
      · rintro ⟨there, json, starts⟩
        exact ⟨⟨there, beside starts, json⟩, starts⟩

/-- No path is listed twice. -/
theorem nodup_listedPaths (stands : store.Stands keys) :
    (store.disk.listedPaths keyPrefix base).Nodup := by
  have all : (store.disk.files ++ store.disk.directories).Nodup :=
    List.nodup_append'.mpr ⟨store.disk.distinct, stands.distinct,
      fun _ file directory => not_file stands directory file⟩
  have found : ∀ directory, (store.disk.rglob directory).Nodup := fun directory =>
    (LocalStorage.sorted_perm _).nodup_iff.mpr (all.filter _)
  unfold Disk.listedPaths
  split
  case isTrue => exact found base
  case isFalse =>
    split
    case isTrue => exact (found _).filter _
    case isFalse => exact List.nodup_nil

/-- What a listing needs makes it go through the keys that start with the prefix. -/
theorem mem_listedPaths_of_listable (stands : store.Stands keys)
    (names : keys.Names keyPrefix base) (listable : store.disk.Listable keyPrefix base) :
    path ∈ store.disk.listedPaths keyPrefix base ↔
      path ∈ store.disk.files ∧ keyPrefix.toList <+: path.toKey.toList := by
  rw [mem_listedPaths stands names]
  constructor
  · rintro ⟨there, json, reached⟩
    have starts : keyPrefix.toList <+: path.toKey.toList :=
      reached.elim (fun inside => prefix_of_below names inside.2) And.right
    rcases there with file | directory
    · exact ⟨file, starts⟩
    · have plain := listable.plain path directory json
      exact (reached.elim plain.1 plain.2).elim
  · rintro ⟨file, starts⟩
    have reached := listable.reached path file starts
    exact ⟨Or.inl file, reached.1, reached.2.imp id fun key => ⟨key, starts⟩⟩

/-- A listing is right exactly when it has what it needs. -/
theorem right_listKeys_iff (stands : store.Stands keys) (names : keys.Names keyPrefix base) :
    StoreCall.Right json store (.listKeys keyPrefix) ↔ store.disk.Listable keyPrefix base := by
  let items := store.disk.listedPaths keyPrefix base
  have listed : StoreCall.Right json store (.listKeys keyPrefix) ↔
      store.map.Lists (fun key => keyPrefix.toList <+: key.toList) (items.map Path.toKey) := by
    show (∃ found, _) ↔ _
    rw [listKeys_eq (resolve_of_names names)]
    constructor
    · rintro ⟨found, is, lists⟩
      rwa [← Except.ok.inj is] at lists
    · exact fun lists => ⟨_, rfl, lists⟩
  have antisymm : ∀ one other : Path, one.parts ≤ other.parts → other.parts ≤ one.parts →
      one = other := fun one other first second => Path.ext (le_antisymm first second)
  rw [listed, KeyMap.lists_map_iff antisymm ordered_listedPaths]
  constructor
  · rintro ⟨_, complete, ordered⟩
    have item : ∀ path ∈ store.disk.files, keyPrefix.toList <+: path.toKey.toList →
        path ∈ items := by
      intro path file starts
      have there := (isSome_map_iff stands).mpr ⟨path, file, rfl⟩
      have found := (complete path.toKey).mpr ⟨there, starts⟩
      obtain ⟨other, inside, same⟩ := List.mem_map.mp found
      exact toKey_inj same ▸ inside
    have file : ∀ path ∈ items, path ∉ store.disk.directories := by
      intro path inside directory
      have there := (complete path.toKey).mp (List.mem_map_of_mem inside)
      obtain ⟨other, held, same⟩ := (isSome_map_iff stands).mp there.1
      exact not_file stands directory (toKey_inj same ▸ held)
    constructor
    · intro path held starts
      have found := ((mem_listedPaths stands names).mp (item path held starts)).2
      exact ⟨found.1, found.2.imp id And.left⟩
    · intro path directory ends
      have unlisted := fun reached => file path
        ((mem_listedPaths stands names).mpr ⟨Or.inr directory, ends, reached⟩) directory
      exact ⟨fun inside => unlisted (Or.inl inside), fun starts => unlisted (Or.inr starts)⟩
    · intro one first other second begins starts less
      exact ordered one (item one first begins) other (item other second starts) less
  · intro listable
    have mem := fun path => @mem_listedPaths_of_listable keys store path _ _ stands names listable
    refine ⟨(nodup_listedPaths stands).map fun _ _ => toKey_inj, fun key => ?_, ?_⟩
    · rw [isSome_map_iff stands, List.mem_map]
      constructor
      · rintro ⟨path, inside, rfl⟩
        have found := (mem path).mp inside
        exact ⟨⟨path, found.1, rfl⟩, found.2⟩
      · rintro ⟨⟨path, file, rfl⟩, starts⟩
        exact ⟨path, (mem path).mpr ⟨file, starts⟩, rfl⟩
    · intro one first other second
      have begins := (mem one).mp first
      have starts := (mem other).mp second
      exact listable.ordered one begins.1 other starts.1 begins.2 starts.2

end Listings

section Writes

/-- The directories of a path are above it. -/
theorem below_of_mem_ancestors {outer : Path} (above : outer ∈ ancestors path) :
    below outer path = true := by
  obtain ⟨count, fits, rfl⟩ := List.mem_map.mp above
  have short := List.mem_range.mp fits
  refine below_iff.mpr ⟨path.parts.drop count, ?_, (List.take_append_drop count path.parts).symm⟩
  rw [Ne, List.drop_eq_nil_iff]
  omega

/-- The directories of a path have fewer parts. -/
theorem length_lt_of_mem_ancestors {outer : Path} (above : outer ∈ ancestors path) :
    outer.parts.length < path.parts.length := by
  obtain ⟨rest, some, is⟩ := below_iff.mp (below_of_mem_ancestors above)
  have more := List.length_pos_iff.mpr some
  rw [is, List.length_append]
  omega

/-- The directories of a path are different. -/
theorem nodup_ancestors (path : Path) : (ancestors path).Nodup := by
  refine List.Nodup.map_on ?_ List.nodup_range
  intro one first other second same
  have lengths := congrArg (fun outer : Path => outer.parts.length) same
  have short := List.mem_range.mp first
  have brief := List.mem_range.mp second
  simp only [Path.take, List.length_take] at lengths
  omega

/-- A path that is named goes through a file beside it, with the suffix `.tmp`. -/
theorem parts_tmp (named : path.parts ≠ []) :
    path.tmp.parts = path.parts.dropLast ++ [stem (path.parts.getLast named) ++ ".tmp".toList] := by
  show tmpParts path.parts = _
  unfold tmpParts
  rw [List.getLast?_eq_some_getLast named]

/-- The temporary file of a key is no key. -/
theorem not_has_tmp (keys : KeySet) (named : path.parts ≠ []) : ¬ keys.has path.tmp := by
  intro key
  have lasts := keys.lasting path.tmp key (stem (path.parts.getLast named) ++ ".tmp".toList)
  rw [parts_tmp named, List.getLast?_concat] at lasts
  exact lasts rfl (List.suffix_append _ _)

/-- The directories that a write makes leave those where its files go. -/
theorem isDirectory_makeDirectories (disk : Disk) {other : Path} (named : other.parts ≠ [])
    (long : path.parts.length ≤ other.parts.length) :
    (disk.makeDirectories path).isDirectory other = true ↔ other ∈ disk.directories := by
  unfold Disk.isDirectory Disk.makeDirectories
  rw [decide_eq_false named, Bool.false_or, decide_eq_true_eq, List.mem_union_iff, or_iff_left]
  intro above
  have short := length_lt_of_mem_ancestors above
  omega

/-- What a write does where the path is a key. -/
theorem write_eq (stands : store.Stands keys) (key : keys.has path) (content : Content) :
    (path.tmp ∉ store.disk.directories → store.disk.write path content =
      (.ok (), ((store.disk.makeDirectories path).remove path.tmp).put path content)) ∧
    (path.tmp ∈ store.disk.directories → (store.disk.write path content).1 ≠ .ok ()) := by
  have named := keys.named path key
  have free : (ancestors path).find? store.disk.isFile = none := by
    rw [List.find?_eq_none]
    intro outer above file
    have inside := below_of_mem_ancestors above
    rw [keys.apart outer path (stands.files outer ((isFile_iff store.disk).mp file)) key] at inside
    cases inside
  have tmpNamed : path.tmp.parts ≠ [] := by
    rw [parts_tmp named]
    simp
  have tmpLong : path.parts.length ≤ path.tmp.parts.length := by
    rw [parts_tmp named, List.length_append, List.length_dropLast, List.length_singleton]
    omega
  have tmp := isDirectory_makeDirectories store.disk tmpNamed tmpLong
  have own : (store.disk.makeDirectories path).isDirectory path = false := by
    rw [Bool.eq_false_iff, Ne, isDirectory_makeDirectories store.disk named le_rfl]
    exact not_mem_directories stands key
  unfold Disk.write
  rw [free]
  dsimp only
  constructor
  · intro unused
    rw [if_neg (fun used => unused (tmp.mp used)), own]
    rfl
  · intro used
    rw [if_pos (tmp.mpr used)]
    exact nofun

/-- A write keeps what the disk stands for. -/
theorem stands_write (stands : store.Stands keys) (key : keys.has path) (content : Content) :
    Store.Stands keys ⟨((store.disk.makeDirectories path).remove path.tmp).put path content,
      store.map.put path.toKey content⟩ := by
  have unheld : store.disk.content path.tmp = none := by
    have noFile : path.tmp ∉ store.disk.files :=
      fun file => not_has_tmp keys (keys.named path key) (stands.files _ file)
    rw [store.disk.held] at noFile
    simpa using noFile
  constructor
  · intro other
    show store.map.put path.toKey content other.toKey =
      (store.disk.content.erase path.tmp).put path content other
    unfold KeyMap.put KeyMap.erase
    by_cases same : other = path
    · rw [same, if_pos rfl, if_pos rfl]
    · rw [if_neg same, if_neg (fun is => same (toKey_inj is)), stands.same]
      by_cases temporary : other = path.tmp
      · rw [if_pos temporary, temporary, unheld]
      · rw [if_neg temporary]
  · intro text held
    change (store.map.put path.toKey content text).isSome = true at held
    unfold KeyMap.put at held
    by_cases same : text = path.toKey
    · exact ⟨path, same⟩
    · rw [if_neg same] at held
      exact stands.spelled text held
  · intro other file
    rcases List.mem_cons.mp file with rfl | before
    · exact key
    · exact stands.files other (List.mem_of_mem_erase (List.mem_of_mem_erase before))
  · intro other directory
    rcases List.mem_union_iff.mp directory with before | above
    · exact stands.directories other before
    · exact ⟨path, key, below_of_mem_ancestors above⟩
  · exact (nodup_ancestors path).union _

/-- A deletion keeps what the disk stands for. -/
theorem stands_delete (stands : store.Stands keys) (path : Path) :
    Store.Stands keys ⟨if store.disk.isFile path then store.disk.remove path else store.disk,
      store.map.erase path.toKey⟩ := by
  have fewer : ∀ other, other ∈ (if store.disk.isFile path then store.disk.remove path
      else store.disk).files → other ∈ store.disk.files := by
    intro other file
    split at file
    case isTrue => exact List.mem_of_mem_erase file
    case isFalse => exact file
  have same : (if store.disk.isFile path then store.disk.remove path
      else store.disk).directories = store.disk.directories := by split <;> rfl
  constructor
  · intro other
    show store.map.erase path.toKey other.toKey = _
    unfold KeyMap.erase
    by_cases own : other = path
    · rw [own, if_pos rfl]
      cases file : store.disk.isFile path with
      | true => exact (if_pos rfl).symm
      | false => exact (Option.not_isSome_iff_eq_none.mp (Bool.eq_false_iff.mp file)).symm
    · rw [if_neg (fun is => own (toKey_inj is)), stands.same]
      split
      case isTrue => exact (if_neg own).symm
      case isFalse => rfl
  · intro text held
    change (store.map.erase path.toKey text).isSome = true at held
    unfold KeyMap.erase at held
    split at held
    case isTrue => cases held
    case isFalse => exact stands.spelled text held
  · exact fun other file => stands.files other (fewer other file)
  · intro other directory
    rw [same] at directory
    exact stands.directories other directory
  · exact same ▸ stands.distinct

end Writes

section Calls

/-- A text of a key is listed as its path. -/
theorem listedKey_of_resolve {key : String} (resolved : resolve key = .ok path) :
    listedKey key = path.toKey := by
  rw [listedKey, resolved]

/-- A write succeeds exactly when no directory is where its temporary file goes, and then keeps what
the disk stands for. -/
theorem write_iff (stands : store.Stands keys) {key : String} (spells : keys.Spells key)
    (content : Content) :
    ((store.disk.changeAt key fun path => store.disk.write path content).1 = .ok () ↔
      store.disk.TmpFree key) ∧
    (store.disk.TmpFree key → Store.Stands keys
      ⟨(store.disk.changeAt key fun path => store.disk.write path content).2,
        store.map.put (listedKey key) content⟩) := by
  obtain ⟨_, path, resolved, has⟩ := spells
  have tmpFree : store.disk.TmpFree key ↔ path.tmp ∉ store.disk.directories := by
    constructor
    · exact fun free => free path resolved
    · intro unused other is
      rw [resolved] at is
      exact Except.ok.inj is ▸ unused
  have does := write_eq stands has content
  rw [listedKey_of_resolve resolved, tmpFree, Disk.changeAt, resolved]
  dsimp only
  constructor
  · constructor
    · exact fun done used => does.2 used done
    · exact fun unused => by rw [does.1 unused]
  · intro unused
    rw [does.1 unused]
    exact stands_write stands has content

/-- The result of a call is right exactly when the call has what the code needs. -/
theorem right_iff (stands : store.Stands keys) {call : StoreCall} (within : call.Within keys) :
    call.Right json store ↔ call.Suits store.disk := by
  cases call with
  | writeJson key data => exact (write_iff stands within (.json data)).1
  | writeText key text => exact (write_iff stands within (.text text)).1
  | delete key =>
    obtain ⟨_, path, resolved, _⟩ := within
    refine iff_of_true ?_ trivial
    rw [StoreCall.Right, listedKey_of_resolve resolved, stands.same, Disk.delete, Disk.changeAt,
      resolved]
    show (if store.disk.isFile path then _ else _ : Except DiskError Bool × Disk).1 =
      .ok (store.disk.isFile path)
    cases store.disk.isFile path <;> rfl
  | readJson key =>
    obtain ⟨_, path, resolved, _⟩ := within
    refine iff_of_true ?_ trivial
    rw [StoreCall.Right, listedKey_of_resolve resolved, stands.same, Disk.readJson, Disk.atKey,
      resolved]
    cases held : store.disk.content path with
    | none => simp only [held]
    | some content => cases content <;> simp [held, Disk.loadJson, Except.map]
  | readText key =>
    obtain ⟨_, path, resolved, _⟩ := within
    have suits : StoreCall.Suits store.disk (.readText key) ↔
        ∀ text, store.disk.content path = some (.text text) → '\r' ∉ text := by
      constructor
      · exact fun all text held => all path text resolved held
      · intro all other text is held
        rw [resolved] at is
        exact all text (Except.ok.inj is ▸ held)
    rw [suits, StoreCall.Right, listedKey_of_resolve resolved, stands.same, Disk.readText,
      Disk.atKey, resolved]
    cases held : store.disk.content path with
    | none => simp [held]
    | some content =>
      cases content with
      | json data => simp
      | text text => simp [held, Disk.loadText, newlines_eq_self_iff]
  | isThere key =>
    obtain ⟨_, path, resolved, _⟩ := within
    refine iff_of_true ?_ trivial
    rw [StoreCall.Right, listedKey_of_resolve resolved, stands.same, Disk.exists', Disk.atKey,
      resolved]
    rfl
  | listKeys keyPrefix =>
    obtain ⟨base, names⟩ := within
    rw [right_listKeys_iff stands names]
    have resolved := resolve_of_names names
    constructor
    · intro listable other is
      rw [resolved] at is
      exact Except.ok.inj is ▸ listable
    · exact fun all => all base resolved

/-- A call that has what the code needs keeps what the disk stands for. -/
theorem stands_step (stands : store.Stands keys) {call : StoreCall} (within : call.Within keys)
    (suits : call.Suits store.disk) {next : Store} (taken : store.step call = some next) :
    next.Stands keys := by
  cases call with
  | writeJson key data =>
    obtain rfl := Option.some.inj taken
    exact (write_iff stands within (.json data)).2 suits
  | writeText key text =>
    obtain rfl := Option.some.inj taken
    exact (write_iff stands within (.text text)).2 suits
  | delete key =>
    obtain ⟨_, path, resolved, _⟩ := within
    obtain rfl := Option.some.inj taken
    have kept := stands_delete stands path
    have does : (store.disk.delete key).2 =
        if store.disk.isFile path then store.disk.remove path else store.disk := by
      rw [Disk.delete, Disk.changeAt, resolved]
      dsimp only
      split <;> rfl
    rw [← does, ← listedKey_of_resolve resolved] at kept
    exact kept
  | readJson key => exact Option.some.inj taken ▸ stands
  | readText key => exact Option.some.inj taken ▸ stands
  | isThere key => exact Option.some.inj taken ▸ stands
  | listKeys keyPrefix => exact Option.some.inj taken ▸ stands

/-- An empty store stands for the empty map. -/
theorem stands_empty (keys : KeySet) : Store.empty.Stands keys where
  same _ := rfl
  spelled _ held := absurd held Bool.false_ne_true
  files _ file := absurd file List.not_mem_nil
  directories _ directory := absurd directory List.not_mem_nil
  distinct := List.nodup_nil

/-- In a run over some keys, the results are those of a key-value map exactly when each call has what
the code needs. -/
theorem refines_iff (keys : KeySet) (json : JsonFiles) (calls : List StoreCall)
    (within : ∀ call ∈ calls, call.Within keys) :
    Machine.Meets Store.step (fun store call => call.Right json store) .empty calls ↔
      Machine.Meets Store.step (fun store call => call.Suits store.disk) .empty calls := by
  refine Machine.meets_iff_of_kept (Store.Stands keys) ?_ ?_ (stands_empty keys) within
  · intro store call stands inside
    exact right_iff stands inside
  · intro store call next stands inside suits taken
    exact stands_step stands inside suits taken

end Calls

end Standing

section Samples

/-- The parts of a batch's key. -/
theorem areParts_batch : ∀ part ∈ ["bronze".toList, "t1".toList, "a.json".toList], IsPart part := by
  decide

/-- The path of a batch. -/
def batchPath : Path := ⟨["bronze".toList, "t1".toList, "a.json".toList], areParts_batch⟩

/-- A store of one batch. -/
def batchKeys : KeySet where
  has path := path = batchPath
  named _ is := is ▸ List.cons_ne_nil _ _
  lasting path is name last := by
    subst is
    obtain rfl : "a.json".toList = name := Option.some.inj last
    decide
  apart one other is same := by
    subst is
    subst same
    decide

/-- The key of the batch is one of the keys. -/
theorem batchKeys_spells : batchKeys.Spells "bronze/t1/a.json" :=
  ⟨by unfold Relative; decide, batchPath, resolve_eq_ok (by decide), rfl⟩

/-- JSON of which nothing is read. -/
def noJson : JsonFiles := ⟨fun _ => [], fun _ => none⟩

/-- The store once the batch is written. -/
def batchStore : Store := ⟨(Disk.empty.writeJson "bronze/t1/a.json" []).2,
  KeyMap.empty.put (listedKey "bronze/t1/a.json") (.json [])⟩

/-- The files of that store. -/
theorem files_batchStore : batchStore.disk.files = [batchPath] := by rfl

/-- The parts of the beginning of a key. -/
theorem areParts_start : ∀ part ∈ ["bronze".toList, "t1".toList, "a".toList], IsPart part := by
  decide

/-- The beginning of a key names a path. -/
theorem batchKeys_names :
    batchKeys.Names "bronze/t1/a" ⟨["bronze".toList, "t1".toList, "a".toList], areParts_start⟩ :=
  Or.inl (by decide)

/-- The beginning of a key is a prefix that nothing is listed under. -/
theorem keyStart_not_listed :
    (∀ call ∈ [StoreCall.writeJson "bronze/t1/a.json" [], .listKeys "bronze/t1/a"],
      call.Within batchKeys) ∧
    ¬ Machine.Meets Store.step (fun store call => call.Right noJson store) .empty
      [.writeJson "bronze/t1/a.json" [], .listKeys "bronze/t1/a"] := by
  constructor
  · intro call inside
    simp only [List.mem_cons, List.not_mem_nil, or_false] at inside
    rcases inside with rfl | rfl
    · exact batchKeys_spells
    · exact ⟨_, batchKeys_names⟩
  · intro right
    obtain ⟨listed, is, lists⟩ := (right.2 batchStore rfl).1
    have none : batchStore.disk.listKeys "bronze/t1/a" = .ok [] := by rfl
    have empty : listed = [] := Except.ok.inj (is.symm.trans none)
    have there : (batchStore.map "bronze/t1/a.json").isSome = true := by rfl
    have found := (lists.complete "bronze/t1/a.json").mpr ⟨there, by decide⟩
    rw [empty] at found
    exact absurd found List.not_mem_nil

/-- The parts of a directory of keys. -/
theorem areParts_directory : ∀ part ∈ ["bronze".toList, "t1".toList], IsPart part := by decide

/-- A directory of keys. -/
def batchDirectory : Path := ⟨["bronze".toList, "t1".toList], areParts_directory⟩

/-- A directory that is listed needs no more than the batch has. -/
theorem listable_batchStore : batchStore.disk.Listable "bronze/t1" batchDirectory where
  reached path file _ := by
    obtain rfl := List.mem_singleton.mp (files_batchStore ▸ file)
    exact ⟨by decide, Or.inl ⟨by rfl, by decide⟩⟩
  plain path directory ends := by
    have none : ∀ path ∈ batchStore.disk.directories, isJson path = false := by decide
    rw [none path directory] at ends
    cases ends
  ordered one first other second _ _ _ := by
    obtain rfl := List.mem_singleton.mp (files_batchStore ▸ first)
    obtain rfl := List.mem_singleton.mp (files_batchStore ▸ second)
    exact le_rfl

/-- A batch that is written is read and listed. -/
theorem refines_batch : Machine.Meets Store.step (fun store call => call.Right noJson store) .empty
    [.writeJson "bronze/t1/a.json" [], .readJson "bronze/t1/a.json", .listKeys "bronze/t1"] := by
  refine (refines_iff batchKeys noJson _ ?_).mpr ?_
  · intro call inside
    simp only [List.mem_cons, List.not_mem_nil, or_false] at inside
    rcases inside with rfl | rfl | rfl
    · exact batchKeys_spells
    · exact batchKeys_spells
    · exact ⟨batchDirectory, Or.inl (by decide)⟩
  · refine ⟨fun path _ => List.not_mem_nil, fun next written => ?_⟩
    obtain rfl : batchStore = next := Option.some.inj written
    refine ⟨trivial, fun next read => ?_⟩
    obtain rfl : batchStore = next := Option.some.inj read
    refine ⟨fun base resolved => ?_, fun _ _ => trivial⟩
    have named : resolve "bronze/t1" = .ok batchDirectory := resolve_eq_ok (by decide)
    obtain rfl : batchDirectory = base := Except.ok.inj (named.symm.trans resolved)
    exact listable_batchStore

end Samples

end VelaFlow.Storage
