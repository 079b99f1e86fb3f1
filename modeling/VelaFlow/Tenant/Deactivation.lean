import VelaFlow.Process.Effects
import VelaFlow.Tenant.Manager

/-!
# What a deactivation deletes

The cleanup of `deactivate_tenant` deletes what `list_keys` finds in seven directories. What is
listed in a directory is a JSON document whose key begins as the directory does, so any other
document is left as it was.
-/
namespace VelaFlow.Tenants

open Process Storage

section Keys

/-- The key of a path begins as its first part does. -/
theorem head?_toKey {path : Path} {first : List Char} {rest : List (List Char)}
    (parts : path.parts = first :: rest) : path.toKey.toList.head? = first.head? := by
  have some : first ≠ [] := (path.areParts first (by simp [parts])).1
  unfold Path.toKey
  rw [String.toList_ofList, parts, head?_intercalate '/' some]

/-- The parts of a key in a directory. -/
theorem keyParts_directory {directory : String} (part : IsPart directory.toList)
    (rest : String) : keyParts (directory ++ "/" ++ rest) = directory.toList :: keyParts rest := by
  rw [keyParts_append_slash, keyParts_of_isPart part, List.singleton_append]

/-- A text that begins as a key in a directory does, up to slashes at its end, begins as the
directory does. -/
theorem head?_of_prefix {directory rest : String} (part : IsPart directory.toList)
    {text : List Char}
    (starts : (directory ++ "/" ++ rest).toList.rdropWhile (· = '/') <+: text) :
    text.head? = directory.toList.head? := by
  obtain ⟨filled, -, -, plain, -⟩ := part
  have whole : (directory ++ "/" ++ rest).toList = directory.toList ++ '/' :: rest.toList := by
    simp
  rw [whole] at starts
  obtain ⟨first, inside⟩ := List.exists_mem_of_ne_nil _ filled
  have left : (directory.toList ++ '/' :: rest.toList).rdropWhile (· = '/') ≠ [] := by
    intro none
    have slash := List.rdropWhile_eq_nil_iff.mp none first (List.mem_append_left _ inside)
    have is : first = '/' := by simpa using slash
    exact plain (is ▸ inside)
  obtain ⟨more, grown⟩ := starts
  obtain ⟨cut, same⟩ := List.rdropWhile_prefix (fun character : Char => decide (character = '/'))
    (directory.toList ++ '/' :: rest.toList)
  have heads := congrArg List.head? same
  rw [List.head?_append_of_ne_nil _ left, List.head?_append_of_ne_nil _ filled] at heads
  rw [← grown, List.head?_append_of_ne_nil _ left, heads]

/-- A key that is listed is that of a JSON document, and begins as the directory does. -/
theorem listed_key {storage : LocalStorage} {directory : String} (part : IsPart directory.toList)
    {rest : String} {keys : List String}
    (listed : storage.listKeys (directory ++ "/" ++ rest) = .ok keys) {key : String}
    (inside : key ∈ keys) :
    ∃ path, resolve key = .ok path ∧ key = path.toKey ∧ LocalStorage.isJson path = true ∧
      key.toList.head? = directory.toList.head? := by
  unfold LocalStorage.listKeys at listed
  cases resolved : resolve (directory ++ "/" ++ rest) with
  | error exception =>
    rw [resolved] at listed
    cases listed
  | ok base =>
    rw [resolved] at listed
    have found := Except.ok.inj listed
    simp only at found
    have parts : base.parts = directory.toList :: keyParts rest := by
      rw [parts_of_resolve resolved, keyParts_directory part]
    have matched : ∀ {folder path}, path ∈ storage.rglob folder →
        LocalStorage.isJson path = true ∧ LocalStorage.below folder path = true := by
      intro folder path member
      have kept := (List.mem_filter.mp ((storage.rglob_perm folder).mem_iff.mp member)).2
      exact (Bool.and_eq_true_iff.mp kept).symm
    split at found
    · rw [← found] at inside
      obtain ⟨path, member, rfl⟩ := List.mem_map.mp inside
      obtain ⟨json, below⟩ := matched member
      refine ⟨path, resolve_toKey path, rfl, json, ?_⟩
      have start := (Bool.and_eq_true_iff.mp below).1
      rw [parts, List.isPrefixOf_iff_prefix] at start
      obtain ⟨more, whole⟩ := start
      exact head?_toKey whole.symm
    · split at found
      · rw [← found] at inside
        obtain ⟨among, starts⟩ := List.mem_filter.mp inside
        obtain ⟨path, member, rfl⟩ := List.mem_map.mp among
        refine ⟨path, resolve_toKey path, rfl, (matched member).1, ?_⟩
        exact head?_of_prefix part (List.isPrefixOf_iff_prefix.mp starts)
      · rw [← found] at inside
        cases inside

end Keys

section Cleanup

variable (answers : Answers)

/-- Deleting a key leaves every other document. -/
theorem lookup_deleteKey (world : World) {key : String} {path : Path}
    (other : resolve key ≠ .ok path) :
    (world.deleteKey key).2.storage.lookup path = world.storage.lookup path := by
  unfold World.deleteKey LocalStorage.delete
  cases resolved : resolve key with
  | error exception => rfl
  | ok removed =>
    have apart : path ≠ removed := fun is => other (is ▸ resolved)
    exact world.storage.lookup_remove_ne apart

/-- Deleting keys leaves every other document. -/
theorem lookup_deleteAll (world : World) {keys : List String} {path : Path}
    (others : ∀ key ∈ keys, resolve key ≠ .ok path) :
    ((TenantManager.deleteAll keys).run answers world).2.storage.lookup path =
      world.storage.lookup path := by
  induction keys generalizing world with
  | nil => rfl
  | cons key rest ih =>
    have first := lookup_deleteKey world (others key List.mem_cons_self)
    unfold TenantManager.deleteAll
    rw [run_bind, run_delete]
    cases done : world.deleteKey key with
    | mk outcome left =>
      rw [done] at first
      cases outcome with
      | error exception => exact first
      | ok existed =>
        have later := ih left fun other inside => others other (List.mem_cons_of_mem _ inside)
        exact later.trans first

/-- The directories that are cleaned up. -/
def cleanedDirectories : List String :=
  ["bronze", "silver", "gold", "runs", "vault", "users", "invites"]

/-- A document that is spared by the cleanup: it is no JSON document, or lies where no key begins as
a cleaned directory does. -/
def Spared (path : Path) : Prop :=
  LocalStorage.isJson path = false ∨
    ∀ directory ∈ cleanedDirectories, path.toKey.toList.head? ≠ directory.toList.head?

/-- The cleanup leaves the documents that are spared. -/
theorem lookup_deleteDirectories (tenantId : String) {path : Path} (spared : Spared path)
    {directories : List String} (cleaned : ∀ directory ∈ directories, directory ∈ cleanedDirectories)
    (world : World) :
    ((TenantManager.deleteDirectories tenantId directories).run answers world).2.storage.lookup
      path = world.storage.lookup path := by
  induction directories generalizing world with
  | nil => rfl
  | cons directory rest ih =>
    have here := cleaned directory List.mem_cons_self
    have later := ih fun other inside => cleaned other (List.mem_cons_of_mem _ inside)
    have part : IsPart directory.toList := by
      have all : ∀ name ∈ cleanedDirectories, IsPart name.toList := by decide
      exact all directory here
    unfold TenantManager.deleteDirectories
    rw [run_bind, run_listKeys]
    cases listed : world.storage.listKeys (directory ++ "/" ++ tenantId ++ "/") with
    | error exception => rfl
    | ok keys =>
      have key_ne : ∀ key ∈ keys, resolve key ≠ .ok path := by
        intro key inside resolved
        rw [String.append_assoc] at listed
        obtain ⟨other, named, same, json, starts⟩ := listed_key part listed inside
        obtain rfl : other = path := Except.ok.inj (named.symm.trans resolved)
        rcases spared with plain | elsewhere
        · rw [json] at plain
          cases plain
        · exact elsewhere directory here (same ▸ starts)
      have first := lookup_deleteAll answers world key_ne
      simp only [run_bind]
      cases done : (TenantManager.deleteAll keys).run answers world with
      | mk outcome left =>
        rw [done] at first
        cases outcome with
        | error exception => exact first
        | ok value => exact (later left).trans first

end Cleanup

end VelaFlow.Tenants
