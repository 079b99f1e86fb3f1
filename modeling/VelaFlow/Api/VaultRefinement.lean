import VelaFlow.Api.Vault
import VelaFlow.Foundation.KeyValue
import VelaFlow.Process.Directories
import VelaFlow.Storage.KeyValueStore

/-!
# The vault as a map of every user

What a user has stored is a map of its own. A place in the vault is a user and a name; different
places have different files, and the storage key of a place is what a listing gives for its file, so
that a listed document decrypts. The disk stands for the map, and every request keeps it so.
-/
namespace VelaFlow.Api

open Process Security Storage

/-- What every user has stored, by tenant, user and name. -/
abbrev VaultMap := KeyMap (String × String × String) VaultEntry

/-- The map after a request. -/
def VaultMap.step (map : VaultMap) : VaultRequest → VaultMap
  | .store claims body draws =>
    match requireStore claims body with
    | .ok (tenantId, userId) => map.put (tenantId, userId, body.name)
        ⟨body.value, body.description, draws.now.isoformat⟩
    | .error _ => map
  | .delete claims keyName =>
    match requireKey claims keyName with
    | .ok (tenantId, userId) => map.erase (tenantId, userId, keyName)
    | .error _ => map
  | .get _ _ => map
  | .list _ => map

/-- The identifiers in a token are those of a tenant and a user, as far as there are any. -/
def Generated (claims : TokenClaims) : Prop :=
  (claims.tenantId ≠ "" → IsPart claims.tenantId.toList) ∧
    (claims.userId ≠ "" → IsPart claims.userId.toList)

/-- A place in the vault: a user and a name that the routes take. -/
@[ext] structure VaultSlot where
  /-- The tenant. -/
  tenantId : String
  /-- The user. -/
  userId : String
  /-- The name of the key. -/
  name : String
  /-- A tenant's identifier is a name. -/
  tenantNamed : IsPart tenantId.toList
  /-- A user's identifier is a name. -/
  userNamed : IsPart userId.toList
  /-- The routes take the name. -/
  matched : matchesName 64 name = true

/-- The directory of the vault can be a part of a path. -/
theorem isPart_vault : IsPart "vault".toList := by decide

/-- The directory of a user. -/
def userDirectory {tenantId userId : String} (tenantNamed : IsPart tenantId.toList)
    (userNamed : IsPart userId.toList) : Path where
  parts := ["vault".toList, tenantId.toList, userId.toList]
  areParts := List.forall_mem_cons.mpr ⟨isPart_vault, List.forall_mem_cons.mpr
    ⟨tenantNamed, List.forall_mem_singleton.mpr userNamed⟩⟩

/-- The prefix of a user resolves to its directory. -/
theorem resolve_vaultUserPrefix {tenantId userId : String} (tenantNamed : IsPart tenantId.toList)
    (userNamed : IsPart userId.toList) :
    resolve (vaultUserPrefix tenantId userId) = .ok (userDirectory tenantNamed userNamed) := by
  have key : vaultUserPrefix tenantId userId =
      "vault" ++ "/" ++ tenantId ++ "/" ++ userId ++ "/" ++ "" := by
    rw [String.append_empty]
    rfl
  have empty : keyParts "" = [] := by decide
  have vault : keyParts "vault" = ["vault".toList] := keyParts_of_isPart isPart_vault
  apply resolve_eq_ok
  rw [key, keyParts_append_slash, keyParts_append_slash, keyParts_append_slash, vault, empty,
    keyParts_of_isPart tenantNamed, keyParts_of_isPart userNamed]
  rfl

namespace VaultSlot

variable (slot other : VaultSlot)

/-- The key of the map. -/
def key : String × String × String := (slot.tenantId, slot.userId, slot.name)

/-- The key of the storage. -/
def storageKey : String := vaultPath slot.tenantId slot.userId slot.name

/-- The file of a name is plain. -/
theorem isPart_file : IsPart (slot.name ++ ".json").toList := by
  have long : 4 < (slot.name ++ ".json").toList.length := by
    have ending : ".json".toList.length = 5 := rfl
    rw [String.toList_append, List.length_append, ending]
    omega
  have plain (mark : Char) (unnamed : isNameChar mark = false) (visible : mark ≠ '\n')
      (ending : mark ∉ ".json".toList) : mark ∉ (slot.name ++ ".json").toList := by
    rw [String.toList_append, List.mem_append, not_or]
    exact ⟨not_mem_of_matchesName slot.matched unnamed visible, ending⟩
  refine ⟨?_, ?_, ?_, plain '/' (by decide) (by decide) (by decide),
    plain '\\' (by decide) (by decide) (by decide)⟩
  all_goals
    intro same
    rw [same] at long
    exact absurd long (by decide)

/-- The file of a place. -/
def path : Path where
  parts := ["vault".toList, slot.tenantId.toList, slot.userId.toList, (slot.name ++ ".json").toList]
  areParts := List.forall_mem_cons.mpr ⟨isPart_vault, List.forall_mem_cons.mpr
    ⟨slot.tenantNamed, List.forall_mem_cons.mpr ⟨slot.userNamed,
      List.forall_mem_singleton.mpr slot.isPart_file⟩⟩⟩

/-- The storage key of a place resolves to its file. -/
theorem resolve_storageKey : resolve slot.storageKey = .ok slot.path := by
  have key : slot.storageKey = "vault" ++ "/" ++ slot.tenantId ++ "/" ++ slot.userId ++ "/" ++
      (slot.name ++ ".json") := by
    unfold storageKey vaultPath
    simp only [String.append_assoc]
    rfl
  have vault : keyParts "vault" = ["vault".toList] := keyParts_of_isPart isPart_vault
  apply resolve_eq_ok
  rw [key, keyParts_append_slash, keyParts_append_slash, keyParts_append_slash, vault,
    keyParts_of_isPart slot.tenantNamed, keyParts_of_isPart slot.userNamed,
    keyParts_of_isPart slot.isPart_file]
  rfl

/-- The storage key is what a listing gives for the file. -/
theorem toKey_path : slot.path.toKey = slot.storageKey := by
  have whole : slot.path.toKey =
      "/".intercalate ["vault", slot.tenantId, slot.userId, slot.name ++ ".json"] := by
    apply String.toList_injective
    rw [String.toList_intercalate, Path.toKey, String.toList_ofList]
    rfl
  have vault : "vault" ++ ("/" ++ (slot.tenantId ++ ("/" ++ (slot.userId ++ ("/" ++ (slot.name ++
      ".json")))))) = slot.storageKey := by
    unfold storageKey vaultPath
    simp only [String.append_assoc]
    rfl
  rw [whole, String.intercalate_cons_cons, String.intercalate_cons_cons,
    String.intercalate_cons_cons, String.intercalate_singleton, ← vault]
  simp only [String.append_assoc]

variable {slot other}

/-- Two places do not have one key. -/
theorem eq_of_key (same : slot.key = other.key) : slot = other := by
  have tenants : slot.tenantId = other.tenantId := congrArg Prod.fst same
  have users : slot.userId = other.userId := congrArg (fun key => key.2.1) same
  have names : slot.name = other.name := congrArg (fun key => key.2.2) same
  exact VaultSlot.ext tenants users names

/-- Two places do not have one file. -/
theorem eq_of_path (same : slot.path = other.path) : slot = other := by
  have parts := congrArg Path.parts same
  simp only [path, List.cons.injEq, true_and, and_true] at parts
  have names : slot.name = other.name :=
    (String.append_left_inj _).mp (String.toList_injective parts.2.2)
  exact VaultSlot.ext (String.toList_injective parts.1) (String.toList_injective parts.2.1) names

end VaultSlot

/-- A disk stands for a map. -/
structure Vault.Stands (vault : Vault) (disk : LocalStorage) (map : VaultMap) : Prop where
  /-- The files are of places. -/
  files : ∀ path data, disk.lookup path = some data → InDirectory "vault" path →
    ∃ slot : VaultSlot, slot.path = path
  /-- The keys are of places. -/
  keys : ∀ key entry, map key = some entry → ∃ slot : VaultSlot, slot.key = key
  /-- Where the map has nothing there is no file. -/
  absent : ∀ slot : VaultSlot, map slot.key = none → disk.lookup slot.path = none
  /-- Where the map has an entry its document is stored. -/
  present : ∀ (slot : VaultSlot) entry, map slot.key = some entry → ∃ nonce draw,
    disk.lookup slot.path = some (vault.storage.writeJson nonce slot.storageKey
      (vault.document draw slot.tenantId slot.userId slot.name entry))

section Checks

variable {claims : TokenClaims} {tenantId userId : String}

/-- Who passes the first check is a user of a tenant. -/
theorem of_requireUser (passed : requireUser claims = .ok (tenantId, userId)) :
    claims.tenantId = tenantId ∧ claims.userId = userId ∧ tenantId ≠ "" ∧ userId ≠ "" := by
  obtain ⟨_, -, passed⟩ := bind_ok_iff.mp passed
  obtain ⟨tenant, isTenant, passed⟩ := bind_ok_iff.mp passed
  unfold getCurrentTenantId at isTenant
  split at isTenant
  case isTrue missing => cases isTenant
  case isFalse filled =>
    split at passed
    case isTrue missing => cases passed
    case isFalse user =>
      cases isTenant
      cases passed
      exact ⟨rfl, rfl, filled, user⟩

/-- The user that passes the first check has a directory. -/
theorem named_of_requireUser (generated : Generated claims)
    (passed : requireUser claims = .ok (tenantId, userId)) :
    IsPart tenantId.toList ∧ IsPart userId.toList := by
  obtain ⟨tenant, user, tenantFilled, userFilled⟩ := of_requireUser passed
  subst tenant user
  exact ⟨generated.1 tenantFilled, generated.2 userFilled⟩

/-- A user and a name that the routes take are a place. -/
theorem slot_of_user (generated : Generated claims)
    (passed : requireUser claims = .ok (tenantId, userId)) {name : String}
    (matched : matchesName 64 name = true) :
    ∃ slot : VaultSlot, slot.key = (tenantId, userId, name) := by
  obtain ⟨tenant, user⟩ := named_of_requireUser generated passed
  exact ⟨⟨tenantId, userId, name, tenant, user, matched⟩, rfl⟩

/-- Who may read a key is a user, and its name is one that the routes take. -/
theorem of_requireKey {keyName : String} (passed : requireKey claims keyName = .ok (tenantId, userId)) :
    requireUser claims = .ok (tenantId, userId) ∧ matchesName 64 keyName = true := by
  obtain ⟨user, isUser, passed⟩ := bind_ok_iff.mp passed
  split at passed
  case isFalse other => cases passed
  case isTrue matched =>
    cases passed
    exact ⟨isUser, matched⟩

/-- Who may store a key is a user, and its name is one that the routes take. -/
theorem of_requireStore {body : StoreKeyRequest}
    (passed : requireStore claims body = .ok (tenantId, userId)) :
    requireUser claims = .ok (tenantId, userId) ∧ matchesName 64 body.name = true := by
  obtain ⟨user, isUser, passed⟩ := bind_ok_iff.mp passed
  split at passed
  case isFalse other => cases passed
  case isTrue matched =>
    split at passed
    case isTrue unfit => cases passed
    case isFalse fits =>
      cases passed
      exact ⟨isUser, matched⟩

end Checks

section Documents

variable {vault : Vault} {disk : LocalStorage} {map : VaultMap}

/-- A document reads back from under its key. -/
theorem readJson_document (laws : CipherLaws vault.encryptor) (nonce draw : String)
    (slot : VaultSlot) (entry : VaultEntry) :
    vault.storage.readJson slot.storageKey (vault.storage.writeJson nonce slot.storageKey
      (vault.document draw slot.tenantId slot.userId slot.name entry)) =
        some (.obj (vault.document draw slot.tenantId slot.userId slot.name entry)) :=
  readJson_writeJson laws nonce rfl rfl

/-- What the routes read of a place is the document of its entry. -/
theorem readJson_of_stands (laws : CipherLaws vault.encryptor) (stands : vault.Stands disk map)
    (slot : VaultSlot) :
    (map slot.key = none → vault.readJson disk slot.storageKey = .ok none) ∧
      ∀ entry, map slot.key = some entry → ∃ draw, vault.readJson disk slot.storageKey =
        .ok (some (.obj (vault.document draw slot.tenantId slot.userId slot.name entry))) := by
  have read : vault.readJson disk slot.storageKey =
      .ok ((disk.lookup slot.path).bind (vault.storage.readJson slot.storageKey)) := by
    unfold Vault.readJson LocalStorage.readJson
    rw [slot.resolve_storageKey]
    rfl
  rw [read]
  constructor
  · intro none
    rw [stands.absent slot none]
    rfl
  · intro entry held
    obtain ⟨nonce, draw, stored⟩ := stands.present slot entry held
    refine ⟨draw, ?_⟩
    rw [stored]
    exact congrArg Except.ok (readJson_document laws nonce draw slot entry)

/-- A secret decrypts from the document of its place. -/
theorem decryptValue_document (laws : CipherLaws vault.encryptor) (draw : String)
    (slot : VaultSlot) (entry : VaultEntry) :
    vault.decryptValue slot.tenantId slot.name
      (.obj (vault.document draw slot.tenantId slot.userId slot.name entry)) = .ok entry.value :=
  laws.decrypts _ _ _ _

end Documents

section Steps

variable {vault : Vault} {disk : LocalStorage} {map : VaultMap}

/-- The file of a place is in the directory of the vault. -/
theorem VaultSlot.inDirectory_path (slot : VaultSlot) : InDirectory "vault" slot.path := rfl

/-- An empty vault stands for no secrets. -/
theorem stands_empty (clean : ∀ path, InDirectory "vault" path → disk.lookup path = none) :
    vault.Stands disk .empty where
  files path data found inside := by
    rw [clean path inside] at found
    cases found
  keys _ _ held := by cases held
  absent slot _ := clean _ slot.inDirectory_path
  present _ _ held := by cases held

/-- Writing the document of an entry puts it under its key. -/
theorem stands_put (stands : vault.Stands disk map) (slot : VaultSlot) (nonce draw : String)
    (entry : VaultEntry) :
    vault.Stands (disk.put slot.path (vault.storage.writeJson nonce slot.storageKey
      (vault.document draw slot.tenantId slot.userId slot.name entry))) (map.put slot.key entry) where
  files path data found inside := by
    by_cases here : path = slot.path
    · exact ⟨slot, here.symm⟩
    · rw [LocalStorage.lookup_put_ne _ _ here] at found
      exact stands.files path data found inside
  keys key kept held := by
    by_cases here : key = slot.key
    · exact ⟨slot, here.symm⟩
    · exact stands.keys key kept ((if_neg here).symm.trans held)
  absent other none := by
    have apart : other ≠ slot := by
      intro same
      rw [same] at none
      exact absurd ((if_pos rfl).symm.trans none) (by simp)
    have keys : other.key ≠ slot.key := fun same => apart (VaultSlot.eq_of_key same)
    have paths : other.path ≠ slot.path := fun same => apart (VaultSlot.eq_of_path same)
    rw [LocalStorage.lookup_put_ne _ _ paths]
    exact stands.absent other ((if_neg keys).symm.trans none)
  present other kept held := by
    by_cases same : other = slot
    · subst same
      have is : some entry = some kept := (if_pos rfl).symm.trans held
      cases is
      exact ⟨nonce, draw, LocalStorage.lookup_put_self _ _ _⟩
    · have keys : other.key ≠ slot.key := fun is => same (VaultSlot.eq_of_key is)
      have paths : other.path ≠ slot.path := fun is => same (VaultSlot.eq_of_path is)
      rw [LocalStorage.lookup_put_ne _ _ paths]
      exact stands.present other kept ((if_neg keys).symm.trans held)

/-- Removing the file of a place erases its key. -/
theorem stands_remove (stands : vault.Stands disk map) (slot : VaultSlot) :
    vault.Stands (disk.remove slot.path) (map.erase slot.key) where
  files path data found inside := by
    by_cases here : path = slot.path
    · exact ⟨slot, here.symm⟩
    · rw [LocalStorage.lookup_remove_ne _ here] at found
      exact stands.files path data found inside
  keys key kept held := by
    by_cases here : key = slot.key
    · exact ⟨slot, here.symm⟩
    · exact stands.keys key kept ((if_neg here).symm.trans held)
  absent other none := by
    by_cases same : other = slot
    · rw [same]
      exact LocalStorage.lookup_remove_self _ _
    · have keys : other.key ≠ slot.key := fun is => same (VaultSlot.eq_of_key is)
      have paths : other.path ≠ slot.path := fun is => same (VaultSlot.eq_of_path is)
      rw [LocalStorage.lookup_remove_ne _ paths]
      exact stands.absent other ((if_neg keys).symm.trans none)
  present other kept held := by
    have keys : other.key ≠ slot.key := by
      intro same
      exact absurd ((if_pos same).symm.trans held) (by simp)
    have paths : other.path ≠ slot.path := fun is => keys (congrArg VaultSlot.key (VaultSlot.eq_of_path is))
    rw [LocalStorage.lookup_remove_ne _ paths]
    exact stands.present other kept ((if_neg keys).symm.trans held)

/-- A request keeps the disk and the map together. -/
theorem stands_step (laws : CipherLaws vault.encryptor) (stands : vault.Stands disk map)
    (request : VaultRequest) (generated : Generated request.claims) :
    vault.Stands (vault.leaves disk request) (map.step request) := by
  cases request with
  | get claims keyName => exact stands
  | list claims => exact stands
  | store claims body draws =>
    unfold Vault.leaves Vault.storeVaultKey VaultMap.step
    dsimp only
    cases passed : requireStore claims body with
    | error refusal => exact stands
    | ok user =>
      obtain ⟨tenantId, userId⟩ := user
      have ⟨isUser, matched⟩ := of_requireStore passed
      obtain ⟨slot, key⟩ := slot_of_user generated isUser matched
      obtain ⟨tenant, user, name⟩ : slot.tenantId = tenantId ∧ slot.userId = userId ∧
          slot.name = body.name := by simpa only [VaultSlot.key, Prod.mk.injEq] using key
      subst tenant user
      dsimp only
      rw [← name]
      have written : vault.writeJson disk draws.documentNonce slot.storageKey
          (vault.document draws.valueNonce slot.tenantId slot.userId slot.name
            ⟨body.value, body.description, draws.now.isoformat⟩) = _ :=
        congrArg (Except.map _) slot.resolve_storageKey
      unfold VaultSlot.storageKey at written
      rw [written]
      exact stands_put stands slot _ _ _
  | delete claims keyName =>
    unfold Vault.leaves Vault.deleteVaultKey VaultMap.step
    dsimp only
    cases passed : requireKey claims keyName with
    | error refusal => exact stands
    | ok user =>
      obtain ⟨tenantId, userId⟩ := user
      have ⟨isUser, matched⟩ := of_requireKey passed
      obtain ⟨slot, key⟩ := slot_of_user generated isUser matched
      obtain ⟨tenant, user, name⟩ : slot.tenantId = tenantId ∧ slot.userId = userId ∧
          slot.name = keyName := by simpa only [VaultSlot.key, Prod.mk.injEq] using key
      subst tenant user name
      dsimp only
      rw [← key]
      have ⟨missing, found⟩ := readJson_of_stands laws stands slot
      unfold VaultSlot.storageKey at missing found
      have deleted : disk.delete (vaultPath slot.tenantId slot.userId slot.name) = _ :=
        congrArg (Except.map _) slot.resolve_storageKey
      cases held : map slot.key with
      | none =>
        have same : map.erase slot.key = map := by
          funext other
          by_cases here : other = slot.key
          · rw [here, held]
            exact if_pos rfl
          · exact if_neg here
        rw [missing held, same]
        exact stands
      | some entry =>
        obtain ⟨draw, read⟩ := found entry held
        rw [read, deleted]
        exact stands_remove stands slot

/-- Requests keep the disk and the map together. -/
theorem stands_run (laws : CipherLaws vault.encryptor)
    (clean : ∀ path, InDirectory "vault" path → disk.lookup path = none)
    {requests : List VaultRequest} (generated : ∀ request ∈ requests, Generated request.claims) :
    vault.Stands (requests.foldl vault.leaves disk) (requests.foldl VaultMap.step .empty) := by
  induction requests using List.reverseRecOn with
  | nil => exact stands_empty clean
  | append_singleton earlier request ih =>
    have before := ih fun other inside => generated other (List.mem_append_left _ inside)
    rw [List.foldl_concat, List.foldl_concat]
    exact stands_step laws before request
      (generated request (List.mem_append_right _ List.mem_cons_self))

end Steps

section Answers

variable {vault : Vault} {disk : LocalStorage} {map : VaultMap} {claims : TokenClaims}

/-- What a user is answered about a name. -/
def VaultMap.answer (map : VaultMap) (claims : TokenClaims) (keyName : String) :
    Reply (String × String) :=
  match requireKey claims keyName with
  | .error refusal => .error refusal
  | .ok (tenantId, userId) =>
    match map (tenantId, userId, keyName) with
    | none => .error ⟨404, "Key not found in vault"⟩
    | some entry => .ok (keyName, entry.value)

/-- A list holds what a user has stored, every name once. -/
structure VaultMap.Lists (map : VaultMap) (tenantId userId : String) (items : List KeyListItem) :
    Prop where
  /-- No name is repeated. -/
  once : (items.map KeyListItem.name).Nodup
  /-- The items are the present names, with what was stored with them. -/
  complete : ∀ item, item ∈ items ↔ ∃ entry, map (tenantId, userId, item.name) = some entry ∧
    item.description = entry.description ∧ item.updatedAt = entry.updatedAt

/-- Reading a key answers what the map says. -/
theorem getVaultKey_eq (laws : CipherLaws vault.encryptor) (stands : vault.Stands disk map)
    (generated : Generated claims) (keyName : String) :
    vault.getVaultKey disk claims keyName = .ok (map.answer claims keyName) := by
  unfold Vault.getVaultKey VaultMap.answer
  cases passed : requireKey claims keyName with
  | error refusal => rfl
  | ok user =>
    obtain ⟨tenantId, userId⟩ := user
    have ⟨isUser, matched⟩ := of_requireKey passed
    obtain ⟨slot, key⟩ := slot_of_user generated isUser matched
    obtain ⟨tenant, user, name⟩ : slot.tenantId = tenantId ∧ slot.userId = userId ∧
        slot.name = keyName := by simpa only [VaultSlot.key, Prod.mk.injEq] using key
    subst tenant user name
    dsimp only
    rw [← key]
    have ⟨missing, found⟩ := readJson_of_stands laws stands slot
    unfold VaultSlot.storageKey at missing found
    cases held : map slot.key with
    | none =>
      rw [missing held]
      rfl
    | some entry =>
      obtain ⟨draw, read⟩ := found entry held
      rw [read]
      have opened := decryptValue_document laws draw slot entry
      simp only [Except.map, opened]

section Listing

variable {tenantId userId : String} (tenantNamed : IsPart tenantId.toList)
  (userNamed : IsPart userId.toList)

/-- The name that a file is stored under. -/
def nameOf (path : Path) : String :=
  String.ofList ((path.parts.getLastD []).take ((path.parts.getLastD []).length - 5))

/-- The item of a file. -/
def itemOf (map : VaultMap) (tenantId userId : String) (path : Path) : KeyListItem :=
  let entry := (map (tenantId, userId, nameOf path)).getD ⟨"", "", ""⟩
  { name := nameOf path, description := entry.description, updatedAt := entry.updatedAt }

/-- The name of the file of a place. -/
theorem nameOf_path (slot : VaultSlot) : nameOf slot.path = slot.name := by
  have last : slot.path.parts.getLastD [] = slot.name.toList ++ ".json".toList := by
    rw [← String.toList_append]
    rfl
  have short : (slot.name.toList ++ ".json".toList).length - 5 = slot.name.toList.length := by
    have ending : ".json".toList.length = 5 := rfl
    rw [List.length_append, ending]
    omega
  unfold nameOf
  rw [last, short, List.take_left, String.ofList_toList]

/-- The files of a user's directory are those of its places. -/
theorem mem_rglob_user (stands : vault.Stands disk map) {path : Path} :
    path ∈ disk.rglob (userDirectory tenantNamed userNamed) ↔
      ∃ slot : VaultSlot, slot.path = path ∧ slot.tenantId = tenantId ∧ slot.userId = userId ∧
        (map slot.key).isSome = true := by
  rw [(disk.rglob_perm _).mem_iff, List.mem_filter, LocalStorage.mem_paths_iff, Bool.and_eq_true]
  constructor
  · intro ⟨⟨data, found⟩, below, _⟩
    obtain ⟨rest, -, parts⟩ := below_iff.mp below
    have inside : InDirectory "vault" path := by
      unfold InDirectory
      rw [parts]
      rfl
    obtain ⟨slot, same⟩ := stands.files path data found inside
    subst same
    have split : "vault".toList :: slot.tenantId.toList :: slot.userId.toList ::
        [(slot.name ++ ".json").toList] =
          "vault".toList :: tenantId.toList :: userId.toList :: rest := parts
    simp only [List.cons.injEq, true_and] at split
    refine ⟨slot, rfl, String.toList_injective split.1, String.toList_injective split.2.1, ?_⟩
    cases held : map slot.key with
    | none =>
      rw [stands.absent slot held] at found
      cases found
    | some entry => rfl
  · intro ⟨slot, same, tenant, user, stored⟩
    subst same tenant user
    obtain ⟨entry, held⟩ := Option.isSome_iff_exists.mp stored
    obtain ⟨nonce, draw, stored⟩ := stands.present slot entry held
    refine ⟨⟨_, stored⟩, below_iff.mpr ⟨[(slot.name ++ ".json").toList], by simp, rfl⟩, ?_⟩
    have ending : ".json".toList <:+ (slot.name ++ ".json").toList := by
      rw [String.toList_append]
      exact List.suffix_append _ _
    exact List.isSuffixOf_iff_suffix.mpr ending

/-- The item of a place with an entry. -/
theorem itemOf_path {slot : VaultSlot} {entry : VaultEntry} (held : map slot.key = some entry) :
    itemOf map slot.tenantId slot.userId slot.path =
      ⟨slot.name, entry.description, entry.updatedAt⟩ := by
  have same : map (slot.tenantId, slot.userId, slot.name) = some entry := held
  unfold itemOf
  rw [nameOf_path, same]
  rfl

/-- The item that is read from a listed file. -/
theorem keyListItem_of_listed (laws : CipherLaws vault.encryptor) (stands : vault.Stands disk map)
    (path : Path) (listed : path ∈ disk.rglob (userDirectory tenantNamed userNamed)) :
    (do keyListItem (← vault.readJson disk path.toKey)) =
      .ok (some (itemOf map tenantId userId path)) := by
  obtain ⟨slot, same, tenant, user, stored⟩ := (mem_rglob_user tenantNamed userNamed stands).mp listed
  subst same tenant user
  obtain ⟨entry, held⟩ := Option.isSome_iff_exists.mp stored
  obtain ⟨draw, read⟩ := (readJson_of_stands laws stands slot).2 entry held
  rw [slot.toKey_path, read, itemOf_path held]
  rfl

/-- The items of the listed files are what a user has stored. -/
theorem lists_rglob (stands : vault.Stands disk map) :
    map.Lists tenantId userId ((disk.rglob (userDirectory tenantNamed userNamed)).map
      (itemOf map tenantId userId)) where
  once := by
    have distinct := (disk.rglob_perm (userDirectory tenantNamed userNamed)).nodup_iff.mpr
      (disk.distinct.filter _)
    rw [List.map_map]
    refine distinct.map_on fun one inOne two inTwo same => ?_
    obtain ⟨first, isFirst, tenant, user, -⟩ := (mem_rglob_user tenantNamed userNamed stands).mp inOne
    obtain ⟨second, isSecond, tenant', user', -⟩ :=
      (mem_rglob_user tenantNamed userNamed stands).mp inTwo
    subst isFirst isSecond
    have names : nameOf first.path = nameOf second.path := same
    rw [nameOf_path, nameOf_path] at names
    have slots : first = second :=
      VaultSlot.ext (tenant.trans tenant'.symm) (user.trans user'.symm) names
    rw [slots]
  complete item := by
    rw [List.mem_map]
    constructor
    · intro ⟨path, listed, is⟩
      obtain ⟨slot, same, tenant, user, stored⟩ :=
        (mem_rglob_user tenantNamed userNamed stands).mp listed
      subst same tenant user
      obtain ⟨entry, held⟩ := Option.isSome_iff_exists.mp stored
      rw [itemOf_path held] at is
      subst is
      exact ⟨entry, held, rfl, rfl⟩
    · intro ⟨entry, held, description, updatedAt⟩
      obtain ⟨slot, key⟩ := stands.keys _ entry held
      rw [← key] at held
      obtain ⟨tenant, user, name⟩ : slot.tenantId = tenantId ∧ slot.userId = userId ∧
          slot.name = item.name := by simpa only [VaultSlot.key, Prod.mk.injEq] using key
      subst tenant user
      refine ⟨slot.path, ?_, ?_⟩
      · exact (mem_rglob_user tenantNamed userNamed stands).mpr ⟨slot, rfl, rfl, rfl, by rw [held]; rfl⟩
      · rw [itemOf_path held, name, ← description, ← updatedAt]

include tenantNamed userNamed in
/-- Listing gives what a user has stored. -/
theorem listVaultKeys_eq (laws : CipherLaws vault.encryptor) (stands : vault.Stands disk map)
    (passed : requireUser claims = .ok (tenantId, userId)) :
    ∃ items, vault.listVaultKeys disk claims = .ok (.ok items) ∧
      map.Lists tenantId userId items := by
  let directory := userDirectory tenantNamed userNamed
  have apart : disk.lookup directory = none := by
    cases found : disk.lookup directory with
    | none => rfl
    | some data =>
      obtain ⟨slot, same⟩ := stands.files directory data found rfl
      have lengths := congrArg (fun path => path.parts.length) same
      cases lengths
  have keys := LocalStorage.listKeys_directory (resolve_vaultUserPrefix tenantNamed userNamed) apart
  let items := (disk.rglob directory).map (itemOf map tenantId userId)
  have read : ((disk.rglob directory).map Path.toKey).mapM
      (fun key => do keyListItem (← vault.readJson disk key)) = .ok (items.map some) := by
    have each := mapM_eq_map (keyListItem_of_listed tenantNamed userNamed laws stands)
    rw [List.mapM_map, List.map_map]
    exact each
  have kept : (items.map some).filterMap id = items := by
    rw [List.filterMap_map]
    exact List.filterMap_some
  refine ⟨items, ?_, lists_rglob tenantNamed userNamed stands⟩
  unfold Vault.listVaultKeys
  rw [passed]
  refine bind_ok_iff.mpr ⟨_, keys, bind_ok_iff.mpr ⟨_, read, ?_⟩⟩
  rw [kept]
  rfl

end Listing

end Answers

/-- A request changes nothing of what another user has stored. -/
theorem VaultMap.step_other (map : VaultMap) {request : VaultRequest} {claims : TokenClaims}
    (other : (request.claims.tenantId, request.claims.userId) ≠ (claims.tenantId, claims.userId))
    (keyName : String) : map.step request (claims.tenantId, claims.userId, keyName) =
      map (claims.tenantId, claims.userId, keyName) := by
  have apart {tenantId userId name : String}
      (passed : requireUser request.claims = .ok (tenantId, userId)) :
      (claims.tenantId, claims.userId, keyName) ≠ (tenantId, userId, name) := by
    intro same
    obtain ⟨tenant, user, -, -⟩ := of_requireUser passed
    simp only [Prod.mk.injEq] at same
    exact other (by rw [tenant, user, same.1, same.2.1])
  cases request with
  | get => rfl
  | list => rfl
  | store own body draws =>
    unfold VaultMap.step
    dsimp only
    cases passed : requireStore own body with
    | error refusal => rfl
    | ok user => exact if_neg (apart (of_requireStore passed).1)
  | delete own name =>
    unfold VaultMap.step
    dsimp only
    cases passed : requireKey own name with
    | error refusal => rfl
    | ok user => exact if_neg (apart (of_requireKey passed).1)

/-- After any requests reading a key answers what its user last stored and has not deleted since,
and listing gives the names of the user; what another user asks for changes neither. -/
theorem vault_refines (vault : Vault) (laws : CipherLaws vault.encryptor) (start : LocalStorage)
    (clean : ∀ path, InDirectory "vault" path → start.lookup path = none)
    (requests : List VaultRequest) (generated : ∀ request ∈ requests, Generated request.claims)
    (claims : TokenClaims) (asking : Generated claims) :
    let disk := requests.foldl vault.leaves start
    let map := requests.foldl VaultMap.step .empty
    (∀ keyName, vault.getVaultKey disk claims keyName = .ok (map.answer claims keyName)) ∧
      (match requireUser claims with
      | .error refusal => vault.listVaultKeys disk claims = .ok (.error refusal)
      | .ok (tenantId, userId) => ∃ items, vault.listVaultKeys disk claims = .ok (.ok items) ∧
          map.Lists tenantId userId items) ∧
      ∀ request, (request.claims.tenantId, request.claims.userId) ≠ (claims.tenantId, claims.userId) →
        ∀ keyName, map.step request (claims.tenantId, claims.userId, keyName) =
          map (claims.tenantId, claims.userId, keyName) := by
  intro disk map
  have stands : vault.Stands disk map := stands_run laws clean generated
  refine ⟨getVaultKey_eq laws stands asking, ?_, ?_⟩
  · cases passed : requireUser claims with
    | error refusal =>
      show vault.listVaultKeys disk claims = _
      unfold Vault.listVaultKeys
      rw [passed]
    | ok user =>
      obtain ⟨tenantId, userId⟩ := user
      obtain ⟨tenantNamed, userNamed⟩ := named_of_requireUser asking passed
      exact listVaultKeys_eq tenantNamed userNamed laws stands passed
  · exact fun request other => map.step_other other

/-- A member of a tenant. -/
def memberOf (userId : String) : TokenClaims :=
  { tenantId := "tn_a", role := "free", email := "member@example.org", userId, userRole := "member" }

/-- A vault whose encryptor hides nothing. -/
def sampleVault : Vault := ⟨⟨.fractions, sampleEncryptor⟩⟩

/-- A member stores a key, and another deletes its own of that name. -/
def sampleRequests : List VaultRequest :=
  [.store (memberOf "usr_1") { name := "notion_api_token", value := "secret" }
     ⟨"one", "two", .newYear⟩,
   .delete (memberOf "usr_2") "notion_api_token"]

/-- The member still reads its key. -/
theorem vault_refines_sample :
    sampleVault.getVaultKey (sampleRequests.foldl sampleVault.leaves .empty) (memberOf "usr_1")
      "notion_api_token" = .ok (.ok ("notion_api_token", "secret")) := by
  have generated : ∀ request ∈ sampleRequests, Generated request.claims := by
    unfold Generated
    decide
  have read := (vault_refines sampleVault sampleEncryptor_laws .empty (fun _ _ => rfl) sampleRequests
    generated (memberOf "usr_1") ⟨fun _ => by decide, fun _ => by decide⟩).1 "notion_api_token"
  have answer : VaultMap.answer (sampleRequests.foldl VaultMap.step .empty) (memberOf "usr_1")
      "notion_api_token" = .ok ("notion_api_token", "secret") := by decide
  exact read.trans (congrArg Except.ok answer)

/-- Where nothing is stored, a name that the routes do not take is not answered with a 404, nor is
someone who may not manage keys. -/
theorem answers_not_404 :
    sampleVault.getVaultKey .empty (memberOf "usr_1") "notion token" =
        .ok (.error ⟨400, "Invalid key name format"⟩) ∧
      sampleVault.getVaultKey .empty { memberOf "usr_1" with userRole := "viewer" }
        "notion_api_token" = .ok (.error ⟨403, "Permission denied: manage:api_keys"⟩) := by
  decide

end VelaFlow.Api
