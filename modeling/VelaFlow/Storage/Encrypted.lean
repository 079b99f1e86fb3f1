import VelaFlow.Foundation.JsonCodec
import VelaFlow.Security.Encryption

/-!
# The encrypted storage

`EncryptedStorageBackend` of `storage/encrypted.py`: what it hands to the backend it wraps, and
what it makes of what that backend returns. The pattern that finds a tenant in a key is read
part by part: its parts are separated by slashes and a greedy part ends only at one.
-/
namespace VelaFlow.Storage

open JsonText Security

/-- What stands before and after the first mark, when there is one. -/
def cut (mark : Char) : List Char → Option (List Char × List Char)
  | [] => none
  | character :: rest =>
    if character = mark then some ([], rest)
    else (cut mark rest).map fun parts => (character :: parts.1, parts.2)

/-- The first mark ends what has none. -/
theorem cut_append {mark : Char} {before : List Char} (free : mark ∉ before) (after : List Char) :
    cut mark (before ++ mark :: after) = some (before, after) := by
  induction before with
  | nil => simp [cut]
  | cons character rest ih =>
    have other : character ≠ mark := fun same => free (by simp [same])
    have restFree : mark ∉ rest := fun inside => free (List.mem_cons_of_mem character inside)
    simp [cut, other, ih restFree]

/-- Where there is no mark nothing is cut. -/
theorem cut_eq_none {mark : Char} {text : List Char} (free : mark ∉ text) :
    cut mark text = none := by
  induction text with
  | nil => rfl
  | cons character rest ih =>
    have other : character ≠ mark := fun same => free (by simp [same])
    have restFree : mark ∉ rest := fun inside => free (List.mem_cons_of_mem character inside)
    simp [cut, other, ih restFree]

/-- A text with a mark is cut at it. -/
theorem exists_cut {mark : Char} {text : List Char} (inside : mark ∈ text) :
    ∃ before after, mark ∉ before ∧ text = before ++ mark :: after := by
  induction text with
  | nil => cases inside
  | cons character rest ih =>
    by_cases same : character = mark
    · exact ⟨[], rest, List.not_mem_nil, by rw [same, List.nil_append]⟩
    · have later : mark ∈ rest := (List.mem_cons.mp inside).resolve_left (Ne.symm same)
      rcases ih later with ⟨before, after, free, whole⟩
      refine ⟨character :: before, after, ?_, by rw [whole, List.cons_append]⟩
      intro inside
      rcases List.mem_cons.mp inside with first | inside
      · exact same first.symm
      · exact free inside

/-- The directories whose first name is a tenant's. -/
def tenantLayers : List (List Char) :=
  ["bronze".toList, "silver".toList, "gold".toList, "runs".toList, "vault".toList,
   "users".toList, "invites".toList]

/-- `([^/]+)/`, at the beginning. -/
def directoryTenant (rest : List Char) : Option (List Char) :=
  match cut '/' rest with
  | some (name, _) => if name = [] then none else some name
  | none => none

/-- `([^/.]+)\.json$`. The dollar also stands before a last newline. -/
def recordTenant (rest : List Char) : Option (List Char) :=
  match cut '.' rest with
  | some (name, ending) =>
    if name = [] ∨ '/' ∈ name then none
    else if ending = "json".toList ∨ ending = "json\n".toList then some name
    else none
  | none => none

/-- `_extract_tenant_id`. -/
def extractTenantId (key : List Char) : Option (List Char) :=
  match cut '/' key with
  | some (first, rest) =>
    if tenantLayers.contains first then directoryTenant rest
    else if first = "tenants".toList then recordTenant rest
    else none
  | none => none

/-- What `EncryptedStorageBackend` takes from its libraries. -/
structure EncryptedStorage where
  /-- The text of floats. -/
  floats : FloatText
  /-- `_encryptor`. -/
  encryptor : FieldEncryptor

/-- Whether a key is of a partition marker. -/
def isMarkerKey (key : String) : Bool := ".partition".toList.isSuffixOf key.toList

/-- The envelope of a text. -/
def envelope (encryptor : FieldEncryptor) (nonce key plaintext tenantId : String) : Dict :=
  [("_encrypted", .bool true), ("_version", .int 1), ("_tenant_id", .str tenantId),
   ("_ciphertext", .str (encryptor.encrypt nonce plaintext tenantId ("storage:" ++ key)))]

namespace EncryptedStorage

/-- `write_json`: what the wrapped backend receives under the key. -/
def writeJson (storage : EncryptedStorage) (nonce key : String) (data : Dict) : Dict :=
  match extractTenantId key.toList with
  | some tenantId =>
    if isMarkerKey key then data
    else
      envelope storage.encryptor nonce key
        (String.ofList (write storage.floats .compact (.obj data))) (String.ofList tenantId)
  | none => data

/-- The `tenant_id` that `read_json` decrypts under. -/
def readTenantId (key : String) (raw : Dict) : Option Json :=
  if (raw.getD "_tenant_id" .null).truthy then raw.get? "_tenant_id"
  else (extractTenantId key.toList).map fun tenantId => .str (String.ofList tenantId)

/-- `read_json`, of what the wrapped backend returns. -/
def readJson (storage : EncryptedStorage) (key : String) (raw : Dict) : Option Json :=
  if (raw.getD "_encrypted" .null).truthy then
    match readTenantId key raw, raw.get? "_ciphertext" with
    | some (.str tenantId), some (.str ciphertext) =>
      match storage.encryptor.decrypt ciphertext tenantId ("storage:" ++ key) with
      | .ok plaintext => loads storage.floats plaintext.toList
      | .error _ => none
    | _, _ => none
  else some (.obj raw)

end EncryptedStorage

section Pattern

/-- A tenant layer has no slash. -/
theorem slash_not_mem_tenantLayers {layer : List Char} (known : layer ∈ tenantLayers) :
    '/' ∉ layer := by
  have all : ∀ layer ∈ tenantLayers, '/' ∉ layer := by decide
  exact all layer known

/-- The tenant of a key below a tenant layer. -/
theorem extractTenantId_layer {layer : List Char} (known : layer ∈ tenantLayers)
    (rest : List Char) : extractTenantId (layer ++ '/' :: rest) = directoryTenant rest := by
  have split := cut_append (slash_not_mem_tenantLayers known) rest
  simp [extractTenantId, split, known]

/-- The tenant of a key of a tenant's own directory. -/
theorem extractTenantId_tenants (rest : List Char) :
    extractTenantId ("tenants".toList ++ '/' :: rest) = recordTenant rest := by
  have free : '/' ∉ "tenants".toList := by decide
  have other : ¬ tenantLayers.contains "tenants".toList = true := by decide
  have split := cut_append free rest
  simp only [extractTenantId, split, if_neg other, if_true]

/-- A directory is named when there is a slash that is not the first character. -/
theorem directoryTenant_isSome_iff {rest : List Char} :
    (directoryTenant rest).isSome ↔ '/' ∈ rest ∧ rest.head? ≠ some '/' := by
  by_cases inside : '/' ∈ rest
  · rcases exists_cut inside with ⟨before, after, free, rfl⟩
    have split := cut_append free after
    unfold directoryTenant
    rw [split]
    cases before with
    | nil => simp
    | cons first more =>
      have other : first ≠ '/' := fun same => free (by simp [same])
      simp [other]
  · have split := cut_eq_none inside
    simp [directoryTenant, split, inside]

/-- A name below a directory of its own is found when it does not begin with a slash. -/
theorem directoryTenant_append_isSome_iff {name rest : List Char} :
    (directoryTenant (name ++ '/' :: rest)).isSome ↔ name ≠ [] ∧ name.head? ≠ some '/' := by
  rw [directoryTenant_isSome_iff]
  cases name with
  | nil => simp
  | cons first more => simp

/-- A text with its ending is a directory's when it is one without it. -/
theorem directoryTenant_ending_isSome_iff {name ending : List Char} (free : '/' ∉ ending) :
    (directoryTenant (name ++ ending)).isSome ↔ '/' ∈ name ∧ name.head? ≠ some '/' := by
  rw [directoryTenant_isSome_iff, List.mem_append, or_iff_left free]
  cases name with
  | nil => simp
  | cons first more => simp

/-- What is read in front of a dot is a tenant's name when the ending is a record's. -/
theorem recordTenant_cut {name : List Char} (free : '.' ∉ name) (ending : List Char) :
    recordTenant (name ++ '.' :: ending) =
      if name = [] ∨ '/' ∈ name then none
      else if ending = "json".toList ∨ ending = "json\n".toList then some name else none := by
  unfold recordTenant
  rw [cut_append free ending]

/-- The record of a tenant is found when its identifier has no slash and no dot. -/
theorem recordTenant_json_isSome_iff {name : List Char} :
    (recordTenant (name ++ ".json".toList)).isSome ↔ name ≠ [] ∧ '/' ∉ name ∧ '.' ∉ name := by
  by_cases inside : '.' ∈ name
  · rcases exists_cut inside with ⟨before, after, free, rfl⟩
    have long : after ++ ".json".toList ≠ "json".toList := by
      intro same
      have lengths := congrArg List.length same
      simp at lengths
    have last : after ++ ".json".toList ≠ "json\n".toList := by
      intro same
      have lasts := congrArg List.getLast? same
      simp at lasts
    have whole : before ++ '.' :: after ++ ".json".toList =
        before ++ '.' :: (after ++ ".json".toList) := by simp
    rw [whole, recordTenant_cut free, if_neg (not_or.mpr ⟨long, last⟩), ite_self]
    simp
  · have whole : name ++ ".json".toList = name ++ '.' :: "json".toList := rfl
    rw [whole, recordTenant_cut inside]
    by_cases empty : name = []
    · simp [empty]
    · by_cases slash : '/' ∈ name
      · simp [slash]
      · simp [empty, slash, inside]

/-- No file below a tenant's own directory is a record. -/
theorem recordTenant_below (name rest : List Char) :
    recordTenant (name ++ '/' :: rest) = none := by
  by_cases inside : '.' ∈ name
  · rcases exists_cut inside with ⟨before, after, free, rfl⟩
    have slashed : '/' ∈ after ++ '/' :: rest := by simp
    have plain : '/' ∉ "json".toList ∧ '/' ∉ "json\n".toList := by decide
    have long : after ++ '/' :: rest ≠ "json".toList := fun same => plain.1 (same ▸ slashed)
    have last : after ++ '/' :: rest ≠ "json\n".toList := fun same => plain.2 (same ▸ slashed)
    have whole : before ++ '.' :: after ++ '/' :: rest =
        before ++ '.' :: (after ++ '/' :: rest) := by simp
    rw [whole, recordTenant_cut free, if_neg (not_or.mpr ⟨long, last⟩), ite_self]
  · by_cases later : '.' ∈ rest
    · rcases exists_cut later with ⟨before, after, free, rfl⟩
      have whole : name ++ '/' :: (before ++ '.' :: after) =
          (name ++ '/' :: before) ++ '.' :: after := by simp
      have clear : '.' ∉ name ++ '/' :: before := by simp [inside, free]
      have slashed : '/' ∈ name ++ '/' :: before := by simp
      rw [whole, recordTenant_cut clear, if_pos (Or.inr slashed)]
    · have clear : '.' ∉ name ++ '/' :: rest := by simp [inside, later]
      unfold recordTenant
      rw [cut_eq_none clear]

/-- No found tenant is empty. -/
theorem extractTenantId_ne_nil {key tenantId : List Char}
    (found : extractTenantId key = some tenantId) : tenantId ≠ [] := by
  have directory : ∀ rest, directoryTenant rest ≠ some [] := by
    intro rest
    unfold directoryTenant
    split
    · split
      · simp
      · rename_i filled
        simpa using filled
    · simp
  have record : ∀ rest, recordTenant rest ≠ some [] := by
    intro rest
    unfold recordTenant
    split
    · split
      · simp
      · rename_i filled
        split
        · simpa using fun same => filled (Or.inl same)
        · simp
    · simp
  rintro rfl
  unfold extractTenantId at found
  split at found
  · split at found
    · exact directory _ found
    · split at found
      · exact record _ found
      · cases found
  · cases found

end Pattern

section RoundTrip

variable {storage : EncryptedStorage} {key : String} {data : Dict}

/-- An envelope is known by its mark and names the tenant and the ciphertext. -/
theorem readJson_envelope (laws : CipherLaws storage.encryptor) (nonce plaintext : String)
    {tenantId : String} (filled : tenantId ≠ "") :
    storage.readJson key (envelope storage.encryptor nonce key plaintext tenantId) =
      loads storage.floats plaintext.toList := by
  have named : EncryptedStorage.readTenantId key
      (envelope storage.encryptor nonce key plaintext tenantId) = some (.str tenantId) := by
    simp [EncryptedStorage.readTenantId, envelope, Dict.getD, Json.truthy, filled]
  unfold EncryptedStorage.readJson
  rw [named]
  simp [envelope, Dict.getD, Json.truthy, laws.decrypts]

/-- What is written under a key that names a tenant, or is not marked as encrypted, reads back. -/
theorem readJson_writeJson (laws : CipherLaws storage.encryptor) (nonce : String)
    (distinct : (Json.obj data).held = .obj data)
    (plain : (data.getD "_encrypted" .null).truthy = false) :
    storage.readJson key (storage.writeJson nonce key data) = some (.obj data) := by
  have kept : storage.readJson key data = some (.obj data) := by
    simp [EncryptedStorage.readJson, plain]
  unfold EncryptedStorage.writeJson
  cases found : extractTenantId key.toList with
  | none => exact kept
  | some tenantId =>
    by_cases marker : isMarkerKey key = true
    · simp only [marker, if_true]
      exact kept
    · have filled : String.ofList tenantId ≠ "" := by
        intro empty
        have none := congrArg String.toList empty
        rw [String.toList_ofList] at none
        exact extractTenantId_ne_nil found none
      simp only [marker, if_false, Bool.false_eq_true]
      rw [readJson_envelope laws nonce _ filled, String.toList_ofList, loads_write, distinct]

end RoundTrip

end VelaFlow.Storage
