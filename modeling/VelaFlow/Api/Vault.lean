import VelaFlow.Api.Auth
import VelaFlow.Foundation.Names
import VelaFlow.Storage.Encrypted
import VelaFlow.Storage.Local

/-!
# The vault of `api/routes/vault.py`

Every user stores secrets under names. A secret is encrypted for its tenant and name, and the
document around it for its tenant and storage key; both are decrypted on the way back. The tenant
and the user are directories and the name is a file.
-/
namespace VelaFlow.Api

open Security Storage

/-- `StoreKeyRequest`. -/
structure StoreKeyRequest where
  /-- `name`. -/
  name : String
  /-- `value`. -/
  value : String
  /-- `description`. -/
  description : String := ""

/-- `KeyListItem`. -/
structure KeyListItem where
  /-- `name`. -/
  name : String
  /-- `description`. -/
  description : String
  /-- `updated_at`. -/
  updatedAt : String
  deriving DecidableEq, Repr

/-- What is drawn and read of the clock while a key is stored. -/
structure StoreDraws where
  /-- The nonce of the value. -/
  valueNonce : String
  /-- The nonce of the document. -/
  documentNonce : String
  /-- `datetime.now(timezone.utc)`. -/
  now : DateTime

/-- What is kept under a name. -/
structure VaultEntry where
  /-- The secret. -/
  value : String
  /-- Its description. -/
  description : String
  /-- When it was stored. -/
  updatedAt : String

/-- `_vault_path`. -/
def vaultPath (tenantId userId keyName : String) : String :=
  "vault/" ++ tenantId ++ "/" ++ userId ++ "/" ++ keyName ++ ".json"

/-- `_vault_user_prefix`. -/
def vaultUserPrefix (tenantId userId : String) : String := "vault/" ++ tenantId ++ "/" ++ userId ++ "/"

/-- What every route checks first, with the tenant and the user it goes on with. -/
def requireUser (claims : TokenClaims) : Reply (String × String) := do
  requirePermission {} claims .manageApiKeys
  let tenantId ← getCurrentTenantId claims
  if claims.userId = "" then .error ⟨401, "User context required"⟩
  else .ok (tenantId, claims.userId)

/-- What `get_vault_key` and `delete_vault_key` check. -/
def requireKey (claims : TokenClaims) (keyName : String) : Reply (String × String) := do
  let user ← requireUser claims
  if matchesName 64 keyName then .ok user else .error ⟨400, "Invalid key name format"⟩

/-- What `store_vault_key` checks. -/
def requireStore (claims : TokenClaims) (body : StoreKeyRequest) : Reply (String × String) := do
  let user ← requireUser claims
  if matchesName 64 body.name then
    if body.value = "" ∨ 4096 < body.value.length then
      .error ⟨400, "Key value must be 1-4096 characters."⟩
    else .ok user
  else .error ⟨400, "Key name must be 1-64 chars: alphanumeric, underscore, hyphen only."⟩

/-- A field that the response takes as a text. -/
def itemField (members : Dict) (field : String) : Except PyException String :=
  match members.getD field (.str "") with
  | .str text => .ok text
  | _ => .error (.other "ValidationError" field)

/-- The item of a document, if there is one. -/
def keyListItem : Option Json → Except PyException (Option KeyListItem)
  | none => .ok none
  | some data =>
    if data.truthy then
      match data with
      | .obj members => do
        let name ← itemField members "name"
        let description ← itemField members "description"
        let updatedAt ← itemField members "updated_at"
        return some { name, description, updatedAt }
      | _ => .error (.other "AttributeError" "get")
    else .ok none

/-- The storage of the routes over its local one, with its encryptor, which the routes share. -/
structure Vault where
  /-- `get_storage`. -/
  storage : EncryptedStorage

namespace Vault

variable (vault : Vault) (disk : LocalStorage)

/-- `get_encryptor`. -/
def encryptor : FieldEncryptor := vault.storage.encryptor

/-- `storage.write_json`. -/
def writeJson (nonce key : String) (data : Dict) : Except PyException LocalStorage :=
  disk.writeJson key (vault.storage.writeJson nonce key data)

/-- `storage.read_json`. -/
def readJson (key : String) : Except PyException (Option Json) :=
  (disk.readJson key).map fun raw => raw.bind (vault.storage.readJson key)

/-- The document that `store_vault_key` writes. -/
def document (valueNonce tenantId userId name : String) (entry : VaultEntry) : Dict :=
  [("name", .str name), ("description", .str entry.description),
   ("encrypted_value",
     .str (vault.encryptor.encrypt valueNonce entry.value tenantId ("vault_" ++ name))),
   ("tenant_id", .str tenantId), ("user_id", .str userId), ("updated_at", .str entry.updatedAt)]

/-- `store_vault_key`. -/
def storeVaultKey (claims : TokenClaims) (body : StoreKeyRequest) (draws : StoreDraws) :
    Except PyException (Reply String) × LocalStorage :=
  match requireStore claims body with
  | .error refusal => (.ok (.error refusal), disk)
  | .ok (tenantId, userId) =>
    match vault.writeJson disk draws.documentNonce (vaultPath tenantId userId body.name)
      (vault.document draws.valueNonce tenantId userId body.name
        ⟨body.value, body.description, draws.now.isoformat⟩) with
    | .error exception => (.error exception, disk)
    | .ok written => (.ok (.ok body.name), written)

/-- `encryptor.decrypt(data["encrypted_value"], …)`. -/
def decryptValue (tenantId keyName : String) : Json → Except PyException String
  | .obj members =>
    match Dict.get? members "encrypted_value" with
    | some (.str encrypted) => vault.encryptor.decrypt encrypted tenantId ("vault_" ++ keyName)
    | some _ => .error (.typeError "encrypted_value")
    | none => .error (.keyError "encrypted_value")
  | _ => .error (.typeError "encrypted_value")

/-- `get_vault_key`: the name and the value. -/
def getVaultKey (claims : TokenClaims) (keyName : String) :
    Except PyException (Reply (String × String)) :=
  match requireKey claims keyName with
  | .error refusal => .ok (.error refusal)
  | .ok (tenantId, userId) =>
    (vault.readJson disk (vaultPath tenantId userId keyName)).map fun
    | none => .error ⟨404, "Key not found in vault"⟩
    | some data =>
      match vault.decryptValue tenantId keyName data with
      | .ok value => .ok (keyName, value)
      | .error _ =>
        .error ⟨500, "Failed to decrypt vault key. Master key may have changed."⟩

/-- `list_vault_keys`. -/
def listVaultKeys (claims : TokenClaims) : Except PyException (Reply (List KeyListItem)) :=
  match requireUser claims with
  | .error refusal => .ok (.error refusal)
  | .ok (tenantId, userId) => do
    let paths ← disk.listKeys (vaultUserPrefix tenantId userId)
    let items ← paths.mapM fun path => do keyListItem (← vault.readJson disk path)
    return .ok (items.filterMap id)

/-- `delete_vault_key`; the storage has a `delete`. -/
def deleteVaultKey (claims : TokenClaims) (keyName : String) :
    Except PyException (Reply String) × LocalStorage :=
  match requireKey claims keyName with
  | .error refusal => (.ok (.error refusal), disk)
  | .ok (tenantId, userId) =>
    match vault.readJson disk (vaultPath tenantId userId keyName) with
    | .error exception => (.error exception, disk)
    | .ok none => (.ok (.error ⟨404, "Key not found in vault"⟩), disk)
    | .ok (some _) =>
      match disk.delete (vaultPath tenantId userId keyName) with
      | .error exception => (.error exception, disk)
      | .ok (_, left) => (.ok (.ok keyName), left)

end Vault

/-- A request to the vault. -/
inductive VaultRequest where
  /-- `store_vault_key`. -/
  | store (claims : TokenClaims) (body : StoreKeyRequest) (draws : StoreDraws)
  /-- `get_vault_key`. -/
  | get (claims : TokenClaims) (keyName : String)
  /-- `list_vault_keys`. -/
  | list (claims : TokenClaims)
  /-- `delete_vault_key`. -/
  | delete (claims : TokenClaims) (keyName : String)

/-- Who makes a request. -/
def VaultRequest.claims : VaultRequest → TokenClaims
  | store claims .. => claims
  | get claims _ => claims
  | list claims => claims
  | delete claims _ => claims

/-- The storage after a request. -/
def Vault.leaves (vault : Vault) (disk : LocalStorage) : VaultRequest → LocalStorage
  | .store claims body draws => (vault.storeVaultKey disk claims body draws).2
  | .get _ _ => disk
  | .list _ => disk
  | .delete claims keyName => (vault.deleteVaultKey disk claims keyName).2

end VelaFlow.Api
