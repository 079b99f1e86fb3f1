import VelaFlow.Security.FieldCipher
import VelaFlow.Storage.Encrypted

/-!
# Envelopes are bound to their keys

An envelope says which tenant it is to be decrypted for, so whoever can write to the disk chooses
that. The storage key is associated data: an envelope opens under the key it was written for alone.
What can be changed without notice is what the reader takes for the same: a text that decodes to the
same bytes, a tenant that is left out, and a ciphertext that was written under the same key before.
-/
namespace VelaFlow.Storage

open JsonText Security

variable {cipher : FieldCipher} {calls : Set FieldCall} {floats : FloatText} {key : String}
  {raw : Dict}

/-- The storage over a cipher. -/
def cipherStorage (floats : FloatText) (cipher : FieldCipher) : EncryptedStorage :=
  ⟨floats, cipher.encryptor⟩

/-- The call that `write_json` makes. -/
def storageCall (floats : FloatText) (draw key : String) (data : Dict) (tenantId : List Char) :
    FieldCall :=
  ⟨draw, String.ofList (write floats .compact (.obj data)), String.ofList tenantId,
    "storage:" ++ key⟩

/-- A document is marked as encrypted. -/
def IsMarked (raw : Dict) : Prop := (raw.getD "_encrypted" .null).truthy = true

/-- The ciphertext of a document decodes to what the encryptor made for a key. -/
def ProducedFor (cipher : FieldCipher) (calls : Set FieldCall) (key : String) (raw : Dict) : Prop :=
  ∃ text, raw.get? "_ciphertext" = some (.str text) ∧
    ∃ call ∈ calls, call.fieldName = "storage:" ++ key ∧
      Base64.decode text.toList = .ok (cipher.packed call)

/-- How an envelope that was written under a key is bound to it. -/
structure Bound (cipher : FieldCipher) (calls : Set FieldCall) (storage : EncryptedStorage)
    (key : String) (envelope : Dict) : Prop where
  /-- Under another key it gives nothing, whatever else is changed, unless its ciphertext is replaced
  by one made for that key. -/
  moved : ∀ other, other ≠ key → ∀ raw, IsMarked raw →
    (raw.get? "_ciphertext" = envelope.get? "_ciphertext" ∨ ¬ ProducedFor cipher calls other raw) →
      storage.readJson other raw = none
  /-- In place it gives nothing with a ciphertext that was not made for the key. -/
  altered : ∀ raw, IsMarked raw → ¬ ProducedFor cipher calls key raw →
    storage.readJson key raw = none
  /-- In place it gives nothing with another tenant. -/
  renamed : ∀ raw, IsMarked raw → raw.get? "_ciphertext" = envelope.get? "_ciphertext" →
    (raw.getD "_tenant_id" .null).truthy = true →
    raw.get? "_tenant_id" ≠ envelope.get? "_tenant_id" → storage.readJson key raw = none

/-- What a marked document gives was made for the key and for the tenant it names. -/
theorem produced_of_readJson (ideal : IdealFieldCipher cipher calls) (marked : IsMarked raw)
    {result : Json} (found : (cipherStorage floats cipher).readJson key raw = some result) :
    ∃ text tenantId, raw.get? "_ciphertext" = some (.str text) ∧
      EncryptedStorage.readTenantId key raw = some (.str tenantId) ∧
        ∃ call ∈ calls, call.tenantId = tenantId ∧ call.fieldName = "storage:" ++ key ∧
          Base64.decode text.toList = .ok (cipher.packed call) := by
  unfold IsMarked at marked
  unfold EncryptedStorage.readJson at found
  rw [if_pos marked] at found
  split at found
  · next tenantId text named held =>
    split at found
    · next plaintext opened => exact ⟨text, tenantId, held, named, ideal.of_decrypt opened⟩
    · cases found
  · cases found

/-- A marked document with a ciphertext that was not made for the key gives nothing. -/
theorem readJson_of_not_produced (ideal : IdealFieldCipher cipher calls) (marked : IsMarked raw)
    (foreign : ¬ ProducedFor cipher calls key raw) :
    (cipherStorage floats cipher).readJson key raw = none := by
  cases found : (cipherStorage floats cipher).readJson key raw with
  | none => rfl
  | some result =>
    obtain ⟨text, tenantId, held, -, call, made, -, field, reads⟩ :=
      produced_of_readJson ideal marked found
    exact absurd ⟨text, held, call, made, field, reads⟩ foreign

/-- A document with the ciphertext of a call gives what was encrypted, when the tenant it names, or
the one its key does, is that of the call. -/
theorem readJson_of_call (ideal : IdealFieldCipher cipher calls) (marked : IsMarked raw)
    {call : FieldCall} (made : call ∈ calls) (field : call.fieldName = "storage:" ++ key)
    (named : EncryptedStorage.readTenantId key raw = some (.str call.tenantId)) {text : String}
    (held : raw.get? "_ciphertext" = some (.str text))
    (reads : Base64.decode text.toList = .ok (cipher.packed call)) :
    (cipherStorage floats cipher).readJson key raw = loads floats call.plaintext.toList := by
  have opened := ideal.decrypt_encrypt made reads
  rw [field] at opened
  unfold IsMarked at marked
  unfold EncryptedStorage.readJson
  rw [if_pos marked, named, held]
  simp only [cipherStorage, FieldCipher.encryptor, opened]

/-- The envelope of a call. -/
def envelopeOf (cipher : FieldCipher) (call : FieldCall) : Dict :=
  [("_encrypted", .bool true), ("_version", .int 1), ("_tenant_id", .str call.tenantId),
    ("_ciphertext", .str (cipher.encrypt call))]

/-- What `write_json` stores under a key with a tenant. -/
theorem writeJson_eq {tenantId : List Char} (covered : extractTenantId key.toList = some tenantId)
    (data : Dict) (document : isMarkerKey key = false) (draw : String) :
    (cipherStorage floats cipher).writeJson draw key data =
      envelopeOf cipher (storageCall floats draw key data tenantId) := by
  unfold EncryptedStorage.writeJson
  simp only [covered, document, Bool.false_eq_true, if_false]
  rfl

/-- What is encrypted reads back as what was stored. -/
theorem loads_plaintext {data : Dict} (distinct : (Json.obj data).held = .obj data)
    (draw key : String) (tenantId : List Char) :
    loads floats (storageCall floats draw key data tenantId).plaintext.toList =
      some (.obj data) := by
  show loads floats (String.ofList (write floats .compact (.obj data))).toList = _
  rw [String.toList_ofList, loads_write, distinct]

/-- What was written under a key that names a tenant reads back, and its envelope is bound to the
key. -/
theorem envelope_bound (ideal : IdealFieldCipher cipher calls) {tenantId : List Char}
    (covered : extractTenantId key.toList = some tenantId) {data : Dict}
    (distinct : (Json.obj data).held = .obj data) (plain : data.get? "_encrypted" = none)
    {draw : String} (made : isMarkerKey key = false →
      storageCall floats draw key data tenantId ∈ calls) :
    (cipherStorage floats cipher).readJson key
        ((cipherStorage floats cipher).writeJson draw key data) = some (.obj data) ∧
      (isMarkerKey key = false → Bound cipher calls (cipherStorage floats cipher) key
        ((cipherStorage floats cipher).writeJson draw key data)) := by
  have filled : String.ofList tenantId ≠ "" := by
    intro empty
    have none := congrArg String.toList empty
    rw [String.toList_ofList] at none
    exact extractTenantId_ne_nil covered none
  cases document : isMarkerKey key with
  | true =>
    refine ⟨?_, fun is => nomatch is⟩
    unfold EncryptedStorage.writeJson EncryptedStorage.readJson
    simp [covered, document, Dict.getD, plain, Json.truthy]
  | false =>
    have inCalls := made document
    rw [writeJson_eq covered data document]
    constructor
    · have named : EncryptedStorage.readTenantId key
          (envelopeOf cipher (storageCall floats draw key data tenantId)) =
            some (.str (String.ofList tenantId)) := by
        simp [EncryptedStorage.readTenantId, envelopeOf, storageCall, Dict.getD, Json.truthy,
          filled]
      have marked : IsMarked (envelopeOf cipher (storageCall floats draw key data tenantId)) := by
        simp [IsMarked, envelopeOf, Dict.getD, Json.truthy]
      have held : (envelopeOf cipher (storageCall floats draw key data tenantId)).get?
          "_ciphertext" =
            some (.str (cipher.encrypt (storageCall floats draw key data tenantId))) := by
        simp [envelopeOf]
      rw [readJson_of_call ideal marked inCalls rfl named held (FieldCipher.decode_encrypt _)]
      exact loads_plaintext distinct draw key tenantId
    · intro _
      constructor
      · rintro other apart raw marked (same | foreign)
        · apply readJson_of_not_produced ideal marked
          rintro ⟨text, held, call, inOther, field, reads⟩
          have own : raw.get? "_ciphertext" =
              some (.str (cipher.encrypt (storageCall floats draw key data tenantId))) := same
          obtain rfl := Json.str.inj (Option.some.inj (held.symm.trans own))
          rw [FieldCipher.decode_encrypt] at reads
          have fields := (ideal.packed_inj inCalls inOther (Except.ok.inj reads)).2
          have keys : "storage:" ++ key = "storage:" ++ other := fields.trans field
          exact apart (String.append_right_inj _ |>.mp keys).symm
        · exact readJson_of_not_produced ideal marked foreign
      · exact fun raw marked foreign => readJson_of_not_produced ideal marked foreign
      · intro raw marked same truthy other
        cases found : (cipherStorage floats cipher).readJson key raw with
        | none => rfl
        | some result =>
          obtain ⟨text, named, held, tenant, call, inOther, owner, -, reads⟩ :=
            produced_of_readJson ideal marked found
          have own : raw.get? "_ciphertext" =
              some (.str (cipher.encrypt (storageCall floats draw key data tenantId))) := same
          obtain rfl := Json.str.inj (Option.some.inj (held.symm.trans own))
          rw [FieldCipher.decode_encrypt] at reads
          have tenants := (ideal.packed_inj inCalls inOther (Except.ok.inj reads)).1
          unfold EncryptedStorage.readTenantId at tenant
          rw [if_pos truthy] at tenant
          refine absurd ?_ other
          rw [tenant, ← owner, ← tenants]
          rfl

section Sample

/-- A key in a tenant's vault. -/
def profileKey : String := "vault/tn_1/profile.json"

/-- What is stored under it first. -/
def firstProfile : Dict := [("name", .str "Ann")]

/-- What is stored under it afterwards. -/
def secondProfile : Dict := [("name", .str "Bea")]

/-- The calls that store the one and the other. -/
def profileCalls : List FieldCall :=
  [storageCall .fractions "first" profileKey firstProfile "tn_1".toList,
    storageCall .fractions "second" profileKey secondProfile "tn_1".toList]

/-- The cipher of these calls is ideal. -/
theorem ideal_profileCalls :
    IdealFieldCipher (tableCipher profileCalls) {call | call ∈ profileCalls} := by
  apply ideal_tableCipher
  decide +kernel

/-- The key names its tenant. -/
theorem extractTenantId_profileKey : extractTenantId profileKey.toList = some "tn_1".toList := by
  decide

/-- The call that stores the first profile. -/
def firstCall : FieldCall :=
  storageCall .fractions "first" profileKey firstProfile "tn_1".toList

/-- The call that stores the second profile. -/
def secondCall : FieldCall :=
  storageCall .fractions "second" profileKey secondProfile "tn_1".toList

/-- The text of what is stored of the second profile, with the end of a line behind it. -/
def endedText : String :=
  String.ofList (Base64.encode ((tableCipher profileCalls).packed secondCall) ++ ['\n'])

/-- An envelope still gives data with its tenant left out, with the end of a line behind its
ciphertext, and with the ciphertext of what it replaced. -/
theorem altered_read_back :
    (cipherStorage .fractions (tableCipher profileCalls)).readJson profileKey
        ((envelopeOf (tableCipher profileCalls) secondCall).set "_tenant_id" (.str "")) =
          some (.obj secondProfile) ∧
      (cipherStorage .fractions (tableCipher profileCalls)).readJson profileKey
        ((envelopeOf (tableCipher profileCalls) secondCall).set "_ciphertext" (.str endedText)) =
          some (.obj secondProfile) ∧
      (cipherStorage .fractions (tableCipher profileCalls)).readJson profileKey
        ((envelopeOf (tableCipher profileCalls) secondCall).set "_ciphertext"
          (.str ((tableCipher profileCalls).encrypt firstCall))) = some (.obj firstProfile) := by
  have ended : Base64.decode endedText.toList =
      .ok ((tableCipher profileCalls).packed secondCall) := by
    rw [endedText, String.toList_ofList]
    exact Base64.decode_encode_append _ rfl rfl
  have madeFirst : firstCall ∈ {call | call ∈ profileCalls} := List.mem_cons_self
  have madeSecond : secondCall ∈ {call | call ∈ profileCalls} :=
    List.mem_cons_of_mem _ (List.mem_singleton_self _)
  refine ⟨?_, ?_, ?_⟩
  · rw [readJson_of_call ideal_profileCalls (by rfl) madeSecond rfl (by rfl) (by rfl)
      (FieldCipher.decode_encrypt _)]
    exact loads_plaintext (by rfl) _ _ _
  · rw [readJson_of_call ideal_profileCalls (by rfl) madeSecond rfl (by rfl) (by rfl) ended]
    exact loads_plaintext (by rfl) _ _ _
  · rw [readJson_of_call ideal_profileCalls (by rfl) madeFirst rfl (by rfl) (by rfl)
      (FieldCipher.decode_encrypt _)]
    exact loads_plaintext (by rfl) _ _ _

/-- A profile reads back, and its envelope is bound to the key. -/
theorem profile_bound :
    (cipherStorage .fractions (tableCipher profileCalls)).readJson profileKey
        ((cipherStorage .fractions (tableCipher profileCalls)).writeJson "second" profileKey
          secondProfile) = some (.obj secondProfile) ∧
      Bound (tableCipher profileCalls) {call | call ∈ profileCalls}
        (cipherStorage .fractions (tableCipher profileCalls)) profileKey
        ((cipherStorage .fractions (tableCipher profileCalls)).writeJson "second" profileKey
          secondProfile) := by
  have whole := @envelope_bound _ _ .fractions _ ideal_profileCalls _ extractTenantId_profileKey
    secondProfile (by rfl) (by rfl) "second"
    (fun _ => List.mem_cons_of_mem _ (List.mem_singleton_self _))
  exact ⟨whole.1, whole.2 (by decide)⟩

end Sample

end VelaFlow.Storage
