import VelaFlow.Foundation.Base64
import VelaFlow.Security.Aead
import VelaFlow.Security.Encryption

/-!
# How `FieldEncryptor` is made

A key for each tenant, a nonce of twelve bytes in front of the ciphertext, the name of the field as
associated data, and base64 around it all. The derivation and the cipher are parameters. What
decrypts is what was encrypted for the same tenant and field.
-/
namespace VelaFlow.Security

/-- What `FieldEncryptor` is made from, under one master key. -/
structure FieldCipher where
  /-- The keys of tenants. -/
  Key : Type
  /-- `derive_tenant_key`. -/
  derive : String → Key
  /-- `AESGCM`. -/
  aead : Aead Key
  /-- `os.urandom(12)`, as the draws go. -/
  nonce : String → List UInt8
  /-- A nonce has twelve bytes. -/
  nonceLength : ∀ draw, (nonce draw).length = 12

/-- A call of `encrypt`, with its draw. -/
structure FieldCall where
  /-- The draw of the nonce. -/
  draw : String
  /-- `plaintext`. -/
  plaintext : String
  /-- `tenant_id`. -/
  tenantId : String
  /-- `field_name`. -/
  fieldName : String

namespace FieldCipher

variable (cipher : FieldCipher)

/-- The request a call makes to the cipher. -/
def request (call : FieldCall) : SealRequest cipher.Key where
  key := cipher.derive call.tenantId
  nonce := cipher.nonce call.draw
  aad := utf8 call.fieldName
  plaintext := utf8 call.plaintext

/-- The nonce and the ciphertext of a call. -/
def packed (call : FieldCall) : List UInt8 :=
  cipher.nonce call.draw ++ cipher.aead.encrypt (cipher.request call)

/-- `encrypt`. -/
def encrypt (call : FieldCall) : String := String.ofList (Base64.encode (cipher.packed call))

/-- `decrypt`. -/
def decrypt (encrypted tenantId fieldName : String) : Except PyException String := do
  let packed ← Base64.decode encrypted.toList
  let plaintext ← cipher.aead.decrypt (cipher.derive tenantId) (packed.take 12) (packed.drop 12)
    (utf8 fieldName)
  decodeUtf8 plaintext

/-- The encryptor of the parts. -/
def encryptor : FieldEncryptor where
  encrypt draw plaintext tenantId fieldName := cipher.encrypt ⟨draw, plaintext, tenantId, fieldName⟩
  decrypt := cipher.decrypt

end FieldCipher

/-- What is relied on of the parts when these calls were made. -/
structure IdealFieldCipher (cipher : FieldCipher) (calls : Set FieldCall) : Prop where
  /-- The cipher is ideal. -/
  aead : IdealAead cipher.aead {request | ∃ call ∈ calls, cipher.request call = request}
  /-- Different tenants have different keys. -/
  derive : Function.Injective cipher.derive

variable {cipher : FieldCipher} {calls : Set FieldCall}

/-- The parts of what is packed. -/
theorem FieldCipher.packed_parts (call : FieldCall) :
    (cipher.packed call).take 12 = cipher.nonce call.draw ∧
      (cipher.packed call).drop 12 = cipher.aead.encrypt (cipher.request call) := by
  have length := cipher.nonceLength call.draw
  unfold packed
  exact ⟨List.take_left' length, List.drop_left' length⟩

/-- What was encrypted decrypts for its tenant and field, also with an ending that reads as nothing
behind it. -/
theorem IdealFieldCipher.decrypt_encrypt (ideal : IdealFieldCipher cipher calls) {call : FieldCall}
    (made : call ∈ calls) {text : String}
    (reads : Base64.decode text.toList = .ok (cipher.packed call)) :
    cipher.decrypt text call.tenantId call.fieldName = .ok call.plaintext := by
  obtain ⟨nonce, ciphertext⟩ := @FieldCipher.packed_parts cipher call
  have opened := ideal.aead.opens _ ⟨call, made, rfl⟩
  unfold FieldCipher.decrypt
  rw [reads]
  show (cipher.aead.decrypt (cipher.derive call.tenantId) ((cipher.packed call).take 12)
    ((cipher.packed call).drop 12) (utf8 call.fieldName)).bind decodeUtf8 = .ok call.plaintext
  rw [nonce, ciphertext]
  have plain : cipher.aead.decrypt (cipher.derive call.tenantId) (cipher.nonce call.draw)
      (cipher.aead.encrypt (cipher.request call)) (utf8 call.fieldName) =
        .ok (utf8 call.plaintext) := opened
  rw [plain]
  exact decodeUtf8_utf8 call.plaintext

/-- What was encrypted reads back from its base64. -/
theorem FieldCipher.decode_encrypt (call : FieldCall) :
    Base64.decode (cipher.encrypt call).toList = .ok (cipher.packed call) := by
  rw [FieldCipher.encrypt, String.toList_ofList, Base64.decode_encode]

/-- What decrypts was encrypted for the tenant and the field. -/
theorem IdealFieldCipher.of_decrypt (ideal : IdealFieldCipher cipher calls)
    {encrypted tenantId fieldName text : String}
    (opened : cipher.decrypt encrypted tenantId fieldName = .ok text) :
    ∃ call ∈ calls, call.tenantId = tenantId ∧ call.fieldName = fieldName ∧
      Base64.decode encrypted.toList = .ok (cipher.packed call) := by
  obtain ⟨packed, reads, opened⟩ := bind_ok_iff.mp opened
  obtain ⟨plaintext, plain, -⟩ := bind_ok_iff.mp opened
  obtain ⟨⟨call, made, same⟩, ciphertext⟩ := ideal.aead.genuine _ _ _ _ _ plain
  have keys := congrArg SealRequest.key same
  have nonces := congrArg SealRequest.nonce same
  have fields := congrArg SealRequest.aad same
  refine ⟨call, made, ideal.derive keys, utf8_inj.mp fields, ?_⟩
  have whole : packed = cipher.packed call := by
    rw [← List.take_append_drop 12 packed, ciphertext, ← same]
    exact congrArg (· ++ cipher.aead.encrypt (cipher.request call)) nonces.symm
  rw [reads, whole]

/-- What is packed tells the tenant and the field. -/
theorem IdealFieldCipher.packed_inj (ideal : IdealFieldCipher cipher calls)
    {first second : FieldCall} (inFirst : first ∈ calls) (inSecond : second ∈ calls)
    (same : cipher.packed first = cipher.packed second) :
    first.tenantId = second.tenantId ∧ first.fieldName = second.fieldName := by
  obtain ⟨firstNonce, firstText⟩ := @FieldCipher.packed_parts cipher first
  obtain ⟨secondNonce, secondText⟩ := @FieldCipher.packed_parts cipher second
  rw [same] at firstNonce firstText
  have one := ideal.aead.apart _ ⟨first, inFirst, rfl⟩ _ ⟨second, inSecond, rfl⟩
    (firstNonce.symm.trans secondNonce) (firstText.symm.trans secondText)
  exact ⟨ideal.derive (congrArg SealRequest.key one),
    utf8_inj.mp (congrArg SealRequest.aad one)⟩

section Sample

/-- The nonce of a draw: its first bytes. -/
def drawBytes (draw : String) : List UInt8 := (utf8 draw ++ List.replicate 12 0).take 12

/-- A nonce has twelve bytes. -/
theorem length_drawBytes (draw : String) : (drawBytes draw).length = 12 := by
  unfold drawBytes
  rw [List.length_take, List.length_append, List.length_replicate]
  omega

/-- The request of a call when a tenant is its own key. -/
def FieldCall.request (call : FieldCall) : SealRequest String :=
  ⟨call.tenantId, drawBytes call.draw, utf8 call.fieldName, utf8 call.plaintext⟩

/-- A cipher that knows its calls. -/
def tableCipher (calls : List FieldCall) : FieldCipher where
  Key := String
  derive := id
  aead := tableAead (calls.map FieldCall.request)
  nonce := drawBytes
  nonceLength := length_drawBytes

/-- A cipher that knows its calls is ideal when their nonces are different. -/
theorem ideal_tableCipher {calls : List FieldCall}
    (distinct : (calls.map fun call => drawBytes call.draw).Nodup) :
    IdealFieldCipher (tableCipher calls) {call | call ∈ calls} where
  aead := by
    have nonces : ((calls.map FieldCall.request).map SealRequest.nonce).Nodup := by
      rw [List.map_map]
      exact distinct
    have ideal := ideal_tableAead nonces
    have same : {request | ∃ call ∈ {call | call ∈ calls},
        (tableCipher calls).request call = request} =
          {request | request ∈ calls.map FieldCall.request} := by
      ext request
      exact List.mem_map.symm
    rw [same]
    exact ideal
  derive := Function.injective_id

end Sample

end VelaFlow.Security
