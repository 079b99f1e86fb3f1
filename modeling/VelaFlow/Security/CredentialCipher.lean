import VelaFlow.Security.FieldCipher

/-!
# How `CredentialEncryptor` is made

The key of a credential comes from the pepper and from the tenant with its owner, the name of the
field is associated data, and one byte in front tells the schema. A generated tenant id has no unit
separator, so the salt tells the tenant from the owner. What is not such a ciphertext raises
`CredentialNotDecryptable`.
-/
namespace VelaFlow.Security

/-- What `CredentialEncryptor` is made from, under one pepper. -/
structure CredentialCipher where
  /-- The keys of credentials. -/
  Key : Type
  /-- The digests that are salts. -/
  Digest : Type
  /-- `hashlib.sha256`. -/
  sha256 : List UInt8 → Digest
  /-- `HKDF.derive` of the pepper, by its salt. -/
  hkdf : Digest → Key
  /-- `AESGCM`. -/
  aead : Aead Key
  /-- `os.urandom(12)`, as the draws go. -/
  nonce : String → List UInt8
  /-- A nonce has twelve bytes. -/
  nonceLength : ∀ draw, (nonce draw).length = 12

/-- A call of `encrypt`, with its draw. -/
structure CredentialCall where
  /-- The draw of the nonce. -/
  draw : String
  /-- `plaintext`. -/
  plaintext : String
  /-- `tenant_id`. -/
  tenantId : String
  /-- `owner_sub`. -/
  ownerSub : String
  /-- `field_name`. -/
  fieldName : String

/-- What `_generate_tenant_id` makes of a token. -/
def generateTenantId (token : String) : String := "tn_" ++ token

/-- A tenant id of the form that `_generate_tenant_id` produces: the token is `token_hex(8)`. -/
def Generated (tenantId : String) : Prop :=
  ∃ token, token.toList.length = 16 ∧ (∀ character ∈ token.toList,
    character ∈ "0123456789abcdef".toList) ∧ tenantId = generateTenantId token

/-- What the salt of a tenant and its owner is the digest of. -/
def salt (tenantId ownerSub : String) : String := tenantId ++ "\x1f" ++ ownerSub

/-- `_CREDENTIAL_SCHEMA_V2`. -/
def credentialSchema : UInt8 := 2

/-- A text with the padding that `decrypt` adds. -/
def padded (text : String) : List Char :=
  text.toList ++ List.replicate ((4 - text.toList.length % 4) % 4) '='

namespace CredentialCipher

variable (cipher : CredentialCipher)

/-- The key of a tenant and its owner. -/
def key (tenantId ownerSub : String) : cipher.Key :=
  cipher.hkdf (cipher.sha256 (utf8 (salt tenantId ownerSub)))

/-- `_derive`. -/
def derive (tenantId ownerSub : String) : Except PyException cipher.Key :=
  if tenantId = "" ∨ ownerSub = "" then
    .error (.credentialNotDecryptable
      ("tenant_id and owner_google_sub must both be set before " ++
        "credentials can be encrypted or decrypted."))
  else .ok (cipher.key tenantId ownerSub)

/-- The request a call makes to the cipher. -/
def request (call : CredentialCall) : SealRequest cipher.Key where
  key := cipher.key call.tenantId call.ownerSub
  nonce := cipher.nonce call.draw
  aad := utf8 call.fieldName
  plaintext := utf8 call.plaintext

/-- The schema, the nonce and the ciphertext of a call. -/
def packed (call : CredentialCall) : List UInt8 :=
  credentialSchema :: cipher.nonce call.draw ++ cipher.aead.encrypt (cipher.request call)

/-- `encrypt`. -/
def encrypt (call : CredentialCall) : Except PyException String :=
  if call.fieldName = "" then
    .error (.valueError "field_name is mandatory for credential encryption (AAD).")
  else do
    let _ ← cipher.derive call.tenantId call.ownerSub
    return String.ofList (Base64.encode (cipher.packed call))

/-- What `decrypt` makes of decoded bytes. -/
def unpack (packed : List UInt8) (tenantId ownerSub fieldName : String) :
    Except PyException String :=
  if packed.length < 1 + 12 + 16 ∨ packed.take 1 ≠ [credentialSchema] then
    .error (.credentialNotDecryptable "unrecognised credential schema version")
  else do
    let key ← cipher.derive tenantId ownerSub
    match cipher.aead.decrypt key ((packed.drop 1).take 12) (packed.drop 13) (utf8 fieldName) with
    | .ok plaintext => decodeUtf8 plaintext
    | .error exception =>
      .error (.credentialNotDecryptable ("authenticated decryption failed: " ++ exception.text))

/-- `decrypt`. -/
def decrypt (encrypted tenantId ownerSub fieldName : String) : Except PyException String :=
  if encrypted = "" then .ok ""
  else
    match Base64.decode (padded encrypted) with
    | .ok packed => cipher.unpack packed tenantId ownerSub fieldName
    | .error exception =>
      .error (.credentialNotDecryptable
        ("ciphertext is not valid base64url: " ++ exception.text))

/-- The encryptor of the parts, for those who have a tenant, an owner and a field. -/
def encryptor : CredentialEncryptor where
  encrypt draw plaintext tenantId ownerSub fieldName :=
    String.ofList (Base64.encode (cipher.packed ⟨draw, plaintext, tenantId, ownerSub, fieldName⟩))
  decrypt := cipher.decrypt

end CredentialCipher

/-- A call for a generated tenant with an owner and a field. -/
structure CredentialCall.Valid (call : CredentialCall) : Prop where
  /-- The tenant id is of the generated form. -/
  generated : Generated call.tenantId
  /-- The owner is set. -/
  owned : call.ownerSub ≠ ""
  /-- The field is set. -/
  named : call.fieldName ≠ ""

/-- What is relied on of the parts when these calls were made. -/
structure IdealCredentialCipher (cipher : CredentialCipher) (calls : Set CredentialCall) :
    Prop where
  /-- The cipher is ideal. -/
  aead : IdealAead cipher.aead {request | ∃ call ∈ calls, cipher.request call = request}
  /-- Different texts have different digests. -/
  sha256 : Function.Injective cipher.sha256
  /-- Different salts have different keys. -/
  hkdf : Function.Injective cipher.hkdf

section Salts

/-- A generated tenant id has no unit separator. -/
theorem separator_not_mem_generated {tenantId : String} (generated : Generated tenantId) :
    '\x1f' ∉ tenantId.toList := by
  obtain ⟨token, -, hexadecimal, rfl⟩ := generated
  rw [generateTenantId, String.toList_append, List.mem_append]
  rintro (mark | inside)
  · revert mark
    decide
  · have character := hexadecimal _ inside
    revert character
    decide

/-- A generated tenant id is not empty. -/
theorem generated_ne_empty {tenantId : String} (generated : Generated tenantId) :
    tenantId ≠ "" := by
  obtain ⟨token, -, -, rfl⟩ := generated
  intro empty
  have lengths := congrArg String.length empty
  rw [generateTenantId, String.length_append] at lengths
  have three : "tn_".length = 3 := by decide
  rw [three, String.length_empty] at lengths
  omega

/-- A salt tells a generated tenant and its owner. -/
theorem salt_inj {tenantId ownerSub otherId otherSub : String} (generated : Generated tenantId)
    (other : Generated otherId) (same : salt tenantId ownerSub = salt otherId otherSub) :
    tenantId = otherId ∧ ownerSub = otherSub := by
  have characters := congrArg String.toList same
  unfold salt at characters
  have mark : "\x1f".toList = ['\x1f'] := by decide
  rw [String.toList_append, String.toList_append, String.toList_append, String.toList_append, mark,
    List.append_assoc, List.append_assoc, List.singleton_append, List.singleton_append]
    at characters
  obtain ⟨tenants, owners⟩ := append_mark_inj (separator_not_mem_generated generated)
    (separator_not_mem_generated other) characters
  exact ⟨String.toList_inj.mp tenants, String.toList_inj.mp owners⟩

end Salts

variable {cipher : CredentialCipher} {calls : Set CredentialCall}

/-- A ciphertext decodes to what was made for a tenant, an owner and a field. -/
def IsSealed (cipher : CredentialCipher) (calls : Set CredentialCall)
    (tenantId ownerSub fieldName text : String) : Prop :=
  ∃ call ∈ calls, call.tenantId = tenantId ∧ call.ownerSub = ownerSub ∧
    call.fieldName = fieldName ∧ Base64.decode (padded text) = .ok (cipher.packed call)

/-- A decryption raised `CredentialNotDecryptable`. -/
def Undecryptable (result : Except PyException String) : Prop :=
  ∃ message, result = .error (.credentialNotDecryptable message)

section Packing

/-- The parts of what is packed. -/
theorem CredentialCipher.packed_parts (call : CredentialCall) :
    ((cipher.packed call).drop 1).take 12 = cipher.nonce call.draw ∧
      (cipher.packed call).drop 13 = cipher.aead.encrypt (cipher.request call) := by
  have length := cipher.nonceLength call.draw
  constructor
  · show (cipher.nonce call.draw ++ cipher.aead.encrypt (cipher.request call)).take 12 = _
    exact List.take_left' length
  · show (cipher.nonce call.draw ++ cipher.aead.encrypt (cipher.request call)).drop 12 = _
    exact List.drop_left' length

/-- Bytes are known by their schema, their nonce and their ciphertext. -/
theorem eq_packed {packed : List UInt8} {call : CredentialCall}
    (schema : packed.take 1 = [credentialSchema])
    (nonce : (packed.drop 1).take 12 = cipher.nonce call.draw)
    (ciphertext : packed.drop 13 = cipher.aead.encrypt (cipher.request call)) :
    packed = cipher.packed call := by
  calc packed = packed.take 1 ++ ((packed.drop 1).take 12 ++ (packed.drop 1).drop 12) := by
        rw [List.take_append_drop, List.take_append_drop]
    _ = [credentialSchema] ++ (cipher.nonce call.draw ++ packed.drop 13) := by
        rw [schema, nonce, List.drop_drop]
    _ = cipher.packed call := by
        rw [ciphertext]
        rfl

/-- What is encrypted needs no padding. -/
theorem padded_encrypt (call : CredentialCall) :
    Base64.decode (padded (String.ofList (Base64.encode (cipher.packed call)))) =
      .ok (cipher.packed call) := by
  unfold padded
  rw [String.toList_ofList, Base64.length_encode]
  show Base64.decode (Base64.encode (cipher.packed call) ++ []) = _
  rw [List.append_nil, Base64.decode_encode]

end Packing

namespace IdealCredentialCipher

/-- A key tells a generated tenant and its owner. -/
theorem key_inj (ideal : IdealCredentialCipher cipher calls) {tenantId ownerSub otherId otherSub :
    String} (generated : Generated tenantId) (other : Generated otherId)
    (same : cipher.key tenantId ownerSub = cipher.key otherId otherSub) :
    tenantId = otherId ∧ ownerSub = otherSub :=
  salt_inj generated other (utf8_inj.mp (ideal.sha256 (ideal.hkdf same)))

/-- What was made for a tenant, an owner and a field decrypts for them. -/
theorem decrypt_packed (ideal : IdealCredentialCipher cipher calls) {call : CredentialCall}
    (made : call ∈ calls) (valid : call.Valid) {text : String} (filled : text ≠ "")
    (reads : Base64.decode (padded text) = .ok (cipher.packed call)) :
    cipher.decrypt text call.tenantId call.ownerSub call.fieldName = .ok call.plaintext := by
  obtain ⟨nonce, ciphertext⟩ := @CredentialCipher.packed_parts cipher call
  have tagged := ideal.aead.tagged _ ⟨call, made, rfl⟩
  have long : ¬ ((cipher.packed call).length < 1 + 12 + 16 ∨
      (cipher.packed call).take 1 ≠ [credentialSchema]) := by
    have length := cipher.nonceLength call.draw
    have whole : (cipher.packed call).length = (cipher.nonce call.draw).length +
        (cipher.aead.encrypt (cipher.request call)).length + 1 := by
      simp [CredentialCipher.packed]
    rintro (short | other)
    · omega
    · exact other rfl
  have opened : cipher.aead.decrypt (cipher.key call.tenantId call.ownerSub)
      (cipher.nonce call.draw) (cipher.aead.encrypt (cipher.request call)) (utf8 call.fieldName) =
        .ok (utf8 call.plaintext) := ideal.aead.opens _ ⟨call, made, rfl⟩
  have derived : cipher.derive call.tenantId call.ownerSub =
      .ok (cipher.key call.tenantId call.ownerSub) := by
    rw [CredentialCipher.derive,
      if_neg (not_or.mpr ⟨generated_ne_empty valid.generated, valid.owned⟩)]
  rw [CredentialCipher.decrypt, if_neg filled, reads]
  show cipher.unpack _ _ _ _ = _
  rw [CredentialCipher.unpack, if_neg long, derived, nonce, ciphertext]
  simp only [bind, Except.bind, opened]
  exact decodeUtf8_utf8 call.plaintext

/-- A ciphertext decrypts to what was made for the tenant, the owner and the field, or it raises
`CredentialNotDecryptable`. -/
theorem sealed_or_undecryptable (ideal : IdealCredentialCipher cipher calls)
    (valid : ∀ call ∈ calls, call.Valid) {text tenantId ownerSub fieldName : String}
    (filled : text ≠ "") (generated : Generated tenantId) (owned : ownerSub ≠ "") :
    IsSealed cipher calls tenantId ownerSub fieldName text ∨
      Undecryptable (cipher.decrypt text tenantId ownerSub fieldName) := by
  have derived : cipher.derive tenantId ownerSub = .ok (cipher.key tenantId ownerSub) := by
    rw [CredentialCipher.derive, if_neg (not_or.mpr ⟨generated_ne_empty generated, owned⟩)]
  rw [CredentialCipher.decrypt, if_neg filled]
  cases reads : Base64.decode (padded text) with
  | error exception => exact .inr ⟨_, rfl⟩
  | ok packed =>
    show _ ∨ Undecryptable (cipher.unpack _ _ _ _)
    by_cases bad : packed.length < 1 + 12 + 16 ∨ packed.take 1 ≠ [credentialSchema]
    · rw [CredentialCipher.unpack, if_pos bad]
      exact .inr ⟨_, rfl⟩
    · rw [CredentialCipher.unpack, if_neg bad, derived]
      simp only [bind, Except.bind]
      cases opened : cipher.aead.decrypt (cipher.key tenantId ownerSub) ((packed.drop 1).take 12)
          (packed.drop 13) (utf8 fieldName) with
      | error exception => exact .inr ⟨_, rfl⟩
      | ok plaintext =>
        obtain ⟨⟨call, made, same⟩, ciphertext⟩ := ideal.aead.genuine _ _ _ _ _ opened
        have keys : cipher.key call.tenantId call.ownerSub = cipher.key tenantId ownerSub :=
          congrArg SealRequest.key same
        have nonces : cipher.nonce call.draw = (packed.drop 1).take 12 :=
          congrArg SealRequest.nonce same
        have fields : utf8 call.fieldName = utf8 fieldName := congrArg SealRequest.aad same
        obtain ⟨tenants, owners⟩ := ideal.key_inj (valid call made).generated generated keys
        refine .inl ⟨call, made, tenants, owners, utf8_inj.mp fields, ?_⟩
        rw [reads, eq_packed (not_not.mp (not_or.mp bad).2) nonces.symm (ciphertext.trans (by rw [same]))]

/-- What is packed tells the tenant, the owner and the field. -/
theorem packed_inj (ideal : IdealCredentialCipher cipher calls)
    (valid : ∀ call ∈ calls, call.Valid) {first second : CredentialCall} (inFirst : first ∈ calls)
    (inSecond : second ∈ calls) (same : cipher.packed first = cipher.packed second) :
    first.tenantId = second.tenantId ∧ first.ownerSub = second.ownerSub ∧
      first.fieldName = second.fieldName := by
  obtain ⟨firstNonce, firstText⟩ := @CredentialCipher.packed_parts cipher first
  obtain ⟨secondNonce, secondText⟩ := @CredentialCipher.packed_parts cipher second
  rw [same] at firstNonce firstText
  have one := ideal.aead.apart _ ⟨first, inFirst, rfl⟩ _ ⟨second, inSecond, rfl⟩
    (firstNonce.symm.trans secondNonce) (firstText.symm.trans secondText)
  obtain ⟨tenants, owners⟩ := ideal.key_inj (valid first inFirst).generated
    (valid second inSecond).generated (congrArg SealRequest.key one)
  exact ⟨tenants, owners, utf8_inj.mp (congrArg SealRequest.aad one)⟩

end IdealCredentialCipher

/-- What is packed is written as a text. -/
theorem encode_packed_ne_empty (call : CredentialCall) :
    String.ofList (Base64.encode (cipher.packed call)) ≠ "" := by
  intro empty
  have none := congrArg String.toList empty
  rw [String.toList_ofList] at none
  have decoded := Base64.decode_encode (cipher.packed call)
  rw [none] at decoded
  cases decoded

/-- What `encrypt` returns for a valid call. -/
theorem encrypt_valid {call : CredentialCall} (valid : call.Valid) :
    cipher.encrypt call = .ok (String.ofList (Base64.encode (cipher.packed call))) := by
  rw [CredentialCipher.encrypt, if_neg valid.named, CredentialCipher.derive,
    if_neg (not_or.mpr ⟨generated_ne_empty valid.generated, valid.owned⟩)]
  rfl

/-- What was encrypted decrypts for its tenant, owner and field alone, and what does not decode to
such a ciphertext raises `CredentialNotDecryptable`. -/
theorem credential_bound (ideal : IdealCredentialCipher cipher calls)
    (valid : ∀ call ∈ calls, call.Valid) {call : CredentialCall} (made : call ∈ calls)
    {tenantId ownerSub fieldName : String} (generated : Generated tenantId)
    (owned : ownerSub ≠ "") :
    ∃ text, cipher.encrypt call = .ok text ∧
      ((tenantId, ownerSub, fieldName) = (call.tenantId, call.ownerSub, call.fieldName) →
        cipher.decrypt text tenantId ownerSub fieldName = .ok call.plaintext) ∧
      ((tenantId, ownerSub, fieldName) ≠ (call.tenantId, call.ownerSub, call.fieldName) →
        Undecryptable (cipher.decrypt text tenantId ownerSub fieldName)) ∧
      ∀ other, other ≠ "" → ¬ IsSealed cipher calls tenantId ownerSub fieldName other →
        Undecryptable (cipher.decrypt other tenantId ownerSub fieldName) := by
  have filled := @encode_packed_ne_empty cipher call
  refine ⟨_, encrypt_valid (valid call made), ?_, ?_, ?_⟩
  · intro same
    simp only [Prod.mk.injEq] at same
    obtain ⟨rfl, rfl, rfl⟩ := same
    exact ideal.decrypt_packed made (valid call made) filled (padded_encrypt call)
  · intro other
    have whole : IsSealed cipher calls tenantId ownerSub fieldName _ ∨ _ :=
      ideal.sealed_or_undecryptable valid filled generated owned
    cases whole with
    | inr raised => exact raised
    | inl isSealed =>
      obtain ⟨second, inSecond, rfl, rfl, rfl, reads⟩ := isSealed
      rw [padded_encrypt] at reads
      obtain ⟨tenants, owners, fields⟩ := ideal.packed_inj valid made inSecond
        (Except.ok.inj reads)
      exact absurd (by rw [tenants, owners, fields]) other
  · intro other otherFilled foreign
    exact (ideal.sealed_or_undecryptable valid otherFilled generated owned).resolve_left foreign

section Sample

/-- A credential of a tenant. -/
def sampleCredential : CredentialCall where
  draw := "draw"
  plaintext := "hunter2"
  tenantId := "tn_0123456789abcdef"
  ownerSub := "sub-a"
  fieldName := "todoist_api_token"

/-- A cipher that knows one credential. -/
def sampleCredentialCipher : CredentialCipher where
  Key := List UInt8
  Digest := List UInt8
  sha256 := id
  hkdf := id
  aead := tableAead [⟨utf8 (salt sampleCredential.tenantId sampleCredential.ownerSub),
    drawBytes sampleCredential.draw, utf8 sampleCredential.fieldName,
    utf8 sampleCredential.plaintext⟩]
  nonce := drawBytes
  nonceLength := length_drawBytes

/-- The cipher that knows one credential is ideal. -/
theorem ideal_sampleCredentialCipher :
    IdealCredentialCipher sampleCredentialCipher {sampleCredential} where
  aead := by
    have ideal := @ideal_tableAead (List UInt8) _
      [sampleCredentialCipher.request sampleCredential] (List.nodup_singleton _)
    have same : {request | ∃ call ∈ ({sampleCredential} : Set CredentialCall),
        sampleCredentialCipher.request call = request} =
          {request | request ∈ [sampleCredentialCipher.request sampleCredential]} := by
      ext request
      simp [eq_comm]
    rw [same]
    exact ideal
  sha256 := Function.injective_id
  hkdf := Function.injective_id

/-- The credential is of a generated tenant with an owner and a field. -/
theorem valid_sampleCredential : sampleCredential.Valid where
  generated := ⟨"0123456789abcdef", by decide, fun _ inside => inside, by decide⟩
  owned := by decide
  named := by decide

/-- The calls of the sample are valid. -/
theorem valid_of_sample :
    ∀ call ∈ ({sampleCredential} : Set CredentialCall), call.Valid := by
  intro call inside
  rw [Set.mem_singleton_iff.mp inside]
  exact valid_sampleCredential

/-- A credential decrypts for its own field, and raises for another. -/
theorem sample_bound :
    ∃ text, sampleCredentialCipher.encrypt sampleCredential = .ok text ∧
      Undecryptable (sampleCredentialCipher.decrypt text "tn_0123456789abcdef" "sub-a"
        "gemini_api_key") := by
  obtain ⟨text, sealed, -, other, -⟩ := @credential_bound _ _ ideal_sampleCredentialCipher
    valid_of_sample _ (Set.mem_singleton sampleCredential) "tn_0123456789abcdef" "sub-a"
    "gemini_api_key" valid_sampleCredential.generated (by decide)
  exact ⟨text, sealed, other (by decide)⟩

/-- The ciphertext of the sample, with the end of a line behind it. -/
def endedCiphertext : String :=
  String.ofList (Base64.encode (sampleCredentialCipher.packed sampleCredential) ++ ['\n'])

/-- Padded, it decodes to what was packed. -/
theorem decode_endedCiphertext : Base64.decode (padded endedCiphertext) =
    .ok (sampleCredentialCipher.packed sampleCredential) := by
  have length : (Base64.encode (sampleCredentialCipher.packed sampleCredential) ++
      ['\n']).length % 4 = 1 := by
    have groups := Base64.length_encode (sampleCredentialCipher.packed sampleCredential)
    rw [List.length_append, List.length_singleton]
    omega
  unfold padded endedCiphertext
  rw [String.toList_ofList, length, List.append_assoc]
  exact Base64.decode_encode_append _ rfl rfl

/-- A ciphertext with the end of a line behind it is another text, and decrypts all the same. -/
theorem ended_decrypts :
    ∃ text, sampleCredentialCipher.encrypt sampleCredential = .ok text ∧
      endedCiphertext ≠ text ∧ endedCiphertext ≠ "" ∧
        sampleCredentialCipher.decrypt endedCiphertext "tn_0123456789abcdef" "sub-a"
          "todoist_api_token" = .ok "hunter2" := by
  have length : endedCiphertext.toList.length =
      (Base64.encode (sampleCredentialCipher.packed sampleCredential)).length + 1 := by
    rw [endedCiphertext, String.toList_ofList, List.length_append, List.length_singleton]
  have filled : endedCiphertext ≠ "" := by
    intro empty
    rw [empty] at length
    exact Nat.succ_ne_zero _ length.symm
  refine ⟨_, encrypt_valid valid_sampleCredential, ?_, filled, ?_⟩
  · intro same
    rw [same, String.toList_ofList] at length
    omega
  · exact ideal_sampleCredentialCipher.decrypt_packed (Set.mem_singleton sampleCredential)
      valid_sampleCredential filled decode_endedCiphertext

end Sample

end VelaFlow.Security
