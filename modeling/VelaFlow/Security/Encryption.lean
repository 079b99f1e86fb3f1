import VelaFlow.Foundation.DateTime
import VelaFlow.Foundation.Python

/-!
# Encryptors

What the tenant manager and the worker ask of `FieldEncryptor` and `CredentialEncryptor`. The
ciphers are parameters; a nonce is an argument, because each encryption draws a new one. A cipher
that hides nothing shows that what is relied on can be had.
-/
namespace VelaFlow.Security

/-- `FieldEncryptor` under one master key. -/
structure FieldEncryptor where
  /-- `encrypt`, with the nonce it draws. -/
  encrypt : (nonce plaintext tenantId fieldName : String) → String
  /-- `decrypt`. -/
  decrypt : (encrypted tenantId fieldName : String) → Except PyException String

/-- `CredentialEncryptor` under one pepper. -/
structure CredentialEncryptor where
  /-- `encrypt`, with the nonce it draws. -/
  encrypt : (nonce plaintext tenantId ownerSub fieldName : String) → String
  /-- `decrypt` of a ciphertext that is not empty. -/
  decrypt : (encrypted tenantId ownerSub fieldName : String) → Except PyException String

/-- What is relied on of an encryptor. -/
structure CipherLaws (encryptor : FieldEncryptor) : Prop where
  /-- What was encrypted decrypts under its tenant and field. -/
  decrypts : ∀ nonce text tenantId fieldName,
    encryptor.decrypt (encryptor.encrypt nonce text tenantId fieldName) tenantId fieldName =
      .ok text
  /-- A ciphertext is not empty. -/
  filled : ∀ nonce text tenantId fieldName, encryptor.encrypt nonce text tenantId fieldName ≠ ""
  /-- A ciphertext has no white space. -/
  spaceless : ∀ nonce text tenantId fieldName,
    ∀ character ∈ (encryptor.encrypt nonce text tenantId fieldName).toList,
      isSpace character = false

section Sample

/-- The decimal codes of the characters of a text. -/
def encodeText (text : List Char) : List Char := text.flatMap fun character =>
  digits 7 character.toNat

/-- Reads the codes of characters. -/
def decodeText : List Char → Option (List Char)
  | [] => some []
  | d₁ :: d₂ :: d₃ :: d₄ :: d₅ :: d₆ :: d₇ :: rest =>
    (readDigits 7 [d₁, d₂, d₃, d₄, d₅, d₆, d₇] 0).bind fun read =>
      (decodeText rest).map (Char.ofNat read.1 :: ·)
  | _ => none

/-- A text reads back from its codes. -/
theorem decodeText_encodeText (text : List Char) : decodeText (encodeText text) = some text := by
  induction text with
  | nil => rfl
  | cons character rest ih =>
    have fits : character.toNat < 10 ^ 7 := by
      have valid := character.valid
      unfold UInt32.isValidChar Nat.isValidChar at valid
      unfold Char.toNat
      omega
    have read := readDigits_digits_of_lt fits []
    rw [List.append_nil] at read
    have step : decodeText (digits 7 character.toNat ++ encodeText rest) =
        (readDigits 7 (digits 7 character.toNat) 0).bind fun read =>
          (decodeText (encodeText rest)).map (Char.ofNat read.1 :: ·) := rfl
    calc decodeText (encodeText (character :: rest))
        = decodeText (digits 7 character.toNat ++ encodeText rest) := by
          rw [encodeText, List.flatMap_cons, encodeText]
      _ = some (character :: rest) := by
          rw [step, read, ih]
          simp

/-- Codes have no white space. -/
theorem isSpace_encodeText {text : List Char} {character : Char}
    (inside : character ∈ encodeText text) : isSpace character = false := by
  have all : ∀ digit < 10, isSpace (Nat.digitChar digit) = false := by decide
  obtain ⟨source, -, written⟩ := List.mem_flatMap.mp inside
  simp only [digits, List.mem_cons, List.not_mem_nil, or_false] at written
  rcases written with rfl | rfl | rfl | rfl | rfl | rfl | rfl <;>
    exact all _ (Nat.mod_lt _ (by decide))

/-- What a ciphertext of the sample begins with: its tenant and its field. -/
def sampleLabel (tenantId fieldName : String) : List Char :=
  'x' :: encodeText tenantId.toList ++ 'x' :: encodeText fieldName.toList ++ ['x']

/-- An encryptor that hides nothing, but tells tenants and fields apart. -/
def sampleEncryptor : FieldEncryptor where
  encrypt _ text tenantId fieldName :=
    String.ofList (sampleLabel tenantId fieldName ++ encodeText text.toList)
  decrypt encrypted tenantId fieldName :=
    let label := sampleLabel tenantId fieldName
    if label.isPrefixOf encrypted.toList then
      match decodeText (encrypted.toList.drop label.length) with
      | some text => .ok (String.ofList text)
      | none => .error (.other "InvalidTag" "")
    else .error (.other "InvalidTag" "")

/-- The sample has the laws. -/
theorem sampleEncryptor_laws : CipherLaws sampleEncryptor where
  decrypts nonce text tenantId fieldName := by
    simp [sampleEncryptor, decodeText_encodeText]
  filled nonce text tenantId fieldName := by
    simp [sampleEncryptor, sampleLabel]
  spaceless nonce text tenantId fieldName character inside := by
    have is : character = 'x' ∨ ∃ text, character ∈ encodeText text := by
      simp only [sampleEncryptor, sampleLabel, String.toList_ofList, List.mem_append,
        List.mem_cons, List.not_mem_nil, or_false] at inside
      grind
    rcases is with rfl | ⟨source, written⟩
    · decide
    · exact isSpace_encodeText written

end Sample

end VelaFlow.Security
