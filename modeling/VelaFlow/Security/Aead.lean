import Mathlib.Data.List.Nodup
import Mathlib.Data.Set.Basic
import VelaFlow.Foundation.Python

/-!
# Authenticated encryption

An ideal cipher opens what was sealed and nothing else. It is stated against the requests to seal
that were ever made: a ciphertext opens under the key, the nonce and the associated data of the
request it answers, and no two requests with one nonce have one ciphertext. A table of requests with
different nonces shows that this can be had.
-/
namespace VelaFlow.Security

/-- `text.encode("utf-8")`. -/
def utf8 (text : String) : List UInt8 := text.toByteArray.data.toList

/-- `bytes.decode("utf-8")`. -/
def decodeUtf8 (bytes : List UInt8) : Except PyException String :=
  match String.fromUTF8? ⟨⟨bytes⟩⟩ with
  | some text => .ok text
  | none => .error (.valueError "invalid utf-8")

/-- A text is known by its bytes. -/
theorem utf8_inj {first second : String} : utf8 first = utf8 second ↔ first = second := by
  constructor
  · intro same
    exact String.toByteArray_inj.mp (ByteArray.ext (Array.toList_inj.mp same))
  · rintro rfl
    rfl

/-- A text reads back from its bytes. -/
theorem decodeUtf8_utf8 (text : String) : decodeUtf8 (utf8 text) = .ok text := by
  have bytes : (⟨⟨utf8 text⟩⟩ : ByteArray) = text.toByteArray := rfl
  have read : String.fromUTF8? text.toByteArray = some text := by
    unfold String.fromUTF8?
    rw [dif_pos text.isValidUTF8]
    rfl
  rw [decodeUtf8, bytes, read]

/-- A request to seal. -/
structure SealRequest (Key : Type) where
  /-- The key. -/
  key : Key
  /-- The nonce. -/
  nonce : List UInt8
  /-- The associated data. -/
  aad : List UInt8
  /-- What is sealed. -/
  plaintext : List UInt8
  deriving DecidableEq

/-- `AESGCM`. -/
structure Aead (Key : Type) where
  /-- `encrypt`: the ciphertext with its tag. -/
  encrypt : SealRequest Key → List UInt8
  /-- `decrypt`. -/
  decrypt : (key : Key) → (nonce ciphertext aad : List UInt8) → Except PyException (List UInt8)

variable {Key : Type}

/-- What is relied on of an ideal cipher when these requests were made. -/
structure IdealAead (aead : Aead Key) (issued : Set (SealRequest Key)) : Prop where
  /-- What was sealed opens. -/
  opens : ∀ request ∈ issued,
    aead.decrypt request.key request.nonce (aead.encrypt request) request.aad =
      .ok request.plaintext
  /-- What opens was sealed. -/
  genuine : ∀ key nonce ciphertext aad plaintext,
    aead.decrypt key nonce ciphertext aad = .ok plaintext →
      ⟨key, nonce, aad, plaintext⟩ ∈ issued ∧
        ciphertext = aead.encrypt ⟨key, nonce, aad, plaintext⟩
  /-- Requests with one nonce and one ciphertext are one. -/
  apart : ∀ first ∈ issued, ∀ second ∈ issued, first.nonce = second.nonce →
    aead.encrypt first = aead.encrypt second → first = second
  /-- A tag has sixteen bytes. -/
  tagged : ∀ request ∈ issued, 16 ≤ (aead.encrypt request).length

/-- What opens is the request that was sealed. -/
theorem IdealAead.decrypt_encrypt {aead : Aead Key} {issued : Set (SealRequest Key)}
    (ideal : IdealAead aead issued) {request : SealRequest Key} (made : request ∈ issued) {key : Key}
    {aad plaintext : List UInt8}
    (opened : aead.decrypt key request.nonce (aead.encrypt request) aad = .ok plaintext) :
    request = ⟨key, request.nonce, aad, plaintext⟩ := by
  obtain ⟨known, same⟩ := ideal.genuine _ _ _ _ _ opened
  exact ideal.apart request made _ known rfl same

section Sample

variable [DecidableEq Key]

/-- The ciphertext of a cipher that hides nothing: the plaintext and an empty tag. -/
def plainCiphertext (request : SealRequest Key) : List UInt8 :=
  request.plaintext ++ List.replicate 16 0

/-- A cipher that knows its requests. -/
def tableAead (table : List (SealRequest Key)) : Aead Key where
  encrypt := plainCiphertext
  decrypt key nonce ciphertext aad :=
    match table.find? fun request => decide (request.key = key ∧ request.nonce = nonce ∧
        request.aad = aad ∧ plainCiphertext request = ciphertext) with
    | some request => .ok request.plaintext
    | none => .error (.other "InvalidTag" "")

/-- A cipher that knows its requests is ideal when their nonces are different. -/
theorem ideal_tableAead {table : List (SealRequest Key)}
    (distinct : (table.map SealRequest.nonce).Nodup) :
    IdealAead (tableAead table) {request | request ∈ table} where
  opens request made := by
    have some : (table.find? fun other => decide (other.key = request.key ∧
        other.nonce = request.nonce ∧ other.aad = request.aad ∧
          plainCiphertext other = plainCiphertext request)).isSome = true := by
      rw [List.find?_isSome]
      exact ⟨request, made, by simp⟩
    obtain ⟨found, is⟩ := Option.isSome_iff_exists.mp some
    have same := List.find?_some is
    rw [decide_eq_true_eq] at same
    have one : found = request :=
      List.inj_on_of_nodup_map distinct (List.mem_of_find?_eq_some is) made same.2.1
    simp only [tableAead, is, one]
  genuine key nonce ciphertext aad plaintext opened := by
    simp only [tableAead] at opened
    split at opened
    · next request is =>
      have inside := List.mem_of_find?_eq_some is
      have same := List.find?_some is
      rw [decide_eq_true_eq] at same
      obtain ⟨rfl, rfl, rfl, rfl⟩ := same
      cases opened
      exact ⟨inside, rfl⟩
    · cases opened
  apart first inFirst second inSecond same _ :=
    List.inj_on_of_nodup_map distinct inFirst inSecond same
  tagged request _ := by simp [tableAead, plainCiphertext]

end Sample

end VelaFlow.Security
