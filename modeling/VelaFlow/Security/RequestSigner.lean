import VelaFlow.Foundation.DateTime
import VelaFlow.Foundation.Python

/-!
# Signed requests

`RequestSigner` of `zero_trust.py`. The two hash functions are parameters, as the texts of their
digests. The nonces the signer has seen are kept in the order they were recorded; the times stored
with them are never read.
-/
namespace VelaFlow.Security

/-- `_MAX_TIMESTAMP_DRIFT`. -/
def maxTimestampDrift : Nat := 300

/-- `_MAX_NONCE_CACHE`. -/
def maxNonceCache : Nat := 10000

/-- `SignedRequest`. -/
structure SignedRequest where
  /-- `method`. -/
  method : String
  /-- `path`. -/
  path : String
  /-- `timestamp`. -/
  timestamp : Int
  /-- `nonce`. -/
  nonce : String
  /-- `signature`. -/
  signature : String
  /-- `component_id`. -/
  componentId : String
  deriving DecidableEq

/-- The hash functions of a `RequestSigner`. -/
structure RequestSigner where
  /-- `hmac.new(self._secret, message, hashlib.sha256).hexdigest()`. -/
  hmac : String → String
  /-- `hashlib.sha256(body).hexdigest()`. -/
  sha256 : List UInt8 → String

namespace RequestSigner

variable (signer : RequestSigner)

/-- `RequestSigner._build_message`, before it is encoded. -/
def buildMessage (method path : String) (body : List UInt8) (timestamp : Int)
    (nonce componentId : String) : String :=
  method ++ "\n" ++ path ++ "\n" ++ toString timestamp ++ "\n" ++ nonce ++ "\n" ++ componentId ++
    "\n" ++ signer.sha256 body

/-- `RequestSigner.sign`, at a time and with a nonce. -/
def sign (method path : String) (body : List UInt8) (componentId : String) (timestamp : Int)
    (nonce : String) : SignedRequest where
  method := method
  path := path
  timestamp := timestamp
  nonce := nonce
  signature := signer.hmac (signer.buildMessage method path body timestamp nonce componentId)
  componentId := componentId

/-- `str.isascii`. -/
def isAscii (text : String) : Bool := text.toList.all fun character => character.toNat < 128

/-- `secrets.compare_digest` of two texts. -/
def compareDigest (expected given : String) : Except PyException Bool :=
  if isAscii expected && isAscii given then .ok (expected == given)
  else .error (.typeError "comparing strings with non-ASCII characters is not supported")

/-- The nonces after one is recorded: the oldest half goes when there are too many. -/
def recordNonce (seenNonces : List String) (nonce : String) : List String :=
  let recorded := seenNonces ++ [nonce]
  if maxNonceCache < recorded.length then recorded.drop (maxNonceCache / 2) else recorded

/-- `RequestSigner.verify`, at a time, with the nonces it leaves. -/
def verify (seenNonces : List String) (now : Int) (method path : String) (body : List UInt8)
    (signed : SignedRequest) : Except PyException Bool × List String :=
  if maxTimestampDrift < (now - signed.timestamp).natAbs then (.ok false, seenNonces)
  else if signed.nonce ∈ seenNonces then (.ok false, seenNonces)
  else
    let message :=
      signer.buildMessage method path body signed.timestamp signed.nonce signed.componentId
    match compareDigest (signer.hmac message) signed.signature with
    | .error exception => (.error exception, seenNonces)
    | .ok false => (.ok false, seenNonces)
    | .ok true => (.ok true, recordNonce seenNonces signed.nonce)

/-- The signature of a request is the one for the fields it is presented with. -/
def Fits (method path : String) (body : List UInt8) (signed : SignedRequest) : Prop :=
  isAscii signed.signature = true ∧ signed.signature =
    signer.hmac (signer.buildMessage method path body signed.timestamp signed.nonce
      signed.componentId)

/-- A request is within the window. -/
def Fresh (now : Int) (signed : SignedRequest) : Prop :=
  (now - signed.timestamp).natAbs ≤ maxTimestampDrift

variable {signer}

/-- Two texts compare equal when they are one text of ASCII characters. -/
theorem compareDigest_true_iff {expected given : String} :
    compareDigest expected given = .ok true ↔ isAscii given = true ∧ given = expected := by
  unfold compareDigest
  by_cases plain : (isAscii expected && isAscii given) = true
  · rw [if_pos plain]
    rw [Bool.and_eq_true] at plain
    constructor
    · intro same
      exact ⟨plain.2, (eq_of_beq (Except.ok.inj same)).symm⟩
    · rintro ⟨-, rfl⟩
      rw [beq_self_eq_true]
  · rw [if_neg plain]
    constructor
    · exact nofun
    · rintro ⟨ascii, rfl⟩
      rw [ascii] at plain
      exact absurd rfl plain

/-- A request is accepted when it is within the window, its nonce is not remembered and its
signature fits. -/
theorem verify_true_iff {seenNonces : List String} {now : Int} {method path : String}
    {body : List UInt8} {signed : SignedRequest} :
    (signer.verify seenNonces now method path body signed).1 = .ok true ↔
      Fresh now signed ∧ signed.nonce ∉ seenNonces ∧ signer.Fits method path body signed := by
  unfold verify Fresh Fits
  by_cases late : maxTimestampDrift < (now - signed.timestamp).natAbs
  · rw [if_pos late]
    exact ⟨nofun, fun fresh => absurd fresh.1 (Nat.not_le.mpr late)⟩
  · rw [if_neg late]
    by_cases used : signed.nonce ∈ seenNonces
    · rw [if_pos used]
      exact ⟨nofun, fun fresh => absurd used fresh.2.1⟩
    · rw [if_neg used, ← compareDigest_true_iff]
      dsimp only
      split
      · rename_i exception compared
        rw [compared]
        exact ⟨nofun, fun fresh => nomatch fresh.2.2⟩
      · rename_i compared
        rw [compared]
        exact ⟨nofun, fun fresh => nomatch fresh.2.2⟩
      · rename_i compared
        exact ⟨fun _ => ⟨Nat.not_lt.mp late, used, compared⟩, fun _ => rfl⟩

/-- Accepting a request records its nonce. -/
theorem verify_of_true {seenNonces : List String} {now : Int} {method path : String}
    {body : List UInt8} {signed : SignedRequest}
    (accepted : (signer.verify seenNonces now method path body signed).1 = .ok true) :
    (signer.verify seenNonces now method path body signed).2 =
      recordNonce seenNonces signed.nonce := by
  obtain ⟨fresh, unused, fits⟩ := verify_true_iff.mp accepted
  have compared := compareDigest_true_iff.mpr fits
  unfold verify
  rw [if_neg (Nat.not_lt.mpr fresh), if_neg unused]
  dsimp only
  rw [compared]

/-- Refusing a request records nothing. -/
theorem verify_of_not_true {seenNonces : List String} {now : Int} {method path : String}
    {body : List UInt8} {signed : SignedRequest}
    (refused : (signer.verify seenNonces now method path body signed).1 ≠ .ok true) :
    (signer.verify seenNonces now method path body signed).2 = seenNonces := by
  unfold verify at refused ⊢
  split
  · rfl
  · rename_i fresh
    rw [if_neg fresh] at refused
    split
    · rfl
    · rename_i unused
      rw [if_neg unused] at refused
      dsimp only at refused ⊢
      split
      · rfl
      · rfl
      · rename_i compared
        rw [compared] at refused
        exact absurd rfl refused

end RequestSigner

/-- A signer whose digests spell out what they are of. -/
def sampleSigner : RequestSigner where
  hmac message := String.ofList (message.toList.flatMap fun character => digits 7 character.toNat)
  sha256 body := String.ofList (body.flatMap fun byte => digits 3 byte.toNat)

/-- The digests of the sample signer are of ASCII characters. -/
theorem isAscii_sampleSigner (message : String) :
    RequestSigner.isAscii (sampleSigner.hmac message) = true := by
  unfold RequestSigner.isAscii sampleSigner
  rw [String.toList_ofList, List.all_eq_true]
  intro character inside
  obtain ⟨source, -, within⟩ := List.mem_flatMap.mp inside
  have digit := isDigit_of_mem_digits within
  rw [Char.isDigit, Bool.and_eq_true, decide_eq_true_eq, decide_eq_true_eq] at digit
  have last : character.toNat ≤ 57 := UInt32.le_iff_toNat_le.mp digit.2
  exact decide_eq_true (by omega)

end VelaFlow.Security
