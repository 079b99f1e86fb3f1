import Mathlib
import VelaFlow.Security.RequestSigner

/-!
# Authenticity of requests

What is signed of a request is its fields joined by line breaks. The timestamp, the nonces of the
signer and the digest of the body have none, so the fields can be told apart exactly when the
method, the path and the component that were signed have none either.
-/
namespace VelaFlow.Security

open RequestSigner (Fresh Fits)

/-- What the two hash functions are taken to be: digests are known by what they are of, and are
texts of ASCII characters without line breaks. -/
structure RequestSigner.Ideal (signer : RequestSigner) : Prop where
  /-- Two messages do not have one code. -/
  hmac_injective : Function.Injective signer.hmac
  /-- A code is of ASCII characters. -/
  hmac_ascii : ∀ message, RequestSigner.isAscii (signer.hmac message) = true
  /-- Two bodies do not have one digest. -/
  sha256_injective : Function.Injective signer.sha256
  /-- A digest is one line. -/
  sha256_line : ∀ body, '\n' ∉ (signer.sha256 body).toList

/-- A call of `sign` by the holder of the secret. -/
structure SignCall where
  /-- `method`. -/
  method : String
  /-- `path`. -/
  path : String
  /-- `body`. -/
  body : List UInt8
  /-- `component_id`. -/
  componentId : String
  /-- `int(time.time())`. -/
  timestamp : Int
  /-- `secrets.token_hex(16)`. -/
  nonce : String
  /-- A nonce is one line. -/
  line : '\n' ∉ nonce.toList

namespace SignCall

/-- The request that a call returns. -/
def signed (call : SignCall) (signer : RequestSigner) : SignedRequest :=
  signer.sign call.method call.path call.body call.componentId call.timestamp call.nonce

/-- The message of a call. -/
def message (call : SignCall) (signer : RequestSigner) : String :=
  signer.buildMessage call.method call.path call.body call.timestamp call.nonce call.componentId

/-- The call signed what is presented. -/
def Covers (call : SignCall) (method path : String) (body : List UInt8) (signed : SignedRequest) :
    Prop :=
  call.method = method ∧ call.path = path ∧ call.body = body ∧
    call.componentId = signed.componentId ∧ call.timestamp = signed.timestamp ∧
    call.nonce = signed.nonce

/-- The fields of a call that are joined as they are have no line break. -/
def OneLine (call : SignCall) : Prop :=
  '\n' ∉ call.method.toList ∧ '\n' ∉ call.path.toList ∧ '\n' ∉ call.componentId.toList

end SignCall

/-- A signature that was not issued is the code of no message. -/
def Unforged (signer : RequestSigner) (log : List SignCall) (signed : SignedRequest) : Prop :=
  ∀ message, signed.signature = signer.hmac message →
    ∃ call ∈ log, (call.signed signer).signature = signed.signature

/-- Every request that `verify` accepts was signed as it is presented, whatever nonces it
remembers and at any time. -/
def Authentic (signer : RequestSigner) (log : List SignCall) : Prop :=
  ∀ seenNonces now method path body signed, Unforged signer log signed →
    (signer.verify seenNonces now method path body signed).1 = .ok true →
      ∃ call ∈ log, call.Covers method path body signed

/-- A decimal number is one line. -/
theorem line_toString (number : Int) : '\n' ∉ (toString number).toList := by
  have digits : ∀ count : Nat, '\n' ∉ count.repr.toList := by
    intro count inside
    rw [Nat.toList_repr] at inside
    have digit := Nat.isDigit_of_mem_toDigits (by omega) (by omega) inside
    cases digit
  cases number with
  | ofNat count => exact digits count
  | negSucc count =>
    intro inside
    have signed : (toString (Int.negSucc count)).toList = '-' :: (count + 1).repr.toList :=
      String.toList_append
    rw [signed] at inside
    cases List.mem_cons.mp inside with
    | inl is => cases is
    | inr later => exact digits _ later

variable {signer : RequestSigner}

/-- The characters of a message. -/
theorem toList_buildMessage (method path : String) (body : List UInt8) (timestamp : Int)
    (nonce componentId : String) :
    (signer.buildMessage method path body timestamp nonce componentId).toList =
      method.toList ++ '\n' :: (path.toList ++ '\n' :: ((toString timestamp).toList ++ '\n' ::
        (nonce.toList ++ '\n' :: (componentId.toList ++ '\n' :: (signer.sha256 body).toList)))) := by
  unfold RequestSigner.buildMessage
  simp

/-- A signed message without line breaks in its fields is that of no other fields. -/
theorem covers_of_message (ideal : signer.Ideal) {call : SignCall} (oneLine : call.OneLine)
    {method path : String} {body : List UInt8} {signed : SignedRequest}
    (same : call.message signer =
      signer.buildMessage method path body signed.timestamp signed.nonce signed.componentId) :
    call.Covers method path body signed := by
  have lists := congrArg String.toList same
  unfold SignCall.message at lists
  rw [toList_buildMessage, toList_buildMessage] at lists
  have counts := congrArg (List.count '\n') lists
  simp only [List.count_append, List.count_cons_self] at counts
  have breaks : ∀ text : List Char, '\n' ∉ text → text.count '\n' = 0 :=
    fun text => List.count_eq_zero.mpr
  rw [breaks _ oneLine.1, breaks _ oneLine.2.1, breaks _ oneLine.2.2, breaks _ call.line,
    breaks _ (line_toString call.timestamp), breaks _ (line_toString signed.timestamp),
    breaks _ (ideal.sha256_line call.body), breaks _ (ideal.sha256_line body)] at counts
  have methodLine : '\n' ∉ method.toList := List.count_eq_zero.mp (by omega)
  have pathLine : '\n' ∉ path.toList := List.count_eq_zero.mp (by omega)
  have nonceLine : '\n' ∉ signed.nonce.toList := List.count_eq_zero.mp (by omega)
  have componentLine : '\n' ∉ signed.componentId.toList := List.count_eq_zero.mp (by omega)
  obtain ⟨methods, lists⟩ := append_mark_inj oneLine.1 methodLine lists
  obtain ⟨paths, lists⟩ := append_mark_inj oneLine.2.1 pathLine lists
  obtain ⟨times, lists⟩ :=
    append_mark_inj (line_toString call.timestamp) (line_toString signed.timestamp) lists
  obtain ⟨nonces, lists⟩ := append_mark_inj call.line nonceLine lists
  obtain ⟨components, digests⟩ := append_mark_inj oneLine.2.2 componentLine lists
  exact ⟨String.toList_injective methods, String.toList_injective paths,
    ideal.sha256_injective (String.toList_injective digests),
    String.toList_injective components, Int.repr_injective (String.toList_injective times),
    String.toList_injective nonces⟩

/-- A request that was signed is accepted with other fields of the same message. -/
theorem accepts_of_message (ideal : signer.Ideal) {call : SignCall} {method path : String}
    {signed : SignedRequest} (time : signed.timestamp = call.timestamp)
    (signature : signed.signature = (call.signed signer).signature)
    (same : call.message signer = signer.buildMessage method path call.body signed.timestamp
      signed.nonce signed.componentId) :
    (signer.verify [] call.timestamp method path call.body signed).1 = .ok true := by
  apply RequestSigner.verify_true_iff.mpr
  refine ⟨?_, List.not_mem_nil, ?_, ?_⟩
  · unfold Fresh
    rw [time, Int.sub_self]
    exact Nat.zero_le _
  · rw [signature]
    exact ideal.hmac_ascii _
  · rw [signature, ← same]
    rfl

/-- A text with a line break in it falls into two. -/
theorem exists_break {text : String} (broken : '\n' ∈ text.toList) :
    ∃ first second : String, text = first ++ "\n" ++ second := by
  obtain ⟨front, back, split⟩ := List.append_of_mem broken
  refine ⟨String.ofList front, String.ofList back, String.toList_injective ?_⟩
  rw [split]
  simp

/-- A text is not one that is followed by another and a line break. -/
theorem ne_append_break (first second : String) : first ++ "\n" ++ second ≠ first := by
  intro same
  have lengths := congrArg String.length same
  rw [String.length_append, String.length_append, show "\n".length = 1 from rfl] at lengths
  omega

/-- A request with a line break in a field is accepted with other fields. -/
theorem not_authentic_of_break (ideal : signer.Ideal) {log : List SignCall}
    (distinct : (log.map SignCall.nonce).Nodup) {call : SignCall} (member : call ∈ log)
    (broken : ¬ call.OneLine) : ¬ Authentic signer log := by
  intro authentic
  have only : ∀ other ∈ log, other.nonce = call.nonce → other = call :=
    fun other inside same => List.inj_on_of_nodup_map distinct inside member same
  by_cases method : '\n' ∈ call.method.toList
  · -- the part of the method behind the line break passes for the start of the path
    obtain ⟨first, second, is⟩ := exists_break method
    have same : call.message signer = signer.buildMessage first (second ++ "\n" ++ call.path)
        call.body call.timestamp call.nonce call.componentId := by
      unfold SignCall.message RequestSigner.buildMessage
      rw [is]
      simp only [String.append_assoc]
    obtain ⟨other, inside, covers⟩ := authentic [] call.timestamp first
      (second ++ "\n" ++ call.path) call.body (call.signed signer)
      (fun _ _ => ⟨call, member, rfl⟩) (accepts_of_message ideal rfl rfl same)
    rw [only other inside covers.2.2.2.2.2] at covers
    exact ne_append_break first second (is.symm.trans covers.1)
  by_cases path : '\n' ∈ call.path.toList
  · -- the part of the path before the line break passes for the end of the method
    obtain ⟨first, second, is⟩ := exists_break path
    have same : call.message signer = signer.buildMessage (call.method ++ "\n" ++ first) second
        call.body call.timestamp call.nonce call.componentId := by
      unfold SignCall.message RequestSigner.buildMessage
      rw [is]
      simp only [String.append_assoc]
    obtain ⟨other, inside, covers⟩ := authentic [] call.timestamp (call.method ++ "\n" ++ first)
      second call.body (call.signed signer)
      (fun _ _ => ⟨call, member, rfl⟩) (accepts_of_message ideal rfl rfl same)
    rw [only other inside covers.2.2.2.2.2] at covers
    exact ne_append_break call.method first covers.1.symm
  · -- the part of the component before the line break passes for the end of the nonce
    have component : '\n' ∈ call.componentId.toList :=
      not_not.mp fun line => broken ⟨method, path, line⟩
    obtain ⟨first, second, is⟩ := exists_break component
    let signed : SignedRequest :=
      { call.signed signer with nonce := call.nonce ++ "\n" ++ first, componentId := second }
    have same : call.message signer = signer.buildMessage call.method call.path call.body
        signed.timestamp signed.nonce signed.componentId := by
      show signer.buildMessage call.method call.path call.body call.timestamp call.nonce
        call.componentId = signer.buildMessage call.method call.path call.body call.timestamp
          (call.nonce ++ "\n" ++ first) second
      unfold RequestSigner.buildMessage
      rw [is]
      simp only [String.append_assoc]
    obtain ⟨other, inside, covers⟩ := authentic [] call.timestamp call.method call.path call.body
      signed (fun _ _ => ⟨call, member, rfl⟩) (accepts_of_message ideal rfl rfl same)
    have nonce : other.nonce = call.nonce ++ "\n" ++ first := covers.2.2.2.2.2
    apply other.line
    rw [nonce]
    simp

/-- Every accepted request was signed as it is presented, exactly when no method, path or component
that was signed has a line break. -/
theorem authentic_iff (ideal : signer.Ideal) {log : List SignCall}
    (distinct : (log.map SignCall.nonce).Nodup) :
    Authentic signer log ↔ ∀ call ∈ log, call.OneLine := by
  constructor
  · intro authentic call member
    by_contra broken
    exact not_authentic_of_break ideal distinct member broken authentic
  · intro oneLine seenNonces now method path body signed unforged accepted
    obtain ⟨-, -, -, fits⟩ := RequestSigner.verify_true_iff.mp accepted
    obtain ⟨call, member, issued⟩ := unforged _ fits
    exact ⟨call, member, covers_of_message ideal (oneLine call member)
      (ideal.hmac_injective (issued.trans fits))⟩

section Sample

/-- Numbers that are written with one width are known by their digits. -/
theorem flatMap_digits_injective {α : Type} {number : α → Nat} {width : Nat}
    (injective : Function.Injective number) (fits : ∀ item, number item < 10 ^ (width + 1)) :
    Function.Injective fun items : List α =>
      items.flatMap fun item => digits (width + 1) (number item) := by
  intro first
  induction first with
  | nil =>
    intro second same
    cases second with
    | nil => rfl
    | cons item rest => cases same
  | cons item rest ih =>
    intro second same
    cases second with
    | nil => cases same
    | cons other more =>
      simp only [List.flatMap_cons] at same
      obtain ⟨numbers, rests⟩ := digits_inj (fits item) (fits other) same
      rw [injective numbers, ih rests]

/-- The sample signer is ideal. -/
theorem ideal_sampleSigner : sampleSigner.Ideal where
  hmac_injective first second same :=
    String.toList_injective (flatMap_digits_injective
      (fun one other equal => Char.ext (UInt32.toNat_inj.mp equal))
      (fun character => by
        have valid := character.valid
        have bound : character.toNat < 1114112 := by
          rcases valid with low | high
          · exact lt_trans low (by decide)
          · exact high.2
        omega)
      (String.ofList_injective same))
  hmac_ascii := isAscii_sampleSigner
  sha256_injective first second same :=
    flatMap_digits_injective (fun one other equal => UInt8.toNat_inj.mp equal)
      (fun byte => lt_trans byte.toNat_lt (by decide)) (String.ofList_injective same)
  sha256_line body inside := by
    have within : '\n' ∈ body.flatMap fun byte => digits 3 byte.toNat := by
      rw [← String.toList_ofList (l := body.flatMap fun byte => digits 3 byte.toNat)]
      exact inside
    obtain ⟨byte, -, digit⟩ := List.mem_flatMap.mp within
    cases isDigit_of_mem_digits digit

/-- The nonce of the sample calls is one line. -/
theorem line_sampleNonce : '\n' ∉ "00112233445566778899aabbccddeeff".toList := by decide

/-- A call that signs a request for a path. -/
def callFor (path : String) : SignCall where
  method := "GET"
  path := path
  body := []
  componentId := "api"
  timestamp := 0
  nonce := "00112233445566778899aabbccddeeff"
  line := line_sampleNonce

/-- What was signed for one path is authentic. -/
theorem authentic_health : Authentic sampleSigner [callFor "/health"] ↔
    ∀ call ∈ [callFor "/health"], call.OneLine :=
  authentic_iff ideal_sampleSigner (List.nodup_singleton _)

/-- What was signed for a path of two lines is accepted for another. -/
theorem two_lines_not_authentic : ¬ Authentic sampleSigner [callFor "/jobs\nnext"] :=
  not_authentic_of_break ideal_sampleSigner (List.nodup_singleton _) List.mem_cons_self
    fun oneLine => oneLine.2.1 (by decide)

end Sample

end VelaFlow.Security
