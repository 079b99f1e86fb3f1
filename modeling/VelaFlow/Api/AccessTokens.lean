import Mathlib.Data.List.DropRight
import VelaFlow.Foundation.Base64Reading
import VelaFlow.Foundation.JsonCodec
import VelaFlow.Security.Aead

/-!
# The access tokens of `api/auth.py`

A token is a header and a payload in base64 with a code over both. Verification recomputes the code
and reads the payload. The code in the token is decoded before anything is guarded, so a token whose
third part is no base64 raises where every other bad token is refused.
-/
namespace VelaFlow.Api

open JsonText Security

/-- The arguments of a call of `create_access_token`, with its clock. -/
structure TokenIssue where
  /-- `tenant_id`. -/
  tenantId : String
  /-- `role`. -/
  role : String
  /-- `email`. -/
  email : String
  /-- `expiry_seconds`. -/
  expirySeconds : Int := 3600
  /-- `user_id`. -/
  userId : String := ""
  /-- `user_role`. -/
  userRole : String := ""
  /-- `int(time.time())`. -/
  now : Int

/-- `TokenClaims` as `verify_token` fills it: nothing checks the types. -/
structure VerifiedClaims where
  /-- `tenant_id`. -/
  tenantId : Json
  /-- `role`. -/
  role : Json
  /-- `email`. -/
  email : Json
  /-- `exp`. -/
  exp : Json
  /-- `iat`. -/
  iat : Json
  /-- `user_id`. -/
  userId : Json
  /-- `user_role`. -/
  userRole : Json

/-- `base64.urlsafe_b64encode(data).rstrip(b"=").decode("ascii")`. -/
def encodeBytes (bytes : List UInt8) : List Char :=
  (Base64.encode bytes).rdropWhile fun character => character == '='

/-- `_b64url_encode`. -/
def b64urlEncode (data : List Char) : List Char := encodeBytes (utf8 (String.ofList data))

/-- The padding that decoding repairs. -/
def repad (data : List Char) : List Char :=
  let padding := 4 - data.length % 4
  if padding ≠ 4 then data ++ List.replicate padding '=' else data

/-- `_b64url_decode_bytes`. -/
def b64urlDecodeBytes (data : List Char) : Except PyException (List UInt8) :=
  Base64.decode (repad data)

/-- `_b64url_decode`. -/
def b64urlDecode (data : List Char) : Except PyException String := do
  decodeUtf8 (← b64urlDecodeBytes data)

/-- `value == text`. -/
def isText (text : String) : Json → Bool
  | .str value => value == text
  | _ => false

/-- `now > value`. -/
def isLater (now : ℚ) : Json → Except PyException Bool
  | .int value => .ok (decide ((value : ℚ) < now))
  | .float value => .ok (decide (value < now))
  | .bool value => .ok (decide ((if value then 1 else 0 : ℚ) < now))
  | _ => .error (.typeError "'>' not supported between instances")

/-- What the functions take from outside. -/
structure TokenAuth where
  /-- `override or _JWT_SECRET`. -/
  secret : String
  /-- `hmac.new(key, message, hashlib.sha256).digest()`. -/
  hmac : (key message : List UInt8) → List UInt8
  /-- The text of floats. -/
  floats : FloatText

namespace TokenAuth

variable (auth : TokenAuth)

/-- The code of a signing input. -/
def sign (signingInput : List Char) : List UInt8 :=
  auth.hmac (utf8 auth.secret) (utf8 (String.ofList signingInput))

/-- `header_b64`. -/
def headerPart : List Char :=
  b64urlEncode (write auth.floats .compact (.obj [("alg", .str "HS256"), ("typ", .str "JWT")]))

end TokenAuth

namespace TokenIssue

variable (issue : TokenIssue)

/-- When a token expires. -/
def exp : Int := issue.now + issue.expirySeconds

/-- The payload of a token. -/
def payload : Dict :=
  [("tenant_id", .str issue.tenantId), ("role", .str issue.role), ("email", .str issue.email),
   ("iss", .str "velaflow-api"), ("aud", .str "velaflow-api"), ("iat", .int issue.now),
   ("exp", .int issue.exp)] ++
  (if issue.userId ≠ "" then [("user_id", .str issue.userId)] else []) ++
  (if issue.userRole ≠ "" then [("user_role", .str issue.userRole)] else [])

/-- The claims that a token was issued for. -/
def claims : VerifiedClaims where
  tenantId := .str issue.tenantId
  role := .str issue.role
  email := .str issue.email
  exp := .int issue.exp
  iat := .int issue.now
  userId := .str issue.userId
  userRole := .str issue.userRole

/-- `payload_b64`. -/
def payloadPart (auth : TokenAuth) : List Char :=
  b64urlEncode (write auth.floats .compact (.obj issue.payload))

/-- `signing_input`. -/
def signingInput (auth : TokenAuth) : List Char := auth.headerPart ++ '.' :: issue.payloadPart auth

end TokenIssue

namespace TokenAuth

variable (auth : TokenAuth)

/-- `create_access_token`. -/
def createAccessToken (issue : TokenIssue) : Except PyException String :=
  if auth.secret = "" then
    .error (.runtimeError ("JWT_SECRET environment variable is required. " ++
      "Generate with: python -c 'import secrets; print(secrets.token_urlsafe(64))'"))
  else
    .ok (String.ofList (issue.signingInput auth ++ '.' ::
      encodeBytes (auth.sign (issue.signingInput auth))))

/-- The payload of a token, if it can be read. -/
def readPayload (payload : List Char) : Option Json :=
  match b64urlDecode payload with
  | .ok text => loads auth.floats text.toList
  | .error _ => none

/-- The claims of a payload that is signed. -/
def readClaims (now : ℚ) : Json → Except PyException (Option VerifiedClaims)
  | .obj members => do
    let payload : Dict := members
    let exp := payload.getD "exp" (.int 0)
    if ← isLater now exp then return none
    if isText "velaflow-api" (payload.getD "iss" .null) &&
        isText "velaflow-api" (payload.getD "aud" .null) then
      return some
        { tenantId := payload.getD "tenant_id" (.str ""), role := payload.getD "role" (.str ""),
          email := payload.getD "email" (.str ""), exp, iat := payload.getD "iat" (.int 0),
          userId := payload.getD "user_id" (.str ""), userRole := payload.getD "user_role" (.str "") }
    else return none
  | _ => .error (.other "AttributeError" "get")

/-- `verify_token`, at `time.time()`. Only reading the payload is guarded. -/
def verifyToken (token : String) (now : ℚ) : Except PyException (Option VerifiedClaims) :=
  if auth.secret = "" then .ok none
  else
    match token.toList.splitOn '.' with
    | [header, payload, signature] => do
      let expected := auth.sign (header ++ '.' :: payload)
      let actual ← b64urlDecodeBytes signature
      if expected ≠ actual then return none
      match auth.readPayload payload with
      | none => return none
      | some data => readClaims now data
    | _ => .ok none

/-- The code in a token is that of no message that was not signed. -/
def Unforged (issued : List TokenIssue) (token : String) : Prop :=
  ∀ header payload signature, token.toList.splitOn '.' = [header, payload, signature] →
    b64urlDecodeBytes signature = .ok (auth.sign (header ++ '.' :: payload)) →
      ∃ issue ∈ issued, issue.signingInput auth = header ++ '.' :: payload

/-- A token is verified, at any time, without an exception, and only to the claims of an issued
token that has its first two parts and has not expired. -/
def Exact (issued : List TokenIssue) (token : String) : Prop :=
  ∀ now, ∃ result, auth.verifyToken token now = .ok result ∧ ∀ claims ∈ result,
    ∃ issue ∈ issued, claims = issue.claims ∧ now ≤ issue.exp ∧
      ∃ signature, token.toList = issue.signingInput auth ++ '.' :: signature

end TokenAuth

/-- When a token has three parts, the last of them is in ASCII and, with its padding repaired, has
characters of the alphabet in whole groups or padding that completes one. -/
def Legible (token : String) : Prop :=
  ∀ header payload signature, token.toList.splitOn '.' = [header, payload, signature] →
    (∀ character ∈ signature, character.toNat < 128) ∧ Base64.Closed (repad signature)

section Parts

/-- No piece between marks has the mark. -/
theorem not_mem_of_mem_splitOn {mark : Char} {text piece : List Char}
    (inside : piece ∈ text.splitOn mark) : mark ∉ piece := by
  induction text generalizing piece with
  | nil =>
    rw [List.splitOn_nil] at inside
    rw [List.mem_singleton.mp inside]
    exact List.not_mem_nil
  | cons character rest ih =>
    rw [List.splitOn_cons_eq_if_modifyHead] at inside
    by_cases same : (character == mark) = true
    · rw [if_pos same] at inside
      cases List.mem_cons.mp inside with
      | inl empty =>
        rw [empty]
        exact List.not_mem_nil
      | inr later => exact ih later
    · rw [if_neg same] at inside
      cases split : rest.splitOn mark with
      | nil => exact absurd split (List.splitOn_ne_nil _ _)
      | cons first more =>
        rw [split] at inside ih
        cases List.mem_cons.mp inside with
        | inl is =>
          rw [is]
          intro member
          cases List.mem_cons.mp member with
          | inl first => exact same (by rw [first]; exact beq_self_eq_true _)
          | inr later => exact ih List.mem_cons_self later
        | inr later => exact ih (List.mem_cons_of_mem _ later)

/-- Three parts without dots are split at the dots between them. -/
theorem splitOn_three {header payload signature : List Char} (one : '.' ∉ header)
    (two : '.' ∉ payload) (three : '.' ∉ signature) :
    (header ++ ('.' :: payload ++ '.' :: signature)).splitOn '.' =
      [header, payload, signature] := by
  have joined : header ++ ('.' :: payload ++ '.' :: signature) =
      ['.'].intercalate [header, payload, signature] := by
    simp [List.intercalate]
  have free : ∀ part ∈ [header, payload, signature], '.' ∉ part := by
    simp [one, two, three]
  rw [joined]
  exact List.splitOn_intercalate '.' free (List.cons_ne_nil _ _)

/-- What is written of bytes has no dot. -/
theorem dot_not_mem_encodeBytes (bytes : List UInt8) : '.' ∉ encodeBytes bytes := by
  intro inside
  have written := (List.rdropWhile_prefix _ _).subset inside
  cases Base64.mem_encode written with
  | inl bits => exact absurd bits (by decide)
  | inr pad => cases pad

/-- Padding behind what has none is stripped. -/
theorem rdropWhile_append_pads {data : List Char} (free : '=' ∉ data) (count : Nat) :
    (data ++ List.replicate count '=').rdropWhile (fun character => character == '=') = data := by
  induction count with
  | zero =>
    rw [List.replicate_zero, List.append_nil, List.rdropWhile_eq_self_iff]
    intro nonempty pad
    have last : data.getLast nonempty = '=' := eq_of_beq pad
    exact free (last ▸ List.getLast_mem nonempty)
  | succ count ih =>
    rw [List.replicate_succ', ← List.append_assoc, List.rdropWhile_concat_pos _ _ _ rfl, ih]

/-- Bytes read back with the padding repaired. -/
theorem b64urlDecodeBytes_encodeBytes (bytes : List UInt8) :
    b64urlDecodeBytes (encodeBytes bytes) = .ok bytes := by
  have ⟨data, count, written, free, few⟩ := Base64.encode_eq_append_pads bytes
  have groups := Base64.length_encode bytes
  rw [written, List.length_append, List.length_replicate] at groups
  have stripped : encodeBytes bytes = data := by
    rw [encodeBytes, written, rdropWhile_append_pads free]
  have padded : repad data = Base64.encode bytes := by
    rw [written, repad]
    by_cases whole : data.length % 4 = 0
    · have none : count = 0 := by omega
      rw [whole, if_neg (by decide), none, List.replicate_zero, List.append_nil]
    · have missing : 4 - data.length % 4 = count := by omega
      rw [missing, if_pos (by omega)]
  rw [b64urlDecodeBytes, stripped, padded, Base64.decode_encode]

/-- A text reads back from its base64. -/
theorem b64urlDecode_b64urlEncode (text : List Char) :
    b64urlDecode (b64urlEncode text) = .ok (String.ofList text) := by
  rw [b64urlDecode, b64urlEncode, b64urlDecodeBytes_encodeBytes]
  exact decodeUtf8_utf8 _

/-- Repairing the padding brings in nothing but padding. -/
theorem ascii_repad_iff (data : List Char) :
    (∀ character ∈ repad data, character.toNat < 128) ↔
      ∀ character ∈ data, character.toNat < 128 := by
  rw [repad]
  by_cases whole : 4 - data.length % 4 = 4
  · rw [if_neg (not_not_intro whole)]
  · rw [if_pos whole]
    constructor
    · exact fun all character inside => all character (List.mem_append_left _ inside)
    · intro all character inside
      cases List.mem_append.mp inside with
      | inl inside => exact all character inside
      | inr pad =>
        rw [List.eq_of_mem_replicate pad]
        decide

/-- A last part decodes exactly when it is in ASCII and closed. -/
theorem b64urlDecodeBytes_iff (data : List Char) :
    (∃ bytes, b64urlDecodeBytes data = .ok bytes) ↔
      (∀ character ∈ data, character.toNat < 128) ∧ Base64.Closed (repad data) := by
  have read := Base64.decode_iff (repad data)
  rw [ascii_repad_iff] at read
  exact read

end Parts

section Issued

variable {auth : TokenAuth} {issue : TokenIssue}

/-- The header has no dot. -/
theorem dot_not_mem_headerPart : '.' ∉ auth.headerPart := dot_not_mem_encodeBytes _

/-- A payload has no dot. -/
theorem dot_not_mem_payloadPart : '.' ∉ issue.payloadPart auth := dot_not_mem_encodeBytes _

/-- A signing input is that of two parts without dots only when they are the header and the
payload. -/
theorem parts_of_signingInput {header payload : List Char} (one : '.' ∉ header)
    (same : issue.signingInput auth = header ++ '.' :: payload) :
    header = auth.headerPart ∧ payload = issue.payloadPart auth :=
  append_mark_inj one dot_not_mem_headerPart same.symm

/-- A token that was issued has its three parts. -/
theorem splitOn_issued (signature : List UInt8) :
    (issue.signingInput auth ++ '.' :: encodeBytes signature).splitOn '.' =
      [auth.headerPart, issue.payloadPart auth, encodeBytes signature] := by
  rw [TokenIssue.signingInput, List.append_assoc]
  exact splitOn_three dot_not_mem_headerPart dot_not_mem_payloadPart (dot_not_mem_encodeBytes _)

/-- A payload is held as it is. -/
theorem held_payload : (Json.obj issue.payload).held = .obj issue.payload := by
  rw [Json.held_obj_iff]
  constructor
  · by_cases user : issue.userId = "" <;> by_cases role : issue.userRole = "" <;>
      simp [TokenIssue.payload, Dict.keys, user, role]
  · by_cases user : issue.userId = "" <;> by_cases role : issue.userRole = "" <;>
      simp [TokenIssue.payload, Json.held, user, role]

/-- The payload of an issued token is read. -/
theorem readPayload_payloadPart : auth.readPayload (issue.payloadPart auth) =
    some (.obj issue.payload) := by
  rw [TokenAuth.readPayload, TokenIssue.payloadPart, b64urlDecode_b64urlEncode]
  dsimp only
  rw [String.toList_ofList, loads_write, held_payload]

/-- What the payload of an issued token has under the keys that are read. -/
theorem getD_payload :
    issue.payload.getD "exp" (.int 0) = .int issue.exp ∧
    issue.payload.getD "iss" .null = .str "velaflow-api" ∧
    issue.payload.getD "aud" .null = .str "velaflow-api" ∧
    issue.payload.getD "tenant_id" (.str "") = .str issue.tenantId ∧
    issue.payload.getD "role" (.str "") = .str issue.role ∧
    issue.payload.getD "email" (.str "") = .str issue.email ∧
    issue.payload.getD "iat" (.int 0) = .int issue.now ∧
    issue.payload.getD "user_id" (.str "") = .str issue.userId ∧
    issue.payload.getD "user_role" (.str "") = .str issue.userRole := by
  by_cases user : issue.userId = "" <;> by_cases role : issue.userRole = "" <;>
    simp [TokenIssue.payload, Dict.getD, user, role]

/-- The claims of an issued token are read until it expires. -/
theorem readClaims_payload (now : ℚ) : TokenAuth.readClaims now (.obj issue.payload) =
    .ok (if (issue.exp : ℚ) < now then none else some issue.claims) := by
  have ⟨exp, iss, aud, tenant, role, email, iat, user, userRole⟩ := @getD_payload issue
  have ours : isText "velaflow-api" (.str "velaflow-api") = true := rfl
  have later : isLater now (.int issue.exp) = .ok (decide ((issue.exp : ℚ) < now)) := rfl
  rw [TokenAuth.readClaims, exp, iss, aud, tenant, role, email, iat, user, userRole, ours, later]
  by_cases expired : (issue.exp : ℚ) < now
  · rw [if_pos expired, decide_eq_true expired]
    rfl
  · rw [if_neg expired, decide_eq_false expired]
    rfl

end Issued

section Read

variable {auth : TokenAuth} {token : String} {header payload signature : List Char}

/-- Without a secret no token is verified. -/
theorem verifyToken_none (missing : auth.secret = "") (now : ℚ) :
    auth.verifyToken token now = .ok none := by
  rw [TokenAuth.verifyToken, if_pos missing]

/-- A token of three parts whose last part does not decode raises. -/
theorem verifyToken_error {exception : PyException} (secret : auth.secret ≠ "")
    (split : token.toList.splitOn '.' = [header, payload, signature])
    (unread : b64urlDecodeBytes signature = .error exception) (now : ℚ) :
    auth.verifyToken token now = .error exception := by
  rw [TokenAuth.verifyToken, if_neg secret, split]
  dsimp only
  rw [unread]
  rfl

/-- A token with another code is refused. -/
theorem verifyToken_other {bytes : List UInt8} (secret : auth.secret ≠ "")
    (split : token.toList.splitOn '.' = [header, payload, signature])
    (read : b64urlDecodeBytes signature = .ok bytes)
    (other : auth.sign (header ++ '.' :: payload) ≠ bytes) (now : ℚ) :
    auth.verifyToken token now = .ok none := by
  rw [TokenAuth.verifyToken, if_neg secret, split]
  dsimp only
  rw [read]
  exact if_pos other

/-- The payload of a token with its code is read. -/
theorem verifyToken_signed {data : Json} (secret : auth.secret ≠ "")
    (split : token.toList.splitOn '.' = [header, payload, signature])
    (signed : b64urlDecodeBytes signature = .ok (auth.sign (header ++ '.' :: payload)))
    (read : auth.readPayload payload = some data) (now : ℚ) :
    auth.verifyToken token now = TokenAuth.readClaims now data := by
  rw [TokenAuth.verifyToken, if_neg secret, split]
  dsimp only
  rw [signed, read]
  exact if_neg (not_not_intro rfl)

/-- A token that is not in three parts is refused. -/
theorem verifyToken_shape
    (shape : ∀ header payload signature,
      token.toList.splitOn '.' ≠ [header, payload, signature]) (now : ℚ) :
    auth.verifyToken token now = .ok none := by
  rw [TokenAuth.verifyToken]
  by_cases missing : auth.secret = ""
  · rw [if_pos missing]
  · rw [if_neg missing]
    cases parts : token.toList.splitOn '.' with
    | nil => rfl
    | cons header rest =>
      match rest, parts with
      | [], _ => rfl
      | [_], _ => rfl
      | [payload, signature], parts => exact absurd parts (shape header payload signature)
      | _ :: _ :: _ :: _, _ => rfl

end Read

section Exactness

variable {auth : TokenAuth} {issue : TokenIssue} {issued : List TokenIssue} {token : String}

/-- An issued token is verified to its claims until it expires. -/
theorem verifyToken_issued (made : auth.createAccessToken issue = .ok token) (now : ℚ) :
    auth.verifyToken token now =
      .ok (if (issue.exp : ℚ) < now then none else some issue.claims) := by
  rw [TokenAuth.createAccessToken] at made
  by_cases missing : auth.secret = ""
  · rw [if_pos missing] at made
    cases made
  · rw [if_neg missing] at made
    have text : String.ofList (issue.signingInput auth ++ '.' ::
      encodeBytes (auth.sign (issue.signingInput auth))) = token := Except.ok.inj made
    have split : token.toList.splitOn '.' = [auth.headerPart, issue.payloadPart auth,
        encodeBytes (auth.sign (issue.signingInput auth))] := by
      rw [← text, String.toList_ofList, splitOn_issued]
    rw [verifyToken_signed missing split (b64urlDecodeBytes_encodeBytes _) readPayload_payloadPart,
      readClaims_payload]

/-- A token whose last part decodes is verified, at any time, and only to the claims of an issued
token. -/
theorem exact_of_legible (unforged : auth.Unforged issued token) (legible : Legible token) :
    auth.Exact issued token := by
  intro now
  by_cases missing : auth.secret = ""
  · exact ⟨none, verifyToken_none missing now, fun claims is => by cases is⟩
  by_cases shape : ∃ header payload signature,
      token.toList.splitOn '.' = [header, payload, signature]
  · have ⟨header, payload, signature, split⟩ := shape
    have ⟨bytes, read⟩ := (b64urlDecodeBytes_iff signature).mpr (legible _ _ _ split)
    by_cases same : auth.sign (header ++ '.' :: payload) = bytes
    · rw [← same] at read
      have ⟨issue, inside, signed⟩ := unforged _ _ _ split read
      have one : '.' ∉ header := not_mem_of_mem_splitOn (split ▸ List.mem_cons_self)
      have ⟨headers, payloads⟩ := parts_of_signingInput one signed
      have done := verifyToken_signed missing split read
        (payloads ▸ @readPayload_payloadPart auth issue) now
      rw [readClaims_payload] at done
      refine ⟨_, done, ?_⟩
      intro claims is
      by_cases expired : (issue.exp : ℚ) < now
      · rw [if_pos expired] at is
        cases is
      · rw [if_neg expired] at is
        cases is
        refine ⟨issue, inside, rfl, not_lt.mp expired, signature, ?_⟩
        rw [signed, List.append_assoc, ← @List.intercalate_splitOn _ token.toList _ _ '.', split]
        simp [List.intercalate]
    · exact ⟨none, verifyToken_other missing split read same now, fun claims is => by cases is⟩
  · refine ⟨none, verifyToken_shape (fun header payload signature split => ?_) now,
      fun claims is => by cases is⟩
    exact shape ⟨header, payload, signature, split⟩

/-- A token that does not raise has a last part that decodes. -/
theorem legible_of_verifyToken (secret : auth.secret ≠ "") {now : ℚ}
    {result : Option VerifiedClaims} (done : auth.verifyToken token now = .ok result) :
    Legible token := by
  intro header payload signature split
  rw [← b64urlDecodeBytes_iff]
  cases read : b64urlDecodeBytes signature with
  | ok bytes => exact ⟨bytes, rfl⟩
  | error exception =>
    rw [verifyToken_error secret split read] at done
    cases done

/-- The claims that a token is verified to are those of an issued token that has not expired. -/
theorem issued_of_verifyToken (unforged : auth.Unforged issued token) {now : ℚ}
    {claims : VerifiedClaims} (done : auth.verifyToken token now = .ok (some claims)) :
    ∃ issue ∈ issued, claims = issue.claims ∧ now ≤ issue.exp := by
  have secret : auth.secret ≠ "" := by
    intro missing
    rw [verifyToken_none missing] at done
    cases done
  have ⟨result, again, genuine⟩ := exact_of_legible unforged
    (legible_of_verifyToken secret done) now
  rw [done] at again
  cases again
  have ⟨issue, inside, same, before, _⟩ := genuine claims rfl
  exact ⟨issue, inside, same, before⟩

/-- A token that was issued is verified to its claims until it expires. Any other token is verified
only with the first two parts of one that was, and without an exception exactly when there is no
secret or its last part decodes. -/
theorem verify_iff (auth : TokenAuth) :
    (∀ issue token (now : ℚ), auth.createAccessToken issue = .ok token → now ≤ issue.exp →
      auth.verifyToken token now = .ok (some issue.claims)) ∧
    ∀ issued token, auth.Unforged issued token →
      (auth.Exact issued token ↔ auth.secret = "" ∨ Legible token) := by
  constructor
  · intro issue token now made before
    rw [verifyToken_issued made, if_neg (not_lt.mpr before)]
  · intro issued token unforged
    constructor
    · intro each
      by_cases missing : auth.secret = ""
      · exact .inl missing
      · have ⟨_, done, _⟩ := each 0
        exact .inr (legible_of_verifyToken missing done)
    · intro either
      cases either with
      | inl missing =>
        exact fun now => ⟨none, verifyToken_none missing now, fun claims is => by cases is⟩
      | inr legible => exact exact_of_legible unforged legible

/-- A service with the code of the sample token. -/
def sampleAuth : TokenAuth where
  secret := "first-signing-secret"
  hmac _ _ := [136, 181, 133, 221, 129, 184, 174, 19, 196, 3, 151, 131, 47, 184, 36, 36, 101, 89, 14,
    114, 186, 190, 239, 20, 213, 62, 209, 177, 235, 105, 180, 35]
  floats := .fractions

/-- A login. -/
def sampleIssue : TokenIssue where
  tenantId := "acme"
  role := "admin"
  email := "ada@acme.io"
  now := 1700000000

/-- The token of the login. -/
def sampleToken : String :=
  "eyJhbGciOiJIUzI1NiIsInR5cCI6IkpXVCJ9." ++
  "eyJ0ZW5hbnRfaWQiOiJhY21lIiwicm9sZSI6ImFkbWluIiwiZW1haWwiOiJhZGFAYWNtZS5pbyIsImlzcyI6InZlbGFm" ++
  "bG93LWFwaSIsImF1ZCI6InZlbGFmbG93LWFwaSIsImlhdCI6MTcwMDAwMDAwMCwiZXhwIjoxNzAwMDAzNjAwfQ." ++
  "iLWF3YG4rhPEA5eDL7gkJGVZDnK6vu8U1T7RsetptCM"

/-- The login gets its token. -/
theorem created_sampleToken : sampleAuth.createAccessToken sampleIssue = .ok sampleToken := by
  decide +kernel

/-- The token of the login is that of an issue. -/
theorem unforged_sampleToken : sampleAuth.Unforged [sampleIssue] sampleToken := by
  intro header payload signature split _
  have parts : sampleToken.toList.splitOn '.' = [sampleAuth.headerPart,
      sampleIssue.payloadPart sampleAuth,
      encodeBytes (sampleAuth.sign (sampleIssue.signingInput sampleAuth))] := by
    have text := Except.ok.inj created_sampleToken
    rw [← text, String.toList_ofList, splitOn_issued]
  rw [parts] at split
  have ⟨headers, rest⟩ := List.cons.inj split
  have ⟨payloads, _⟩ := List.cons.inj rest
  rw [← headers, ← payloads]
  exact ⟨sampleIssue, List.mem_cons_self, rfl⟩

/-- The token of the login is verified at the end of its hour, and only for the login. -/
theorem verify_iff_sample :
    sampleAuth.verifyToken sampleToken 1700003600 = .ok (some sampleIssue.claims) ∧
    (sampleAuth.Exact [sampleIssue] sampleToken ↔
      sampleAuth.secret = "" ∨ Legible sampleToken) :=
  ⟨(verify_iff sampleAuth).1 sampleIssue sampleToken 1700003600 created_sampleToken (by decide),
    (verify_iff sampleAuth).2 [sampleIssue] sampleToken unforged_sampleToken⟩

/-- A text of three parts that is no token, and that nobody signed, raises. -/
theorem verify_raises : sampleAuth.Unforged [] "not.a.token" ∧
    sampleAuth.verifyToken "not.a.token" 0 = .error (.valueError "Incorrect padding") := by
  have split : "not.a.token".toList.splitOn '.' = ["not".toList, "a".toList, "token".toList] := by
    decide +kernel
  have unread : b64urlDecodeBytes "token".toList = .error (.valueError "Incorrect padding") := by
    decide +kernel
  have secret : sampleAuth.secret ≠ "" := by decide
  refine ⟨?_, verifyToken_error secret split unread 0⟩
  intro header payload signature parts signed
  rw [split] at parts
  cases parts
  rw [unread] at signed
  cases signed

end Exactness

end VelaFlow.Api
