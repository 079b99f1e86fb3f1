import VelaFlow.Foundation.Base64Reading
import VelaFlow.Security.CredentialCipher

/-!
# The secrets a preflight lets through

`_check_required_env` looks at the secrets of the environment with white space stripped and padding
added, and at the length of what they decode to. The running program takes them as they stand:
`FieldEncryptor` adds no padding, and `CredentialEncryptor` pads by the length of the whole value.
A key that passes has 43 characters of the alphabet, and it is read exactly when padding comes right
behind them; a key of the installer never has any.
-/
namespace VelaFlow.Security

/-- `os.environ`. -/
abbrev Environ := String → Option String

/-- `Check`. -/
structure Check where
  /-- `name`. -/
  name : String
  /-- `passed`. -/
  passed : Bool
  /-- `blocking`. -/
  blocking : Bool
  /-- `detail`. -/
  detail : String := ""
  /-- `informational`. -/
  informational : Bool := false

/-- `failed_blocking` of a report with these checks. -/
def failedBlocking (checks : List Check) : List Check :=
  checks.filter fun check => !check.passed && check.blocking

/-- `os.environ.get(var, "")`. -/
def Environ.get (environ : Environ) (var : String) : String := (environ var).getD ""

/-- `os.environ.get(var, "").strip()`. -/
def Environ.stripped (environ : Environ) (var : String) : String :=
  String.ofList (strip (environ.get var).toList)

/-- `_validate_master_key_format`. -/
def validateMasterKeyFormat (raw : String) : Bool × String :=
  match Base64.decode (padded raw) with
  | .error exception => (false, "not valid base64url: " ++ exception.text)
  | .ok key =>
    if key.length ≠ 32 then (false, "decoded length " ++ toString key.length ++ " (need 32)")
    else (true, "ok (32 bytes)")

/-- The variables that have to be set, each with its purpose. -/
def requiredVariables : List (String × String) :=
  [("VELAFLOW_MASTER_KEY",
      "Master AES-256-GCM key (base64 32 bytes) — non-credential at-rest encryption"),
    ("VELAFLOW_CREDENTIAL_PEPPER",
      "Credential vault pepper (base64 >=32 bytes) — HKDF input bound to owner_sub"),
    ("JWT_SECRET", "JWT HS256 input bytes (min 32 chars)")]

/-- The check that a variable is set. -/
def presenceCheck (environ : Environ) (var purpose : String) : Check where
  name := "env:" ++ var
  passed := environ.stripped var ≠ ""
  blocking := true
  detail := purpose

/-- The check of the format of a value. -/
def formatCheck (var raw : String) : Check where
  name := "env:" ++ var ++ ":format"
  passed := (validateMasterKeyFormat raw).1
  blocking := true
  detail := (validateMasterKeyFormat raw).2

/-- The check of the format of a variable, made when it is set. -/
def formatChecks (environ : Environ) (var : String) : List Check :=
  if environ.stripped var = "" then [] else [formatCheck var (environ.stripped var)]

/-- The check that fails when the pepper is the master key. -/
def distinctChecks (environ : Environ) : List Check :=
  if environ.stripped "VELAFLOW_CREDENTIAL_PEPPER" ≠ "" ∧
      environ.stripped "VELAFLOW_MASTER_KEY" ≠ "" ∧
      environ.stripped "VELAFLOW_CREDENTIAL_PEPPER" = environ.stripped "VELAFLOW_MASTER_KEY" then
    [{ name := "env:VELAFLOW_CREDENTIAL_PEPPER:distinct", passed := false, blocking := true,
       detail := "pepper must not equal VELAFLOW_MASTER_KEY" }]
  else []

/-- The check of the length of the JWT secret. -/
def strengthCheck (environ : Environ) : Check where
  name := "env:JWT_SECRET:strength"
  passed := 32 ≤ (environ.get "JWT_SECRET").toList.length
  blocking := true
  detail := "length=" ++ toString (environ.get "JWT_SECRET").toList.length ++ " (need >=32)"

/-- `_check_required_env`. -/
def checkRequiredEnv (environ : Environ) : List Check :=
  (requiredVariables.map fun entry => presenceCheck environ entry.1 entry.2) ++
    formatChecks environ "VELAFLOW_MASTER_KEY" ++
    (formatChecks environ "VELAFLOW_CREDENTIAL_PEPPER" ++ distinctChecks environ) ++
    strengthCheck environ ::
      ["GOOGLE_OAUTH_CLIENT_ID", "GOOGLE_OAUTH_CLIENT_SECRET"].map fun var =>
        presenceCheck environ var "Google OAuth is the only end-user login surface"

/-- `FieldEncryptor.__init__`, with the key it keeps. -/
def initFieldEncryptor (masterKey : Option String) : Except PyException (List UInt8) :=
  if masterKey.getD "" = "" then
    .error (.runtimeError
      ("VELAFLOW_MASTER_KEY is required. Generate with: python -c " ++
        "'import secrets,base64; " ++
        "print(base64.urlsafe_b64encode(secrets.token_bytes(32)).decode())'"))
  else Base64.decode (masterKey.getD "").toList

/-- `CredentialEncryptor.__init__`, with the pepper it keeps. -/
def initCredentialEncryptor (pepper : Option String) : Except PyException (List UInt8) :=
  if pepper.getD "" = "" then
    .error (.runtimeError
      ("VELAFLOW_CREDENTIAL_PEPPER is required for the credential " ++
        "vault. Generate with: python -c " ++
        "'import secrets,base64; " ++
        "print(base64.urlsafe_b64encode(secrets.token_bytes(32)).decode())'"))
  else
    match Base64.decode (padded (pepper.getD "")) with
    | .error exception =>
      .error (.runtimeError
        ("VELAFLOW_CREDENTIAL_PEPPER is not valid base64url: " ++ exception.text))
    | .ok material =>
      if material.length < 32 then
        .error (.runtimeError
          ("VELAFLOW_CREDENTIAL_PEPPER decoded to " ++ toString material.length ++
            " bytes; need >=32."))
      else .ok material

/-- `_get_secret`, with the `JWT_SECRET` that was read when the module was loaded. -/
def getSecret (override : Option String) (jwtSecret : String) : Except PyException String :=
  let secret := if override.getD "" = "" then jwtSecret else override.getD ""
  if secret = "" then
    .error (.runtimeError
      ("JWT_SECRET environment variable is required. " ++
        "Generate with: python -c 'import secrets; print(secrets.token_urlsafe(64))'"))
  else .ok secret

/-- `secrets.token_urlsafe`, with the bytes it draws. -/
def tokenUrlsafe (token : List UInt8) : String :=
  String.ofList ((Base64.encode token).reverse.dropWhile (· == '=')).reverse

/-- `_generate_master_key` of the installer, with the 32 bytes it draws. -/
def generateMasterKey (token : List UInt8) : String := tokenUrlsafe token

/-- A check is about one of the three secrets. -/
def Check.aboutSecret (check : Check) : Bool :=
  requiredVariables.any fun entry => ("env:" ++ entry.1).toList.isPrefixOf check.name.toList

/-- No failed blocking check is about a secret. -/
def PreflightPassed (environ : Environ) : Prop :=
  ∀ check ∈ failedBlocking (checkRequiredEnv environ), check.aboutSecret = false

instance (environ : Environ) : Decidable (PreflightPassed environ) :=
  inferInstanceAs (Decidable (∀ check ∈ failedBlocking (checkRequiredEnv environ),
    check.aboutSecret = false))

/-- The running program takes the secrets of an environment without raising. -/
def Accepted (environ : Environ) : Prop :=
  (∃ key, initFieldEncryptor (environ "VELAFLOW_MASTER_KEY") = .ok key) ∧
    (∃ material, initCredentialEncryptor (environ "VELAFLOW_CREDENTIAL_PEPPER") = .ok material) ∧
      ∃ secret, getSecret none (environ.get "JWT_SECRET") = .ok secret

/-- A text in ASCII has padding right behind its 43rd character of the alphabet. -/
def ClosedKey (text : List Char) : Prop :=
  (text.all fun character => decide (character.toNat < 128)) = true ∧ Base64.PaddedAfter 43 text

/-- The keys of an environment are closed as the running program reads them: the master key as it
stands, the pepper with the padding for its length. -/
def KeysClosed (environ : Environ) : Prop :=
  ClosedKey (environ.get "VELAFLOW_MASTER_KEY").toList ∧
    ClosedKey (padded (environ.get "VELAFLOW_CREDENTIAL_PEPPER"))

section Checks

variable {environ : Environ}

/-- A blocking check about a secret passes when the preflight does. -/
theorem PreflightPassed.check (passed : PreflightPassed environ) {check : Check}
    (among : check ∈ checkRequiredEnv environ) (blocking : check.blocking = true)
    (about : check.aboutSecret = true) : check.passed = true := by
  cases holds : check.passed with
  | true => rfl
  | false =>
    have failed : check ∈ failedBlocking (checkRequiredEnv environ) :=
      List.mem_filter.mpr ⟨among, by simp [holds, blocking]⟩
    rw [passed check failed] at about
    cases about

/-- The check of a format passes when the format is valid. -/
theorem passed_formatCheck (var raw : String) :
    (formatCheck var raw).passed = (validateMasterKeyFormat raw).1 := rfl

/-- A check whose name goes on from a secret's is about it. -/
theorem aboutSecret_of_name {check : Check} {var purpose rest : String}
    (required : (var, purpose) ∈ requiredVariables) (name : check.name = "env:" ++ var ++ rest) :
    check.aboutSecret = true := by
  refine List.any_eq_true.mpr ⟨(var, purpose), required, ?_⟩
  rw [List.isPrefixOf_iff_prefix, name, String.toList_append (t := rest)]
  exact List.prefix_append _ _

/-- A required variable is set when the preflight passes. -/
theorem PreflightPassed.present (passed : PreflightPassed environ) {var purpose : String}
    (required : (var, purpose) ∈ requiredVariables) : environ.stripped var ≠ "" := by
  have among : presenceCheck environ var purpose ∈ checkRequiredEnv environ :=
    List.mem_append_left _ (List.mem_append_left _ (List.mem_append_left _
      (List.mem_map.mpr ⟨(var, purpose), required, rfl⟩)))
  have about : (presenceCheck environ var purpose).aboutSecret = true :=
    @aboutSecret_of_name _ var purpose "" required (String.append_empty).symm
  exact of_decide_eq_true (passed.check among rfl about)

/-- What passes the check of its format decodes, with padding, to 32 bytes. -/
theorem decode_of_validateMasterKeyFormat {raw : String}
    (valid : (validateMasterKeyFormat raw).1 = true) :
    ∃ key, Base64.decode (padded raw) = .ok key ∧ key.length = 32 := by
  unfold validateMasterKeyFormat at valid
  cases decoded : Base64.decode (padded raw) with
  | error exception =>
    rw [decoded] at valid
    cases valid
  | ok key =>
    rw [decoded] at valid
    by_cases length : key.length = 32
    · exact ⟨key, rfl, length⟩
    · simp only [ne_eq, length, not_false_eq_true, if_true] at valid
      cases valid

/-- A variable whose format is checked decodes when the preflight passes. -/
theorem PreflightPassed.format (passed : PreflightPassed environ) {var purpose : String}
    (required : (var, purpose) ∈ requiredVariables)
    (checked : formatChecks environ var ⊆ checkRequiredEnv environ) :
    ∃ key, Base64.decode (padded (environ.stripped var)) = .ok key ∧ key.length = 32 := by
  apply decode_of_validateMasterKeyFormat
  have made : formatCheck var (environ.stripped var) ∈ formatChecks environ var := by
    rw [formatChecks, if_neg (passed.present required)]
    exact List.mem_cons_self ..
  have about : (formatCheck var (environ.stripped var)).aboutSecret = true :=
    aboutSecret_of_name required rfl
  rw [← passed_formatCheck var]
  exact passed.check (checked made) rfl about

/-- The secret has 32 characters when the preflight passes. -/
theorem PreflightPassed.strength (passed : PreflightPassed environ) :
    32 ≤ (environ.get "JWT_SECRET").toList.length := by
  have among : strengthCheck environ ∈ checkRequiredEnv environ :=
    List.mem_append_right _ (List.mem_cons_self ..)
  have required : ("JWT_SECRET", "JWT HS256 input bytes (min 32 chars)") ∈ requiredVariables :=
    List.mem_cons_of_mem _ (List.mem_cons_of_mem _ (List.mem_cons_self ..))
  have name : (strengthCheck environ).name = "env:" ++ "JWT_SECRET" ++ ":strength" := by
    show "env:JWT_SECRET:strength" = "env:" ++ "JWT_SECRET" ++ ":strength"
    decide
  have about : (strengthCheck environ).aboutSecret = true := aboutSecret_of_name required name
  exact of_decide_eq_true (passed.check among rfl about)

end Checks

section Readings

/-- A text decodes exactly when it is in ASCII and its groups read. -/
theorem decode_eq_ok_iff {text : List Char} {bytes : List UInt8} :
    Base64.decode text = .ok bytes ↔
      (text.all fun character => decide (character.toNat < 128)) = true ∧
        Base64.readGroups 0 0 0 text = some bytes := by
  unfold Base64.decode
  by_cases ascii : (text.all fun character => decide (character.toNat < 128)) = true
  · rw [if_pos ascii]
    cases Base64.readGroups 0 0 0 text with
    | none => simp
    | some read => simpa using fun _ => ascii
  · rw [if_neg ascii]
    exact iff_of_false (fun same => by cases same) fun both => ascii both.1

/-- What is read of a value, with whatever padding, is what is read of it stripped. -/
theorem bytes_eq_of_decode {raw : List Char} {count other : Nat} {key bytes : List UInt8}
    (passed : Base64.decode (strip raw ++ List.replicate count '=') = .ok key)
    (decoded : Base64.decode (raw ++ List.replicate other '=') = .ok bytes) : bytes = key := by
  obtain ⟨-, readStripped⟩ := decode_eq_ok_iff.mp passed
  obtain ⟨-, read⟩ := decode_eq_ok_iff.mp decoded
  have same : (strip raw ++ List.replicate other '=').filter Base64.isSignificant =
      (raw ++ List.replicate other '=').filter Base64.isSignificant := by
    rw [List.filter_append, List.filter_append, Base64.filter_strip]
  rw [← Base64.readGroups_congr same] at read
  exact Base64.readGroups_pads_unique readStripped read

/-- A value that passes, stripped and padded, is read with some padding exactly when it is closed
with that padding, and then as the same 32 bytes. -/
theorem decode_iff_closedKey {raw : List Char} {count other : Nat} {key : List UInt8}
    (passed : Base64.decode (strip raw ++ List.replicate count '=') = .ok key)
    (length : key.length = 32) :
    (∃ bytes, Base64.decode (raw ++ List.replicate other '=') = .ok bytes) ↔
      ClosedKey (raw ++ List.replicate other '=') := by
  constructor
  · rintro ⟨bytes, decoded⟩
    obtain ⟨ascii, read⟩ := decode_eq_ok_iff.mp decoded
    obtain rfl := bytes_eq_of_decode passed decoded
    exact ⟨ascii, @Base64.paddedAfter_of_readGroups _ _ 10 read length⟩
  · rintro ⟨ascii, padded⟩
    obtain ⟨bytes, read⟩ := @Base64.readGroups_of_paddedAfter _ 10 padded
    exact ⟨bytes, decode_eq_ok_iff.mpr ⟨ascii, read⟩⟩

end Readings

section Acceptance

variable {environ : Environ}

/-- A variable that is set after stripping is set. -/
theorem get_ne_empty {var : String} (set : environ.stripped var ≠ "") : environ.get var ≠ "" := by
  intro empty
  apply set
  rw [Environ.stripped, empty]
  rfl

/-- A stripped variable that decodes with padding is a stripped text with some padding. -/
theorem decode_stripped {var : String} {key : List UInt8}
    (decoded : Base64.decode (padded (environ.stripped var)) = .ok key) :
    ∃ count, Base64.decode (strip (environ.get var).toList ++ List.replicate count '=') =
      .ok key := by
  rw [padded, Environ.stripped, String.toList_ofList] at decoded
  exact ⟨_, decoded⟩

/-- `FieldEncryptor` takes a master key that passed exactly when it is closed as it stands. -/
theorem initFieldEncryptor_iff (passed : PreflightPassed environ) :
    (∃ key, initFieldEncryptor (environ "VELAFLOW_MASTER_KEY") = .ok key) ↔
      ClosedKey (environ.get "VELAFLOW_MASTER_KEY").toList := by
  have required := List.mem_cons_self (l := requiredVariables.tail)
    (a := requiredVariables.head (by decide))
  have set := get_ne_empty (passed.present required)
  obtain ⟨key, decoded, length⟩ := passed.format required fun _ made =>
    List.mem_append_left _ (List.mem_append_left _ (List.mem_append_right _ made))
  obtain ⟨count, passes⟩ := decode_stripped decoded
  have whole := @decode_iff_closedKey _ count 0 key passes length
  rw [List.replicate_zero, List.append_nil] at whole
  rw [← whole]
  show (∃ key, (ite (environ.get "VELAFLOW_MASTER_KEY" = "") _ _ : Except PyException _) =
    .ok key) ↔ _
  rw [if_neg set]
  rfl

/-- `CredentialEncryptor` takes a pepper that passed exactly when it is closed with the padding for
its length. -/
theorem initCredentialEncryptor_iff (passed : PreflightPassed environ) :
    (∃ material, initCredentialEncryptor (environ "VELAFLOW_CREDENTIAL_PEPPER") = .ok material) ↔
      ClosedKey (padded (environ.get "VELAFLOW_CREDENTIAL_PEPPER")) := by
  have required : requiredVariables[1] ∈ requiredVariables :=
    List.mem_cons_of_mem _ (List.mem_cons_self ..)
  have set := get_ne_empty (passed.present required)
  obtain ⟨key, decoded, length⟩ := passed.format required fun _ made =>
    List.mem_append_left _ (List.mem_append_right _ (List.mem_append_left _ made))
  obtain ⟨count, passes⟩ := decode_stripped decoded
  rw [padded, ← decode_iff_closedKey passes length]
  have unset : (environ "VELAFLOW_CREDENTIAL_PEPPER").getD "" ≠ "" := set
  constructor
  · rintro ⟨material, made⟩
    rw [initCredentialEncryptor, if_neg unset] at made
    cases read : Base64.decode (padded ((environ "VELAFLOW_CREDENTIAL_PEPPER").getD "")) with
    | error exception =>
      rw [read] at made
      cases made
    | ok bytes => exact ⟨bytes, read⟩
  · rintro ⟨bytes, read⟩
    have same := bytes_eq_of_decode passes read
    have long : ¬bytes.length < 32 := by
      rw [same, length]
      decide
    have reads : Base64.decode (padded ((environ "VELAFLOW_CREDENTIAL_PEPPER").getD "")) =
      .ok bytes := read
    refine ⟨bytes, ?_⟩
    rw [initCredentialEncryptor, if_neg unset, reads]
    exact if_neg long

/-- `_get_secret` takes every secret that passed. -/
theorem getSecret_of_passed (passed : PreflightPassed environ) :
    ∃ secret, getSecret none (environ.get "JWT_SECRET") = .ok secret := by
  have set : environ.get "JWT_SECRET" ≠ "" := by
    intro empty
    have long := passed.strength
    rw [empty] at long
    exact absurd long (by decide)
  exact ⟨_, if_neg set⟩

/-- A key of the installer has no padding, and padded it is the encoding of its bytes. -/
theorem toList_generateMasterKey (token : List UInt8) :
    '=' ∉ (generateMasterKey token).toList ∧
      ∃ count, Base64.encode token = (generateMasterKey token).toList ++
        List.replicate count '=' := by
  obtain ⟨data, count, written, free, -⟩ := Base64.encode_eq_append_pads token
  have is : (generateMasterKey token).toList = data := by
    rw [generateMasterKey, tokenUrlsafe, String.toList_ofList, written, List.reverse_append,
      List.reverse_replicate, List.dropWhile_append_of_pos]
    · have kept : data.reverse.dropWhile (· == '=') = data.reverse := by
        cases reversed : data.reverse with
        | nil => rfl
        | cons last rest =>
          apply List.dropWhile_cons_of_neg
          have among : last ∈ data := by
            rw [← List.mem_reverse, reversed]
            exact List.mem_cons_self ..
          rw [beq_iff_eq]
          rintro rfl
          exact free among
      rw [kept, List.reverse_reverse]
    · intro character among
      rw [List.eq_of_mem_replicate among]
      rfl
  exact ⟨is.symm ▸ free, count, is.symm ▸ written⟩

/-- `FieldEncryptor` takes no key of the installer. -/
theorem initFieldEncryptor_generateMasterKey {token : List UInt8} (drawn : token.length = 32)
    (key : List UInt8) : initFieldEncryptor (some (generateMasterKey token)) ≠ .ok key := by
  intro made
  obtain ⟨free, count, written⟩ := toList_generateMasterKey token
  by_cases empty : generateMasterKey token = ""
  · rw [initFieldEncryptor, Option.getD_some, if_pos empty] at made
    cases made
  · rw [initFieldEncryptor, Option.getD_some, if_neg empty] at made
    obtain ⟨-, read⟩ := decode_eq_ok_iff.mp made
    obtain ⟨-, whole⟩ := decode_eq_ok_iff.mp (Base64.decode_encode token)
    rw [written] at whole
    have same : key = token := @Base64.readGroups_pads_unique _ count 0 token key whole
      (by rwa [List.replicate_zero, List.append_nil])
    rw [same] at read
    exact Base64.not_paddedAfter free _ (@Base64.paddedAfter_of_readGroups _ _ 10 read drawn)

end Acceptance

/-- When the preflight passes, the running program takes the secrets exactly when the keys are
closed; a key of the installer is never taken. -/
theorem preflight_sound_iff (environ : Environ) (passed : PreflightPassed environ)
    (token : List UInt8) (drawn : token.length = 32) :
    (Accepted environ ↔ KeysClosed environ) ∧
      ∀ key, initFieldEncryptor (some (generateMasterKey token)) ≠ .ok key := by
  refine ⟨?_, initFieldEncryptor_generateMasterKey drawn⟩
  unfold Accepted KeysClosed
  rw [initFieldEncryptor_iff passed, initCredentialEncryptor_iff passed,
    and_iff_left (getSecret_of_passed passed)]

section Sample

/-- An environment with this master key. -/
def sampleEnviron (masterKey : String) : Environ := fun var =>
  if var = "VELAFLOW_MASTER_KEY" then some masterKey
  else if var = "VELAFLOW_CREDENTIAL_PEPPER" then
    some "c2FtcGxlLXBlcHBlci1vZi10aGlydHktdHdvLWJ5dGU="
  else if var = "JWT_SECRET" then some "a-secret-of-thirty-two-characters"
  else none

/-- The secrets of an environment whose master key has its padding are taken. -/
theorem padded_key_accepted :
    Accepted (sampleEnviron "c2FtcGxlLW1hc3Rlci1rZXktb2YtMzItYnl0ZXMuLi4=") := by
  have passed : PreflightPassed (sampleEnviron "c2FtcGxlLW1hc3Rlci1rZXktb2YtMzItYnl0ZXMuLi4=") := by
    decide +kernel
  have sound := preflight_sound_iff _ passed (List.replicate 32 0) rfl
  refine sound.1.mpr ⟨⟨by decide +kernel, ?_⟩, ⟨by decide +kernel, ?_⟩⟩
  · exact ⟨"c2FtcGxlLW1hc3Rlci1rZXktb2YtMzItYnl0ZXMuLi4".toList, [], by decide +kernel,
      by decide +kernel⟩
  · exact ⟨"c2FtcGxlLXBlcHBlci1vZi10aGlydHktdHdvLWJ5dGU".toList, [], by decide +kernel,
      by decide +kernel⟩

/-- A key of the installer passes the preflight, and `FieldEncryptor` raises on it. -/
theorem installed_key_raises :
    PreflightPassed (sampleEnviron (generateMasterKey (List.replicate 32 7))) ∧
      initFieldEncryptor (sampleEnviron (generateMasterKey (List.replicate 32 7))
        "VELAFLOW_MASTER_KEY") = .error (.valueError "Incorrect padding") := by
  decide +kernel

end Sample

end VelaFlow.Security
