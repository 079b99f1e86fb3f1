import VelaFlow.Foundation.Machine
import VelaFlow.Security.AuditEntries

/-!
# When the audit log verifies

Runs of any number of `EncryptedAuditLog` instances over one storage. Each instance keeps the last
hash it has logged for a tenant, whatever the others do and whatever the month is. The log of a
month verifies exactly as long as every call finds in memory the last hash of that log, or comes
too late to be read.
-/
namespace VelaFlow.Security

open JsonText Tenants

/-- A call of `log` on one of the instances, with the time of its entry, the date its path is of,
and the nonce it draws. -/
structure AuditEvent where
  /-- The instance. -/
  writer : Nat
  /-- The arguments. -/
  call : AuditCall
  /-- The time of the entry. -/
  time : DateTime
  /-- The date of the path. -/
  date : Date
  /-- The nonce. -/
  nonce : String

/-- The instances, the storage, and the entries the calls have returned. -/
structure AuditState where
  /-- `_last_hash` of each instance. -/
  memory : Nat → LastHash := fun _ _ => none
  /-- What the storage holds. -/
  texts : Texts := fun _ => []
  /-- The entries returned so far, by the path they were logged at. -/
  logged : String → List AuditEntry := fun _ => []
  /-- The entries returned so far. -/
  returned : List AuditEntry := []

/-- One call of `log`. -/
def auditStep (library : AuditLibrary) (state : AuditState) (event : AuditEvent) :
    Option AuditState :=
  let done := auditLog library (state.memory event.writer) state.texts event.call event.time
    event.date event.nonce
  let path := logPath event.call.tenantId event.date
  some
    { memory := Function.update state.memory event.writer done.2.1
      texts := done.2.2
      logged := Function.update state.logged path (state.logged path ++ [done.1])
      returned := state.returned ++ [done.1] }

/-- The entry that a call makes. -/
def AuditEvent.entry (library : AuditLibrary) (state : AuditState) (event : AuditEvent) :
    AuditEntry :=
  event.call.entry library event.time ((state.memory event.writer event.call.tenantId).getD "")

/-- The path that a call logs at. -/
def AuditEvent.path (event : AuditEvent) : String := logPath event.call.tenantId event.date

/-- What one call does to the memory, the texts and the entries returned. -/
theorem auditStep_effect {library : AuditLibrary} {state next : AuditState} {event : AuditEvent}
    (moved : auditStep library state event = some next) :
    next.memory = Function.update state.memory event.writer
        (Function.update (state.memory event.writer) event.call.tenantId
          (some (event.entry library state).chainHash)) ∧
      next.texts = Function.update state.texts event.path
        (state.texts event.path ++ auditLine library event.nonce (event.entry library state) ++
          ['\n']) ∧
      next.logged = Function.update state.logged event.path
        (state.logged event.path ++ [event.entry library state]) ∧
      next.returned = state.returned ++ [event.entry library state] := by
  obtain rfl := Option.some.inj moved
  exact ⟨rfl, rfl, rfl, rfl⟩

/-- The log of a tenant in a month verifies, and each window of it reads as it was logged. -/
structure AuditComplete (library : AuditLibrary) (state : AuditState) (tenantId : String)
    (date : Date) : Prop where
  /-- `verify_chain` returns `True`. -/
  verifies : verifyAudit library tenantId (state.texts (logPath tenantId date)) = true
  /-- `read` returns the entries in order. -/
  reads : ∀ limit offset, readAudit library tenantId (state.texts (logPath tenantId date)) limit
    offset = ((state.logged (logPath tenantId date)).drop offset).take limit

/-- A call finds in memory the last hash of the log it goes on with, or the log has as many entries
as the verifier reads. -/
def GoesOn (state : AuditState) (event : AuditEvent) : Prop :=
  maxEntriesPerFile ≤ (state.logged event.path).length ∨
    (state.memory event.writer event.call.tenantId).getD "" =
      HashChain.tip AuditEntry.chainHash "" (state.logged event.path)

section Paths

/-- A month is written in seven characters. -/
theorem length_monthKey (date : Date) : (monthKey date).toList.length = 7 := by
  simp [monthKey, digits]

/-- A path names its tenant and its month. -/
theorem logPath_inj {first second : String} {one two : Date}
    (same : logPath first one = logPath second two) :
    first = second ∧ monthKey one = monthKey two := by
  have characters := congrArg String.toList same
  simp only [logPath, String.toList_append, List.append_assoc] at characters
  have rest := List.append_cancel_left characters
  have ends : ∀ date, ("/audit/".toList ++ ((monthKey date).toList ++ ".log".toList)).length =
      18 := by
    intro date
    simp [length_monthKey]
  obtain ⟨tenants, tails⟩ := List.append_inj' rest ((ends one).trans (ends two).symm)
  have months := List.append_cancel_right (List.append_cancel_left tails)
  exact ⟨String.toList_inj.mp tenants, String.toList_inj.mp months⟩

end Paths

section Holding

variable {library : AuditLibrary}

/-- A text holds entries: it is of the lines that read as them. -/
def Holds (library : AuditLibrary) (tenantId : String) (raw : List Char)
    (entries : List AuditEntry) : Prop :=
  ∃ lines, raw = textOf lines ∧ List.Forall₂ (fun line entry =>
    IsToken line ∧ (openLine library tenantId line).bind (readText library) = some entry)
    lines entries

/-- Lines that each read as an entry read as those entries, in any window. -/
theorem filterMap_lines {tenantId : String} {lines : List (List Char)}
    {entries : List AuditEntry} (are : List.Forall₂ (fun line entry =>
      IsToken line ∧ (openLine library tenantId line).bind (readText library) = some entry)
      lines entries) :
    (lines.filterMap fun line => (openLine library tenantId line).bind (readText library)) =
      entries := by
  induction are with
  | nil => rfl
  | cons is _ ih => simp only [List.filterMap_cons, is.2, ih]

/-- A text that holds entries reads as them. -/
theorem readAudit_holds {tenantId : String} {raw : List Char} {entries : List AuditEntry}
    (holds : Holds library tenantId raw entries) (limit offset : Nat) :
    readAudit library tenantId raw limit offset = (entries.drop offset).take limit := by
  obtain ⟨lines, rfl, are⟩ := holds
  have tokens : ∀ line ∈ lines, IsToken line := (List.forall₂_and_left _ _ |>.mp are).1
  by_cases none : lines = []
  · subst none
    cases are
    simp [readAudit, textOf]
  · have filled : textOf lines ≠ [] := by
      rw [textOf_eq_intercalate none]
      simp
    unfold readAudit
    rw [if_neg filled, textLines_textOf tokens none]
    exact filterMap_lines (List.forall₂_take limit (List.forall₂_drop offset are))

/-- One more line holds one more entry. -/
theorem holds_concat (laws : CipherLaws library.encryptor) {raw : List Char}
    {entries : List AuditEntry} {entry : AuditEntry}
    (holds : Holds library entry.tenantId raw entries) (is : IsAudit library entry)
    (nonce : String) :
    Holds library entry.tenantId (raw ++ auditLine library nonce entry ++ ['\n'])
      (entries ++ [entry]) := by
  obtain ⟨lines, rfl, are⟩ := holds
  refine ⟨lines ++ [auditLine library nonce entry], (textOf_concat _ _).symm, ?_⟩
  apply List.rel_append are
  refine List.Forall₂.cons ⟨isToken_auditLine laws nonce entry, ?_⟩ List.Forall₂.nil
  rw [openLine_auditLine laws, Option.bind_some, readText_entryText is]

end Holding

section Runs

variable {library : AuditLibrary}

/-- What every state has: each log holds the entries that were returned for it, and these are
entries of the audit log. -/
structure Recorded (library : AuditLibrary) (state : AuditState) : Prop where
  /-- A log holds its entries. -/
  holds : ∀ tenantId date, Holds library tenantId (state.texts (logPath tenantId date))
    (state.logged (logPath tenantId date))
  /-- The entries are what calls make. -/
  are : ∀ path, ∀ entry ∈ state.logged path, IsAudit library entry

/-- A log is complete exactly when the entries that the verifier reads are a chain. -/
theorem complete_iff {state : AuditState} (recorded : Recorded library state) (tenantId : String)
    (date : Date) :
    AuditComplete library state tenantId date ↔
      HashChain.Linked AuditEntry.previousHash AuditEntry.chainHash ""
        ((state.logged (logPath tenantId date)).take maxEntriesPerFile) := by
  have read := readAudit_holds (recorded.holds tenantId date)
  have own : ∀ entry ∈ (state.logged (logPath tenantId date)).take maxEntriesPerFile,
      entry.chainHash = entry.computeHash library :=
    fun entry inside => (recorded.are _ entry (List.mem_of_mem_take inside)).hash
  rw [← verifyEntries_iff own]
  constructor
  · intro complete
    have verifies := complete.verifies
    unfold verifyAudit at verifies
    rw [read, List.drop_zero] at verifies
    exact verifies
  · intro verifies
    refine ⟨?_, read⟩
    unfold verifyAudit
    rw [read, List.drop_zero]
    exact verifies

/-- Of a chain with one more entry, what the verifier reads is a chain when it was one, and the
entry goes on with it or comes too late to be read. -/
theorem linked_take_concat {entries : List AuditEntry} {entry : AuditEntry} :
    HashChain.Linked AuditEntry.previousHash AuditEntry.chainHash ""
        ((entries ++ [entry]).take maxEntriesPerFile) ↔
      HashChain.Linked AuditEntry.previousHash AuditEntry.chainHash ""
        (entries.take maxEntriesPerFile) ∧
      (maxEntriesPerFile ≤ entries.length ∨
        entry.previousHash = HashChain.tip AuditEntry.chainHash "" entries) := by
  by_cases late : maxEntriesPerFile ≤ entries.length
  · rw [List.take_append_of_le_length late]
    exact (and_iff_left (Or.inl late)).symm
  · have short : (entries ++ [entry]).length ≤ maxEntriesPerFile := by
      rw [List.length_append, List.length_singleton]
      omega
    rw [List.take_of_length_le short, List.take_of_length_le (by omega), HashChain.linked_concat]
    simp only [late, false_or]

/-- One call keeps the logs recorded. -/
theorem recorded_step (laws : CipherLaws library.encryptor) {state : AuditState}
    {next : AuditState} {event : AuditEvent} (recorded : Recorded library state)
    (moved : auditStep library state event = some next) : Recorded library next := by
  obtain ⟨-, texts, logged, -⟩ := auditStep_effect moved
  obtain ⟨is, -, tenant⟩ : IsAudit library (event.entry library state) ∧
      (event.entry library state).previousHash = _ ∧ _ := isAudit_entry _ _ _
  constructor
  · intro tenantId date
    rw [texts, logged]
    by_cases same : logPath tenantId date = event.path
    · have owner : tenantId = (event.entry library state).tenantId := (logPath_inj same).1
      rw [same, Function.update_self, Function.update_self, owner]
      apply holds_concat laws _ is
      exact recorded.holds event.call.tenantId event.date
    · rw [Function.update_of_ne same, Function.update_of_ne same]
      exact recorded.holds tenantId date
  · intro path entry inside
    rw [logged] at inside
    by_cases same : path = event.path
    · rw [same, Function.update_self] at inside
      rcases List.mem_append.mp inside with old | new
      · exact recorded.are _ entry old
      · rw [List.mem_singleton.mp new]
        exact is
    · rw [Function.update_of_ne same] at inside
      exact recorded.are path entry inside

/-- One call keeps the logs recorded, and keeps them complete exactly when it goes on with its
log. -/
theorem auditStep_complete (laws : CipherLaws library.encryptor) {state : AuditState}
    {event : AuditEvent} {next : AuditState} (recorded : Recorded library state)
    (moved : auditStep library state event = some next) :
    Recorded library next ∧
      ((∀ tenantId date, AuditComplete library next tenantId date) ↔
        (∀ tenantId date, AuditComplete library state tenantId date) ∧ GoesOn state event) := by
  have later := recorded_step laws recorded moved
  refine ⟨later, ?_⟩
  simp only [complete_iff later, complete_iff recorded, (auditStep_effect moved).2.2.1]
  have link : (event.entry library state).previousHash =
      (state.memory event.writer event.call.tenantId).getD "" := rfl
  constructor
  · intro linked
    have here := linked event.call.tenantId event.date
    rw [show logPath _ _ = event.path from rfl, Function.update_self, linked_take_concat, link] at here
    refine ⟨fun tenantId date => ?_, here.2⟩
    by_cases same : logPath tenantId date = event.path
    · rw [same]
      exact here.1
    · have kept := linked tenantId date
      rw [Function.update_of_ne same] at kept
      exact kept
  · rintro ⟨linked, goes⟩ tenantId date
    by_cases same : logPath tenantId date = event.path
    · rw [same, Function.update_self, linked_take_concat, link]
      exact ⟨linked _ _, goes⟩
    · rw [Function.update_of_ne same]
      exact linked tenantId date

/-- No instance has logged anything. -/
theorem recorded_start : Recorded library {} where
  holds _ _ := ⟨[], rfl, .nil⟩
  are _ _ inside := absurd inside List.not_mem_nil

/-- In every run the logs verify and read as they were logged exactly when every call goes on with
its log. -/
theorem run_complete_iff (laws : CipherLaws library.encryptor) {events : List AuditEvent}
    {final : AuditState} (ran : Machine.run (auditStep library) {} events = some final) :
    (∀ tenantId date, AuditComplete library final tenantId date) ↔
      Machine.Meets (auditStep library) GoesOn {} events := by
  have empty : ∀ tenantId date, AuditComplete library {} tenantId date :=
    fun tenantId date => (complete_iff recorded_start tenantId date).mpr (by simp [HashChain.Linked])
  rw [Machine.run_iff_meets (Recorded library)
    (fun state => ∀ tenantId date, AuditComplete library state tenantId date)
    (fun _ _ _ recorded moved => auditStep_complete laws recorded moved) recorded_start ran]
  exact and_iff_right empty

end Runs

section Sample

/-- A library whose cipher hides nothing, and that hashes everything to zeros. -/
def sampleAudit : AuditLibrary where
  floats := .fractions
  sha256 _ := zeroDigest
  encryptor := sampleEncryptor

/-- A month has a first day. -/
theorem valid_auditDay :
    1 ≤ 2025 ∧ 2025 ≤ 9999 ∧ 1 ≤ 1 ∧ 1 ≤ 12 ∧ 1 ≤ 1 ∧ 1 ≤ daysInMonth 2025 1 :=
  Date.valid_january (by decide)

/-- The first of a month. -/
def auditDay : Date := ⟨2025, 1, 1, valid_auditDay⟩

/-- A call on an instance, on that day. -/
def auditCallOn (writer : Nat) : AuditEvent where
  writer
  call := { tenantId := "acme", action := "login", distinct := distinct_none }
  time := ⟨auditDay, 12, 0, 0, 0, some 0, DateTime.valid_noon⟩
  date := auditDay
  nonce := ""

/-- What the first instance leaves. -/
def auditedOnce : AuditState := (auditStep sampleAudit {} (auditCallOn 0)).getD {}

/-- The call of the first instance. -/
theorem auditStep_once : auditStep sampleAudit {} (auditCallOn 0) = some auditedOnce := rfl

/-- What is left when a second instance goes on for a first. -/
def restartedAudit : AuditState :=
  (auditStep sampleAudit auditedOnce (auditCallOn 1)).getD {}

/-- The call of the second instance. -/
theorem auditStep_twice :
    auditStep sampleAudit auditedOnce (auditCallOn 1) = some restartedAudit := rfl

/-- The calls of both instances are a run. -/
theorem run_restartedAudit :
    Machine.run (auditStep sampleAudit) {} [auditCallOn 0, auditCallOn 1] =
      some restartedAudit := by
  rw [Machine.run_cons, auditStep_once, Option.bind_some, Machine.run_singleton, auditStep_twice]

/-- When a second instance goes on for a first in the same month, its log is not complete. -/
theorem restarted_not_complete :
    Machine.run (auditStep sampleAudit) {} [auditCallOn 0, auditCallOn 1] = some restartedAudit ∧
      ¬ ∀ tenantId date, AuditComplete sampleAudit restartedAudit tenantId date := by
  refine ⟨run_restartedAudit, fun complete => ?_⟩
  have recorded := recorded_step sampleEncryptor_laws recorded_start auditStep_once
  have goes := ((auditStep_complete sampleEncryptor_laws recorded auditStep_twice).2.mp complete).2
  have logged : auditedOnce.logged (auditCallOn 1).path =
      [(auditCallOn 0).entry sampleAudit {}] := by
    rw [(auditStep_effect auditStep_once).2.2.1]
    exact Function.update_self _ _ _
  rw [GoesOn, logged] at goes
  rcases goes with late | named
  · simp [maxEntriesPerFile] at late
  · exact hexdigest_ne_empty _ named.symm

/-- The rule for a second instance that goes on for a first. -/
theorem run_complete_iff_restarted :
    (∀ tenantId date, AuditComplete sampleAudit restartedAudit tenantId date) ↔
      Machine.Meets (auditStep sampleAudit) GoesOn {} [auditCallOn 0, auditCallOn 1] :=
  run_complete_iff sampleEncryptor_laws run_restartedAudit

end Sample

end VelaFlow.Security
