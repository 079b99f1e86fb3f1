import VelaFlow.Security.AuditCompleteness

/-!
# What tampering the audit log detects

A text in the place of the log that one instance has written for a tenant. Lines that do not
decrypt are passed over, and so are the ones behind the first ten thousand. What is left verifies
exactly when it is how the instance began to log, so the verifier reports every text but those.
-/
namespace VelaFlow.Security

open JsonText Tenants

/-- The entries returned for a tenant. -/
def AuditState.ofTenant (state : AuditState) (tenantId : String) : List AuditEntry :=
  state.returned.filter fun entry => entry.tenantId = tenantId

/-- What the lines that the verifier reads decrypt to, where they do. -/
def openedTexts (library : AuditLibrary) (tenantId : String) (raw : List Char) : List String :=
  ((textLines raw).take maxEntriesPerFile).filterMap (openLine library tenantId)

/-- The text that the hash of an entry is of. -/
def hashedText (library : AuditLibrary) (entry : AuditEntry) : List Char :=
  entry.content library.floats ++ '|' :: entry.previousHash.toList

section Chain

variable {library : AuditLibrary}

/-- A text is known behind its last separator. -/
theorem eq_behind_separator {separator : Char} {first second one two : List Char}
    (same : first ++ separator :: one = second ++ separator :: two) (oneFree : separator ∉ one)
    (twoFree : separator ∉ two) : one = two := by
  have reversed := congrArg List.reverse same
  simp only [List.reverse_append, List.reverse_cons, List.append_assoc, List.singleton_append]
    at reversed
  have behind : ∀ {front back : List Char}, separator ∉ back →
      (back.reverse ++ separator :: front).takeWhile (· ≠ separator) = back.reverse := by
    intro front back free
    have all : ∀ character ∈ back.reverse, decide (character ≠ separator) = true := by
      intro character inside
      have apart : character ≠ separator := fun is => free (is ▸ List.mem_reverse.mp inside)
      simpa using apart
    rw [List.takeWhile_append_of_pos all, List.takeWhile_cons_of_neg (by simp), List.append_nil]
  have heads := congrArg (List.takeWhile (· ≠ separator)) reversed
  rw [behind oneFree, behind twoFree] at heads
  exact List.reverse_injective heads

/-- The entries of a tenant when its calls are made on one instance: they are a chain from the
start, and the instance has its tip in memory. -/
structure Chained (library : AuditLibrary) (writer : Nat) (tenantId : String)
    (state : AuditState) : Prop where
  /-- They are a chain. -/
  linked : HashChain.Linked AuditEntry.previousHash AuditEntry.chainHash ""
    (state.ofTenant tenantId)
  /-- The memory has the tip. -/
  memory : (state.memory writer tenantId).getD "" =
    HashChain.tip AuditEntry.chainHash "" (state.ofTenant tenantId)
  /-- They are what calls make. -/
  are : ∀ entry ∈ state.ofTenant tenantId, IsAudit library entry

/-- One call keeps the entries of a tenant a chain, when it is on the instance of the tenant. -/
theorem chained_step {writer : Nat} {tenantId : String} {state next : AuditState}
    {event : AuditEvent} (chained : Chained library writer tenantId state)
    (alone : event.call.tenantId = tenantId → event.writer = writer)
    (moved : auditStep library state event = some next) :
    Chained library writer tenantId next := by
  obtain ⟨memory, -, -, returned⟩ := auditStep_effect moved
  by_cases mine : event.call.tenantId = tenantId
  · have here := alone mine
    have tenant : (event.entry library state).tenantId = tenantId := mine
    have entries : next.ofTenant tenantId =
        state.ofTenant tenantId ++ [event.entry library state] := by
      simp [AuditState.ofTenant, returned, tenant]
    have link : (event.entry library state).previousHash =
        HashChain.tip AuditEntry.chainHash "" (state.ofTenant tenantId) := by
      rw [← chained.memory, ← here, ← mine]
      rfl
    constructor
    · rw [entries, HashChain.linked_concat]
      exact ⟨chained.linked, link⟩
    · rw [entries, HashChain.tip_concat, memory, here, mine]
      simp
    · intro entry inside
      rw [entries] at inside
      rcases List.mem_append.mp inside with old | new
      · exact chained.are entry old
      · rw [List.mem_singleton.mp new]
        exact (isAudit_entry _ _ _).1
  · have tenant : (event.entry library state).tenantId ≠ tenantId := mine
    have entries : next.ofTenant tenantId = state.ofTenant tenantId := by
      simp [AuditState.ofTenant, returned, tenant]
    constructor
    · rw [entries]
      exact chained.linked
    · rw [entries, ← chained.memory, memory]
      by_cases same : writer = event.writer
      · rw [same, Function.update_self, Function.update_of_ne (Ne.symm mine)]
      · rw [Function.update_of_ne same]
    · rw [entries]
      exact chained.are

/-- After any run the entries of a tenant are a chain, when its calls are made on one instance. -/
theorem chained_run {writer : Nat} {tenantId : String} {events : List AuditEvent}
    {final : AuditState} (ran : Machine.run (auditStep library) {} events = some final)
    (alone : ∀ event ∈ events, event.call.tenantId = tenantId → event.writer = writer) :
    Chained library writer tenantId final := by
  apply Machine.run_invariant_of_meets (Chained library writer tenantId)
    (fun _ _ _ chained alone moved => chained_step chained alone moved) _
    (Machine.meets_of_forall alone _) ran
  exact ⟨trivial, rfl, fun entry inside => absurd inside List.not_mem_nil⟩

/-- The hash that an entry of a chain names has no separator. -/
theorem separator_free {entries : List AuditEntry}
    (are : ∀ entry ∈ entries, IsAudit library entry)
    (linked : HashChain.Linked AuditEntry.previousHash AuditEntry.chainHash "" entries)
    {entry : AuditEntry} (inside : entry ∈ entries) : '|' ∉ entry.previousHash.toList := by
  intro separator
  rcases HashChain.link_mem linked inside with none | ⟨other, within, named⟩
  · rw [none] at separator
    cases separator
  · rw [named, (are other within).hash] at separator
    have digit := mem_hexdigest separator
    exact absurd digit (by decide)

end Chain

section Reading

variable {library : AuditLibrary}

/-- When lines decrypt to texts of entries only, they read as those entries. -/
theorem lines_of_entries {tenantId : String} {entries : List AuditEntry}
    (are : ∀ entry ∈ entries, IsAudit library entry) {lines : List (List Char)}
    (unforged : ∀ text ∈ lines.filterMap (openLine library tenantId),
      ∃ entry ∈ entries, text = entryText library entry) :
    let read := lines.filterMap fun line =>
      (openLine library tenantId line).bind (readText library)
    lines.filterMap (openLine library tenantId) = read.map (entryText library) ∧
      ∀ entry ∈ read, entry ∈ entries := by
  induction lines with
  | nil => exact ⟨rfl, fun entry inside => absurd inside List.not_mem_nil⟩
  | cons line rest ih =>
    cases opened : openLine library tenantId line with
    | none =>
      rw [List.filterMap_cons_none opened] at unforged
      simpa [opened] using ih unforged
    | some text =>
      rw [List.filterMap_cons_some opened] at unforged
      obtain ⟨entry, inside, is⟩ := unforged text List.mem_cons_self
      have read : readText library text = some entry := by
        rw [is]
        exact readText_entryText (are entry inside)
      have later := ih fun other within => unforged other (List.mem_cons_of_mem _ within)
      simp only [List.filterMap_cons, opened, Option.bind_some, read, List.map_cons,
        List.forall_mem_cons]
      exact ⟨by rw [later.1, is], inside, later.2⟩

/-- The same of the lines that the verifier reads. -/
theorem readAudit_of_entries {tenantId : String} {raw : List Char} {entries : List AuditEntry}
    (are : ∀ entry ∈ entries, IsAudit library entry)
    (unforged : ∀ text ∈ openedTexts library tenantId raw,
      ∃ entry ∈ entries, text = entryText library entry) :
    let read := readAudit library tenantId raw maxEntriesPerFile 0
    openedTexts library tenantId raw = read.map (entryText library) ∧
      ∀ entry ∈ read, entry ∈ entries := by
  by_cases none : raw = []
  · subst none
    have blank : openedTexts library tenantId [] = [] := rfl
    rw [blank]
    exact ⟨rfl, fun entry inside => absurd inside List.not_mem_nil⟩
  · have lines := lines_of_entries are unforged
    unfold readAudit
    rw [if_neg none, List.drop_zero]
    exact lines

/-- Lists of entries are prefixes of each other when their texts are. -/
theorem prefix_map_entryText {entries chosen : List AuditEntry}
    (are : ∀ entry ∈ entries, IsAudit library entry) (inside : ∀ entry ∈ chosen, entry ∈ entries) :
    chosen.map (entryText library) <+: entries.map (entryText library) ↔ chosen <+: entries := by
  constructor
  · intro part
    have read : ∀ {list : List AuditEntry}, (∀ entry ∈ list, entry ∈ entries) →
        (list.map (entryText library)).filterMap (readText library) = list := by
      intro list within
      have each : ∀ entry ∈ list,
          (readText library ∘ entryText library) entry = some entry := by
        intro entry is
        rw [Function.comp_apply]
        exact readText_entryText (are entry (within entry is))
      rw [List.filterMap_map, List.filterMap_congr each, List.filterMap_some]
    have whole := part.filterMap (readText library)
    rw [read inside, read fun entry is => is] at whole
    exact whole
  · exact fun part => part.map _

end Reading

section Soundness

variable {library : AuditLibrary}

/-- In the place of the log that one instance has written for a tenant, with SHA-256 free of
collisions on what it has hashed, the verifier reports exactly the texts that do not open to how
the instance began to log. -/
theorem verifyAudit_false_iff {writer : Nat} {tenantId : String} {events : List AuditEvent}
    {final : AuditState} (ran : Machine.run (auditStep library) {} events = some final)
    (alone : ∀ event ∈ events, event.call.tenantId = tenantId → event.writer = writer)
    (noCollision : ∀ first ∈ final.ofTenant tenantId, ∀ second ∈ final.ofTenant tenantId,
      library.sha256 (hashedText library first) = library.sha256 (hashedText library second) →
        hashedText library first = hashedText library second)
    {raw : List Char} (unforged : ∀ text ∈ openedTexts library tenantId raw,
      ∃ entry ∈ final.ofTenant tenantId, text = entryText library entry) :
    verifyAudit library tenantId raw = false ↔
      ¬ openedTexts library tenantId raw <+:
        (final.ofTenant tenantId).map (entryText library) := by
  have chained := chained_run ran alone
  obtain ⟨opened, inside⟩ := readAudit_of_entries chained.are unforged
  rw [opened, prefix_map_entryText chained.are inside, ← Bool.not_eq_true]
  apply not_congr
  unfold verifyAudit
  rw [verifyEntries_iff fun entry within => (chained.are entry (inside entry within)).hash]
  constructor
  · intro linked
    apply HashChain.prefix_of_linked chained.linked _ _ linked inside
    · intro entry within
      rw [(chained.are entry within).hash]
      exact hexdigest_ne_empty _
    · intro first one second two same
      rw [(chained.are first one).hash, (chained.are second two).hash] at same
      have text := noCollision first one second two (hexdigest_inj same)
      exact String.toList_inj.mp (eq_behind_separator text
        (separator_free chained.are chained.linked one)
        (separator_free chained.are chained.linked two))
  · exact fun part => HashChain.linked_of_prefix chained.linked part

/-- A text that was put in the place of a log of one line. -/
def corruptedText : List Char := ['j', 'u', 'n', 'k', '\n']

/-- The line of the corrupted text. -/
theorem textLines_corruptedText : textLines corruptedText = [['j', 'u', 'n', 'k']] := by decide

/-- A line of the sample begins with a mark. -/
theorem head?_auditLine (nonce : String) (entry : AuditEntry) :
    (auditLine sampleAudit nonce entry).head? = some 'x' := by
  unfold auditLine
  simp [sampleAudit, sampleEncryptor, sampleLabel]

/-- Nothing of the corrupted text decrypts. -/
theorem openedTexts_corruptedText : openedTexts sampleAudit "acme" corruptedText = [] := by
  have fails : openLine sampleAudit "acme" ['j', 'u', 'n', 'k'] = none := by
    have filled : strip ['j', 'u', 'n', 'k'] = ['j', 'u', 'n', 'k'] := by decide
    simp [openLine, filled, sampleAudit, sampleEncryptor, sampleLabel, Except.toOption]
  unfold openedTexts
  rw [textLines_corruptedText, List.take_of_length_le (by simp [maxEntriesPerFile]), List.filterMap_cons_none fails]
  rfl

/-- The one entry that was logged. -/
theorem ofTenant_auditedOnce :
    auditedOnce.ofTenant "acme" = [(auditCallOn 0).entry sampleAudit {}] := by
  unfold AuditState.ofTenant
  rw [(auditStep_effect auditStep_once).2.2.2]
  rfl

/-- The call of one instance is a run. -/
theorem run_auditedOnce :
    Machine.run (auditStep sampleAudit) {} [auditCallOn 0] = some auditedOnce := by
  rw [Machine.run_singleton, auditStep_once]

/-- A log of one line that is corrupted verifies. -/
theorem corruptedText_verifies :
    Machine.run (auditStep sampleAudit) {} [auditCallOn 0] = some auditedOnce ∧
      ¬ textLines corruptedText <+: textLines (auditedOnce.texts (auditCallOn 0).path) ∧
      openedTexts sampleAudit "acme" corruptedText = [] ∧
      verifyAudit sampleAudit "acme" corruptedText ≠ false := by
  refine ⟨run_auditedOnce, ?_, openedTexts_corruptedText, ?_⟩
  · let line := auditLine sampleAudit "" ((auditCallOn 0).entry sampleAudit {})
    have token : ∀ other ∈ [line], IsToken other := by
      intro other inside
      rw [List.mem_singleton.mp inside]
      exact isToken_auditLine sampleEncryptor_laws _ _
    have stored : auditedOnce.texts (auditCallOn 0).path = textOf [line] := by
      rw [(auditStep_effect auditStep_once).2.1, Function.update_self]
      exact (textOf_concat [] line).symm
    rw [stored, textLines_textOf token (List.cons_ne_nil _ _), textLines_corruptedText,
      List.cons_prefix_cons]
    rintro ⟨same, -⟩
    have heads := congrArg List.head? same
    rw [head?_auditLine] at heads
    cases heads
  · have unforged : ∀ text ∈ openedTexts sampleAudit "acme" corruptedText,
        ∃ entry ∈ [], text = entryText sampleAudit entry := by
      rw [openedTexts_corruptedText]
      simp
    have none := (readAudit_of_entries (fun _ inside => absurd inside List.not_mem_nil) unforged).1
    rw [openedTexts_corruptedText, eq_comm, List.map_eq_nil_iff] at none
    unfold verifyAudit
    rw [none]
    simp [verifyEntries]

/-- The rule for a log of one line that is corrupted. -/
theorem verifyAudit_false_iff_corrupted :
    verifyAudit sampleAudit "acme" corruptedText = false ↔
      ¬ openedTexts sampleAudit "acme" corruptedText <+:
        (auditedOnce.ofTenant "acme").map (entryText sampleAudit) := by
  apply verifyAudit_false_iff run_auditedOnce
  · intro event inside _
    rw [List.mem_singleton.mp inside]
  · intro first one second two _
    rw [ofTenant_auditedOnce] at one two
    rw [List.mem_singleton.mp one, List.mem_singleton.mp two]
  · rw [openedTexts_corruptedText]
    simp

end Soundness

end VelaFlow.Security
