import VelaFlow.Security.AuditCompleteness
import VelaFlow.Storage.EncryptionCoverage

/-!
# Logs under storage errors

The audit log and the events of a demo are each a text that is read, lengthened by a line and
written back. A read that fails counts as an empty text, so the write that follows throws away what
was logged before; a write that fails leaves the text, but the audit log has moved its last hash
already. The runs here are those of one tenant in one month, and every read and every write may
fail.
-/
namespace VelaFlow.Security

open JsonText Storage

/-- A call that appends to a log of the tenant. -/
inductive LogRequest where
  /-- `EncryptedAuditLog.log`; the tenant is the one of the run. -/
  | log (call : AuditCall) (time : DateTime) (nonce : String)
  /-- `DemoManager._log_event`. -/
  | logEvent (eventType : String) (time : DateTime) (data : Dict) (nonce : String)
      (distinct : (Json.obj data).held = .obj data)

/-- A call, and whether its `read_text` and its `write_text` raise. -/
structure LogEvent where
  /-- The call. -/
  call : LogRequest
  /-- `read_text` raises. -/
  readFails : Bool := false
  /-- `write_text` raises. -/
  writeFails : Bool := false

/-- The audit log of one process, the storage, and what was logged by calls that returned. -/
structure LogState where
  /-- `_last_hash`. -/
  lastHash : LastHash := fun _ => none
  /-- What the storage holds. -/
  texts : Texts := fun _ => []
  /-- The entries of the calls of `log` that returned. -/
  logged : List AuditEntry := []
  /-- The events of the calls of `_log_event` that returned. -/
  events : List Json := []

/-- The event that `_log_event` stores. -/
def demoEvent (eventType : String) (time : DateTime) (data : Dict) : Json :=
  .obj [("event_type", .str eventType), ("timestamp", .str time.isoformat), ("data", .obj data)]

/-- The text that both logs write: a text that could not be read counts as empty. -/
def lengthened (readFails : Bool) (existing line : List Char) : List Char :=
  (if readFails then [] else existing) ++ line ++ ['\n']

/-- One call for a tenant, in the month of a date. -/
def logStep (library : AuditLibrary) (tenantId : String) (date : Date) (state : LogState)
    (event : LogEvent) : Option LogState :=
  match event.call with
  | .log call time nonce =>
    let entry := AuditCall.entry library { call with tenantId } time
      ((state.lastHash tenantId).getD "")
    let lastHash := Function.update state.lastHash tenantId (some entry.chainHash)
    let path := logPath tenantId date
    if event.writeFails then some { state with lastHash }
    else
      some
        { state with
          lastHash
          texts := Function.update state.texts path
            (lengthened event.readFails (state.texts path) (auditLine library nonce entry))
          logged := state.logged ++ [entry] }
  | .logEvent eventType time data nonce _ =>
    let path := demoEventsKey tenantId
    if event.writeFails then some state
    else
      some
        { state with
          texts := Function.update state.texts path
            (lengthened event.readFails (state.texts path)
              (demoLine library nonce tenantId eventType time data))
          events := state.events ++ [demoEvent eventType time data] }

/-- What a line of the demo events decrypts to. -/
def openEvent (library : AuditLibrary) (tenantId : String) (line : List Char) : Option String :=
  if strip line = [] then none
  else (library.encryptor.decrypt (String.ofList (strip line)) tenantId "demo_audit").toOption

/-- The event of a line. -/
def readEvent (library : AuditLibrary) (tenantId : String) (line : List Char) : Option Json :=
  (openEvent library tenantId line).bind fun text => loads library.floats text.toList

/-- `_load_events` of a text: what is blank or fails is passed over. -/
def loadEvents (library : AuditLibrary) (tenantId : String) (raw : List Char) : List Json :=
  if raw = [] then [] else (textLines raw).filterMap (readEvent library tenantId)

/-- What was logged can be read, and the audit log verifies. -/
structure LogsSurvive (library : AuditLibrary) (tenantId : String) (date : Date)
    (state : LogState) : Prop where
  /-- `read` returns every window of the entries, in order. -/
  reads : ∀ limit offset, readAudit library tenantId (state.texts (logPath tenantId date)) limit
    offset = (state.logged.drop offset).take limit
  /-- `_load_events` returns the events, in order. -/
  loads : loadEvents library tenantId (state.texts (demoEventsKey tenantId)) = state.events
  /-- `verify_chain` returns `True`. -/
  verifies : verifyAudit library tenantId (state.texts (logPath tenantId date)) = true

/-- A call that returns reads its log, or is the first of it that returns; and one of the audit log
finds the last hash of the entries that were logged, or has as many before it as are verified. -/
def Appends (tenantId : String) (state : LogState) (event : LogEvent) : Prop :=
  event.writeFails = false →
    match event.call with
    | .log _ _ _ => (event.readFails = true → state.logged = []) ∧
        (maxEntriesPerFile ≤ state.logged.length ∨
          (state.lastHash tenantId).getD "" = HashChain.tip AuditEntry.chainHash "" state.logged)
    | .logEvent _ _ _ _ _ => event.readFails = true → state.events = []

section Lines

/-- A text holds items: it is of the lines that read as them. -/
def HoldsItems {α : Type} (read : List Char → Option α) (raw : List Char) (items : List α) : Prop :=
  ∃ lines, raw = textOf lines ∧
    List.Forall₂ (fun line item => IsToken line ∧ read line = some item) lines items

variable {α : Type} {read : List Char → Option α} {raw : List Char} {items : List α}

/-- A text that holds items reads as them, in any window. -/
theorem filterMap_window (holds : HoldsItems read raw items) (limit offset : Nat) :
    (if raw = [] then [] else (((textLines raw).drop offset).take limit).filterMap read) =
      (items.drop offset).take limit := by
  obtain ⟨lines, rfl, are⟩ := holds
  have each : ∀ {lines : List (List Char)} {items : List α},
      List.Forall₂ (fun line item => IsToken line ∧ read line = some item) lines items →
        lines.filterMap read = items := by
    intro lines items are
    induction are with
    | nil => rfl
    | cons is _ ih => rw [List.filterMap_cons_some is.2, ih]
  have tokens : ∀ line ∈ lines, IsToken line := (List.forall₂_and_left _ _ |>.mp are).1
  by_cases none : lines = []
  · subst none
    cases are
    simp [textOf]
  · have filled : textOf lines ≠ [] := by
      rw [textOf_eq_intercalate none]
      simp
    rw [if_neg filled, textLines_textOf tokens none]
    exact each (List.forall₂_take limit (List.forall₂_drop offset are))

/-- A log that is lengthened by a line holds one more item, of those it was read to hold. -/
theorem holdsItems_lengthened {readFails : Bool} {line : List Char} {item : α}
    (holds : HoldsItems read raw items) (token : IsToken line) (is : read line = some item) :
    HoldsItems read (lengthened readFails raw line)
      ((if readFails then [] else items) ++ [item]) := by
  obtain ⟨lines, rfl, are⟩ := holds
  unfold lengthened
  cases readFails with
  | true => exact ⟨[line], (textOf_concat [] line).symm, .cons ⟨token, is⟩ .nil⟩
  | false =>
    exact ⟨lines ++ [line], (textOf_concat lines line).symm,
      List.rel_append are (.cons ⟨token, is⟩ .nil)⟩

/-- Items that end a list, or none of them, end it with one more. -/
theorem suffix_concat {α : Type} {kept all : List α} (ends : kept <:+ all) (item : α)
    (readFails : Bool) : (if readFails then [] else kept) ++ [item] <:+ all ++ [item] := by
  cases readFails with
  | true => exact List.suffix_append all [item]
  | false =>
    obtain ⟨front, rfl⟩ := ends
    exact ⟨front, (List.append_assoc ..).symm⟩

/-- Of items that end a list, with one more each, nothing is lost exactly when nothing was and
they were read or there were none. -/
theorem kept_concat_iff {α : Type} {kept all : List α} (ends : kept <:+ all) (item : α)
    (readFails : Bool) :
    (if readFails then [] else kept) ++ [item] = all ++ [item] ↔
      kept = all ∧ (readFails = true → all = []) := by
  rw [List.append_cancel_right_eq]
  cases readFails with
  | false => simp
  | true =>
    constructor
    · intro none
      rw [← show [] = all from none] at ends ⊢
      exact ⟨List.eq_nil_of_suffix_nil ends, fun _ => rfl⟩
    · exact fun both => (both.2 rfl).symm

end Lines

section Runs

variable {library : AuditLibrary} {tenantId : String} {date : Date} {state next : LogState}
  {event : LogEvent} {entries : List AuditEntry} {events : List Json}

/-- What the texts of a state hold: the last of what was logged. -/
structure HoldsLast (library : AuditLibrary) (tenantId : String) (date : Date) (state : LogState)
    (entries : List AuditEntry) (events : List Json) : Prop where
  /-- The audit log holds the entries. -/
  audit : HoldsItems (fun line => (openLine library tenantId line).bind (readText library))
    (state.texts (logPath tenantId date)) entries
  /-- The demo's log holds the events. -/
  demo : HoldsItems (readEvent library tenantId) (state.texts (demoEventsKey tenantId)) events
  /-- They are the last of the logged ones. -/
  lastEntries : entries <:+ state.logged
  /-- They are the last of the logged ones. -/
  lastEvents : events <:+ state.events
  /-- The logged entries are entries of the audit log. -/
  are : ∀ entry ∈ state.logged, IsAudit library entry

/-- A text that holds events loads as them. -/
theorem loadEvents_of_holds {raw : List Char} {events : List Json}
    (holds : HoldsItems (readEvent library tenantId) raw events) :
    loadEvents library tenantId raw = events := by
  have window := filterMap_window holds (max events.length (textLines raw).length) 0
  rw [List.drop_zero, List.drop_zero, List.take_of_length_le (le_max_right _ _),
    List.take_of_length_le (le_max_left _ _)] at window
  exact window

/-- Nothing is lost exactly when the texts hold all that was logged and the entries that the
verifier reads are a chain. -/
theorem logsSurvive_iff (holds : HoldsLast library tenantId date state entries events) :
    LogsSurvive library tenantId date state ↔ entries = state.logged ∧ events = state.events ∧
      HashChain.Linked AuditEntry.previousHash AuditEntry.chainHash ""
        (state.logged.take maxEntriesPerFile) := by
  have reads : ∀ limit offset, readAudit library tenantId (state.texts (logPath tenantId date))
      limit offset = (entries.drop offset).take limit := filterMap_window holds.audit
  have loads : loadEvents library tenantId (state.texts (demoEventsKey tenantId)) = events :=
    loadEvents_of_holds holds.demo
  have verifies : verifyAudit library tenantId (state.texts (logPath tenantId date)) =
      verifyEntries library "" (entries.take maxEntriesPerFile) := by
    unfold verifyAudit
    rw [reads, List.drop_zero]
  have own : ∀ entry ∈ state.logged.take maxEntriesPerFile,
      entry.chainHash = entry.computeHash library := fun entry inside =>
    (holds.are entry (List.mem_of_mem_take inside)).hash
  constructor
  · intro survive
    have all : entries = state.logged := by
      have whole := survive.reads (max entries.length state.logged.length) 0
      rw [reads, List.drop_zero, List.drop_zero, List.take_of_length_le (le_max_left _ _),
        List.take_of_length_le (le_max_right _ _)] at whole
      exact whole
    refine ⟨all, loads.symm.trans survive.loads, ?_⟩
    rw [← verifyEntries_iff own, ← all, ← verifies]
    exact survive.verifies
  · rintro ⟨rfl, rfl, linked⟩
    exact ⟨reads, loads, verifies.trans ((verifyEntries_iff own "").mpr linked)⟩

/-- The paths of the two logs differ in their last character. -/
theorem logPath_ne_demoEventsKey : logPath tenantId date ≠ demoEventsKey tenantId := by
  intro same
  have ends := congrArg (fun text => text.toList.getLast?) same
  unfold logPath demoEventsKey at ends
  simp only [String.toList_append] at ends
  rw [List.getLast?_append_of_ne_nil _ (by decide), List.getLast?_append_of_ne_nil _ (by decide)]
    at ends
  exact absurd ends (by decide)

/-- What a demo event's line reads as. -/
theorem readEvent_demoLine (laws : CipherLaws library.encryptor) (nonce eventType : String)
    (time : DateTime) {data : Dict} (distinct : (Json.obj data).held = .obj data) :
    IsToken (demoLine library nonce tenantId eventType time data) ∧
      readEvent library tenantId (demoLine library nonce tenantId eventType time data) =
        some (demoEvent eventType time data) := by
  have token : IsToken (demoLine library nonce tenantId eventType time data) := by
    refine ⟨fun empty => ?_, laws.spaceless _ _ _ _⟩
    exact laws.filled _ _ _ _ (String.toList_eq_nil_iff.mp empty)
  have held : (demoEvent eventType time data).held = demoEvent eventType time data := by
    apply Json.held_obj_iff.mpr
    refine ⟨by simp [Dict.keys], ?_⟩
    simp only [List.forall_mem_cons]
    exact ⟨rfl, rfl, distinct, fun _ none => absurd none List.not_mem_nil⟩
  have text : loads library.floats (dumps library.floats (demoEvent eventType time data)) =
      some (demoEvent eventType time data) := by
    unfold dumps
    rw [loads_write, held]
  have opened : openEvent library tenantId (demoLine library nonce tenantId eventType time data) =
      some (String.ofList (dumps library.floats (demoEvent eventType time data))) := by
    unfold openEvent
    rw [strip_token token, if_neg token.1]
    unfold demoLine
    rw [String.ofList_toList, laws.decrypts]
    rfl
  refine ⟨token, ?_⟩
  unfold readEvent
  rw [opened, Option.bind_some, String.toList_ofList, text]

/-- A call of the audit log keeps its text to the last of what was logged, and loses nothing
exactly when it appends. -/
theorem logStep_log (laws : CipherLaws library.encryptor) {call : AuditCall} {time : DateTime}
    {nonce : String} {readFails writeFails : Bool}
    (holds : HoldsLast library tenantId date state entries events)
    (moved : logStep library tenantId date state ⟨.log call time nonce, readFails, writeFails⟩ =
      some next) :
    ∃ entries', HoldsLast library tenantId date next entries' events ∧
      (LogsSurvive library tenantId date next ↔ LogsSurvive library tenantId date state ∧
        Appends tenantId state ⟨.log call time nonce, readFails, writeFails⟩) := by
  cases writeFails with
  | true =>
    obtain rfl := Option.some.inj moved
    have same : HoldsLast library tenantId date { state with
        lastHash := Function.update state.lastHash tenantId (some (AuditCall.entry library
          { call with tenantId } time ((state.lastHash tenantId).getD "")).chainHash) }
        entries events :=
      ⟨holds.audit, holds.demo, holds.lastEntries, holds.lastEvents, holds.are⟩
    refine ⟨entries, same, ?_⟩
    have free : Appends tenantId state ⟨.log call time nonce, readFails, true⟩ := by
      unfold Appends
      intro returned
      cases returned
    rw [logsSurvive_iff holds, logsSurvive_iff same]
    exact (and_iff_left free).symm
  | false =>
    obtain rfl := Option.some.inj moved
    obtain ⟨is, link, tenant⟩ := @isAudit_entry library { call with tenantId } time
      ((state.lastHash tenantId).getD "")
    have read : (openLine library tenantId (auditLine library nonce (AuditCall.entry library
        { call with tenantId } time ((state.lastHash tenantId).getD "")))).bind (readText library) =
          some (AuditCall.entry library { call with tenantId } time
            ((state.lastHash tenantId).getD "")) := by
      have opened := openLine_auditLine laws nonce (AuditCall.entry library
        { call with tenantId } time ((state.lastHash tenantId).getD ""))
      rw [tenant] at opened
      rw [opened, Option.bind_some, readText_entryText is]
    generalize AuditCall.entry library { call with tenantId } time
      ((state.lastHash tenantId).getD "") = entry at *
    have later : HoldsLast library tenantId date
        { state with
          lastHash := Function.update state.lastHash tenantId (some entry.chainHash)
          texts := Function.update state.texts (logPath tenantId date)
            (lengthened readFails (state.texts (logPath tenantId date))
              (auditLine library nonce entry))
          logged := state.logged ++ [entry] }
        ((if readFails then [] else entries) ++ [entry]) events := by
      constructor
      · show HoldsItems _ (Function.update state.texts _ _ (logPath tenantId date)) _
        rw [Function.update_self]
        exact holdsItems_lengthened holds.audit (isToken_auditLine laws nonce entry) read
      · show HoldsItems _ (Function.update state.texts _ _ (demoEventsKey tenantId)) _
        rw [Function.update_of_ne logPath_ne_demoEventsKey.symm]
        exact holds.demo
      · exact suffix_concat holds.lastEntries entry readFails
      · exact holds.lastEvents
      · intro other inside
        cases List.mem_append.mp inside with
        | inl old => exact holds.are other old
        | inr new =>
          rw [List.mem_singleton.mp new]
          exact is
    refine ⟨_, later, ?_⟩
    rw [logsSurvive_iff later, logsSurvive_iff holds, kept_concat_iff holds.lastEntries,
      linked_take_concat, link]
    have appends : Appends tenantId state ⟨.log call time nonce, readFails, false⟩ ↔
        (readFails = true → state.logged = []) ∧
          (maxEntriesPerFile ≤ state.logged.length ∨ (state.lastHash tenantId).getD "" =
            HashChain.tip AuditEntry.chainHash "" state.logged) := by
      unfold Appends
      exact ⟨fun all => all rfl, fun both _ => both⟩
    rw [appends]
    tauto

/-- A call of a demo's log does so too. -/
theorem logStep_logEvent (laws : CipherLaws library.encryptor) {eventType : String}
    {time : DateTime} {data : Dict} {nonce : String} {distinct : (Json.obj data).held = .obj data}
    {readFails writeFails : Bool}
    (holds : HoldsLast library tenantId date state entries events)
    (moved : logStep library tenantId date state
      ⟨.logEvent eventType time data nonce distinct, readFails, writeFails⟩ = some next) :
    ∃ events', HoldsLast library tenantId date next entries events' ∧
      (LogsSurvive library tenantId date next ↔ LogsSurvive library tenantId date state ∧
        Appends tenantId state
          ⟨.logEvent eventType time data nonce distinct, readFails, writeFails⟩) := by
  cases writeFails with
  | true =>
    obtain rfl := Option.some.inj moved
    refine ⟨events, holds, ?_⟩
    have free : Appends tenantId state
        ⟨.logEvent eventType time data nonce distinct, readFails, true⟩ := by
      unfold Appends
      intro returned
      cases returned
    exact (and_iff_left free).symm
  | false =>
    obtain rfl := Option.some.inj moved
    obtain ⟨token, read⟩ := @readEvent_demoLine library tenantId laws nonce eventType time data
      distinct
    have later : HoldsLast library tenantId date
        { state with
          texts := Function.update state.texts (demoEventsKey tenantId)
            (lengthened readFails (state.texts (demoEventsKey tenantId))
              (demoLine library nonce tenantId eventType time data))
          events := state.events ++ [demoEvent eventType time data] }
        entries ((if readFails then [] else events) ++ [demoEvent eventType time data]) := by
      constructor
      · show HoldsItems _ (Function.update state.texts _ _ (logPath tenantId date)) _
        rw [Function.update_of_ne logPath_ne_demoEventsKey]
        exact holds.audit
      · show HoldsItems _ (Function.update state.texts _ _ (demoEventsKey tenantId)) _
        rw [Function.update_self]
        exact holdsItems_lengthened holds.demo token read
      · exact holds.lastEntries
      · exact suffix_concat holds.lastEvents _ readFails
      · exact holds.are
    refine ⟨_, later, ?_⟩
    rw [logsSurvive_iff later, logsSurvive_iff holds, kept_concat_iff holds.lastEvents]
    have appends : Appends tenantId state
        ⟨.logEvent eventType time data nonce distinct, readFails, false⟩ ↔
          (readFails = true → state.events = []) := by
      unfold Appends
      exact ⟨fun all => all rfl, fun both _ => both⟩
    rw [appends]
    tauto

/-- What one call keeps, and what it loses. -/
theorem logStep_holds (laws : CipherLaws library.encryptor)
    (holds : HoldsLast library tenantId date state entries events)
    (moved : logStep library tenantId date state event = some next) :
    ∃ entries' events', HoldsLast library tenantId date next entries' events' ∧
      (LogsSurvive library tenantId date next ↔
        LogsSurvive library tenantId date state ∧ Appends tenantId state event) := by
  obtain ⟨call, readFails, writeFails⟩ := event
  cases call with
  | log call time nonce =>
    obtain ⟨entries', later⟩ := logStep_log laws holds moved
    exact ⟨entries', events, later⟩
  | logEvent eventType time data nonce distinct =>
    obtain ⟨events', later⟩ := logStep_logEvent laws holds moved
    exact ⟨entries, events', later⟩

/-- Before any call nothing is logged. -/
theorem holdsLast_start : HoldsLast library tenantId date {} [] [] where
  audit := ⟨[], rfl, .nil⟩
  demo := ⟨[], rfl, .nil⟩
  lastEntries := List.suffix_rfl
  lastEvents := List.suffix_rfl
  are _ inside := absurd inside List.not_mem_nil

/-- In every run of both logs with any storage errors, what was logged survives exactly when every
call that returns appends to what was logged before. -/
theorem logs_survive_iff (laws : CipherLaws library.encryptor) {calls : List LogEvent}
    {final : LogState}
    (ran : Machine.run (logStep library tenantId date) {} calls = some final) :
    LogsSurvive library tenantId date final ↔
      Machine.Meets (logStep library tenantId date) (Appends tenantId) {} calls := by
  have start : LogsSurvive library tenantId date {} :=
    (logsSurvive_iff holdsLast_start).mpr ⟨rfl, rfl, by simp [HashChain.Linked]⟩
  have kept := Machine.run_iff_meets
    (fun state => ∃ entries events, HoldsLast library tenantId date state entries events)
    (LogsSurvive library tenantId date)
    (fun state event next held moved => by
      obtain ⟨entries, events, holds⟩ := held
      obtain ⟨entries', events', later, survive⟩ := logStep_holds laws holds moved
      exact ⟨⟨entries', events', later⟩, survive⟩) ⟨[], [], holdsLast_start⟩ ran
  exact kept.trans (and_iff_right start)

end Runs

section Sample

/-- A login, logged while the text can be read or not. -/
def loginLogged (readFails : Bool) : LogEvent where
  call := .log (auditCallOn 0).call (auditCallOn 0).time ""
  readFails

/-- What is left when the text cannot be read for the second login. -/
def loggedTwice : LogState :=
  (Machine.run (logStep sampleAudit "acme" auditDay) {} [loginLogged false, loginLogged true]).getD {}

/-- Both calls are a run. -/
theorem run_loggedTwice : Machine.run (logStep sampleAudit "acme" auditDay) {}
    [loginLogged false, loginLogged true] = some loggedTwice := rfl

/-- A read that fails loses the first login. -/
theorem unread_log_lost : Machine.run (logStep sampleAudit "acme" auditDay) {}
      [loginLogged false, loginLogged true] = some loggedTwice ∧
    ¬ LogsSurvive sampleAudit "acme" auditDay loggedTwice := by
  refine ⟨run_loggedTwice, fun survive => ?_⟩
  obtain ⟨middle, first⟩ : ∃ middle, logStep sampleAudit "acme" auditDay {} (loginLogged false) =
      some middle ∧ middle.logged ≠ [] := ⟨_, rfl, List.cons_ne_nil _ _⟩
  obtain ⟨entries, events, holds, -⟩ := logStep_holds sampleEncryptor_laws holdsLast_start first.1
  have second : logStep sampleAudit "acme" auditDay middle (loginLogged true) =
      some loggedTwice := by
    have ran := run_loggedTwice
    rw [Machine.run_cons, first.1, Option.bind_some, Machine.run_singleton] at ran
    exact ran
  obtain ⟨-, -, -, loses⟩ := logStep_holds sampleEncryptor_laws holds second
  have appends := (loses.mp survive).2
  unfold Appends loginLogged at appends
  exact first.2 ((appends rfl).1 rfl)

/-- The rule for those two logins. -/
theorem logs_survive_iff_unread : LogsSurvive sampleAudit "acme" auditDay loggedTwice ↔
    Machine.Meets (logStep sampleAudit "acme" auditDay) (Appends "acme") {}
      [loginLogged false, loginLogged true] :=
  logs_survive_iff sampleEncryptor_laws run_loggedTwice

end Sample

end VelaFlow.Security
