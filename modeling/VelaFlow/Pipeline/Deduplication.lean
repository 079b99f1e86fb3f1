import VelaFlow.Pipeline.RunHistory
import VelaFlow.Pipeline.Tolerance

/-!
# What the silver layer keeps of repeated records

Of tasks the layer keeps the first of each identifier. Of events and emails it keeps the first of
each key, a hash of three texts joined by bars. A bar in one of the texts can make two keys one, so
the firsts of the three texts are kept exactly when no two of them are joined to the same text.
-/
namespace VelaFlow.Pipeline

open Planner Process Storage

/-- Three texts that identify a record. -/
abbrev Triple := String × String × String

/-- What `_event_dedup_key` and `_email_dedup_key` hash. -/
def joined (texts : Triple) : String := texts.1 ++ "|" ++ texts.2.1 ++ "|" ++ texts.2.2

namespace SilverLayer

variable (layer : SilverLayer)

/-- The texts of three fields. -/
def triple (first second third : String) (raw : Dict) : Triple :=
  (layer.text (raw.getD first (.str "")), layer.text (raw.getD second (.str "")),
    layer.text (raw.getD third (.str "")))

/-- The texts that identify an event. -/
def eventTriple : Dict → Triple := layer.triple "summary" "start" "end"

/-- The texts that identify an email. -/
def emailTriple : Dict → Triple := layer.triple "subject" "sender" "sent_at"

/-- The first sixteen digits of the hash of three texts. -/
def tripleKey (texts : Triple) : String := cut 16 (layer.library.sha256 (joined texts))

/-- A key is one of the three texts. -/
theorem eventDedupKey_eq : layer.eventDedupKey = layer.tripleKey ∘ layer.eventTriple := rfl

/-- A key is one of the three texts. -/
theorem emailDedupKey_eq : layer.emailDedupKey = layer.tripleKey ∘ layer.emailTriple := rfl

end SilverLayer

/-- A raw event that can be built. -/
def EventBuildable (raw : Dict) : Prop :=
  IsText (raw.getD "start" .null) ∧ IsText (raw.getD "end" .null)

/-- A raw email that can be built. -/
def EmailBuildable (raw : Dict) : Prop := IsText (raw.getD "sent_at" .null)

section Building

variable {layer : SilverLayer} {raw : Dict}

/-- Which raw events are built. -/
theorem buildEvent_ok (buildable : EventBuildable raw) : ∃ event, layer.buildEvent raw = .ok event := by
  obtain ⟨start, isStart⟩ := (@parseDatetime_ok_iff layer _).mpr buildable.1
  obtain ⟨finish, isFinish⟩ := (@parseDatetime_ok_iff layer _).mpr buildable.2
  exact ⟨_, bind_ok_iff.mpr ⟨start, isStart, bind_ok_iff.mpr ⟨finish, isFinish, rfl⟩⟩⟩

/-- Which raw emails are built. -/
theorem buildEmail_ok (buildable : EmailBuildable raw) : ∃ email, layer.buildEmail raw = .ok email := by
  obtain ⟨sentAt, isSent⟩ := (@parseDatetime_ok_iff layer _).mpr buildable
  exact ⟨_, bind_ok_iff.mpr ⟨sentAt, isSent, rfl⟩⟩

end Building

/-- A batch of raw events. -/
def eventBatch (events : List Dict) : Dict := [("data", .obj [("events", .arr (events.map .obj))])]

/-- A batch of raw emails. -/
def emailBatch (emails : List Dict) : Dict := [("data", .obj [("emails", .arr (emails.map .obj))])]

/-- A method returns what is built of the first record of each identity, and the document it leaves
holds the same records and their number. -/
def Dedups {α κ : Type} (process : Staged (List α)) (start : Staging) (documentKey : String)
    (toDict : α → Dict) (build : Dict → Except PyException α) (identity : Dict → κ)
    (records : List Dict) : Prop :=
  ∃ made left document kept, process.on start = (.ok made, left) ∧
    KeepsFirsts identity records kept ∧ kept.mapM build = .ok made ∧
    left.storage.readJson documentKey = .ok (some document) ∧
    document.get? "record_count" = some (.int made.length) ∧
    document.get? "records" = some (.arr (made.map fun item => .obj (toDict item)))

section Methods

variable {α : Type} {tenantId name source : String} {toDict : α → Dict} {time : DateTime}
  {start : Staging}

/-- The key of a document of the silver layer resolves. -/
theorem resolve_silver {directory file : String} (named : IsPart tenantId.toList)
    (parts : IsPart directory.toList ∧ IsPart file.toList) :
    ∃ path, resolve (layerKey .silver tenantId (directory ++ "/" ++ file)) = .ok path := by
  have are : ∀ part ∈ ["silver".toList, tenantId.toList, directory.toList, file.toList],
      IsPart part := by
    simp only [List.forall_mem_cons, List.not_mem_nil, false_implies, implies_true, and_true]
    exact ⟨by decide, named, parts.1, parts.2⟩
  have silver : keyParts "silver" = ["silver".toList] := keyParts_of_isPart (by decide)
  refine ⟨⟨_, are⟩, resolve_eq_ok ?_⟩
  rw [layerKey, keyParts_append_slash, keyParts_append_slash, keyParts_append_slash,
    keyParts_of_isPart named, keyParts_of_isPart parts.1, keyParts_of_isPart parts.2]
  exact congrArg (· ++ [tenantId.toList] ++ ([directory.toList] ++ [file.toList])) silver

/-- A method that saves what a computation returned. -/
theorem on_saving {outcome : Except PyException (List α)} {made : List α} {path : Path}
    (returned : outcome = .ok made) (resolved : resolve (layerKey .silver tenantId name) = .ok path) :
    ∃ left document, (do
        let items ← returning outcome
        save .silver tenantId name (silverDocument tenantId source time (items.map toDict))
        pure items : Staged (List α)).on start = (.ok made, left) ∧
      left.storage.readJson (layerKey .silver tenantId name) = .ok (some document) ∧
      document.get? "record_count" = some (.int made.length) ∧
      document.get? "records" = some (.arr (made.map fun item => .obj (toDict item))) := by
  let document := silverDocument tenantId source time (made.map toDict)
  refine ⟨Staged.saved start path .silver name document, document, ?_, ?_, ?_, ?_⟩
  · rw [returned]
    refine Staged.on_bind_ok_iff.mpr ⟨made, start, rfl, ?_⟩
    exact Staged.on_bind_ok_iff.mpr ⟨(), _, Staged.on_save resolved, rfl⟩
  · have there := start.storage.lookup_put_self path document
    unfold LocalStorage.readJson
    rw [resolved]
    exact congrArg Except.ok there
  · have many : (made.map toDict).length = made.length := List.length_map toDict
    rw [← many]
    rfl
  · have same : (made.map toDict).map Json.obj = made.map fun item => .obj (toDict item) :=
      List.map_map
    rw [← same]
    rfl

/-- A method that keeps the first record of each image of an identity keeps the first of each
identity exactly when no two identities of the records have one image. -/
theorem dedups_iff {κ ι : Type} [DecidableEq κ] [DecidableEq ι] {process : Staged (List α)}
    {documentKey : String} {build : Dict → Except PyException α} {identity : Dict → κ}
    {image : κ → ι} {records : List Dict} {made : List α}
    (built : (firstBy (image ∘ identity) records []).mapM build = .ok made)
    (saves : ∃ left document, process.on start = (.ok made, left) ∧
      left.storage.readJson documentKey = .ok (some document) ∧
      document.get? "record_count" = some (.int made.length) ∧
      document.get? "records" = some (.arr (made.map fun item => .obj (toDict item)))) :
    Dedups process start documentKey toDict build identity records ↔
      ∀ one ∈ records.map identity, ∀ other ∈ records.map identity,
        image one = image other → one = other := by
  obtain ⟨left, document, done, written⟩ := saves
  constructor
  · rintro ⟨_, _, _, kept, again, firsts, mapped, -⟩
    rw [done] at again
    cases again
    have many : (firstBy (image ∘ identity) records []).length = kept.length :=
      (length_mapM built).symm.trans (length_mapM mapped)
    exact apart_of_length_eq (many.trans firsts.length_eq)
  · intro apart
    exact ⟨made, left, document, _, done, keepsFirsts_comp apart, built, written⟩

end Methods

section Sources

variable {layer : SilverLayer} {readings : Readings} {tenantId : String} {start : Staging}

/-- A batch of events returns when those that are kept can be built. -/
theorem cleanEvents_batch_iff {events : List Dict} {made : List CalendarEvent} :
    layer.cleanEvents (eventBatch events) = .ok made ↔
      (firstBy layer.eventDedupKey (events.filter (hasFields ["summary"])) []).mapM
        layer.buildEvent = .ok made := by
  have items : rawItems (eventBatch events) "events" = .ok (events.map .obj) := rfl
  rw [cleanEvents_ok_iff, items, ← validRecords_objects]
  simp only [Except.ok.injEq, exists_eq_left', areObjects_map, true_and]
  rfl

/-- A batch of emails returns when those that are kept can be built. -/
theorem cleanEmails_batch_iff {emails : List Dict} {made : List EmailAlert} :
    layer.cleanEmails (emailBatch emails) = .ok made ↔
      (firstBy layer.emailDedupKey (emails.filter (hasFields ["subject", "sender"])) []).mapM
        layer.buildEmail = .ok made := by
  have items : rawItems (emailBatch emails) "emails" = .ok (emails.map .obj) := rfl
  rw [cleanEmails_ok_iff, items, ← validRecords_objects]
  simp only [Except.ok.injEq, exists_eq_left', areObjects_map, true_and]
  rfl

end Sources

/-- The valid records of the sources hold what the layer reads. -/
structure WellFormed (layer : SilverLayer) (tasks projects sections events emails : List Dict) :
    Prop where
  /-- Projects have keys. -/
  projectKeys : ∀ record ∈ projects, Named record
  /-- Sections have keys. -/
  sectionKeys : ∀ record ∈ sections, Named record
  /-- Tasks can be built. -/
  taskFields : ∀ record ∈ tasks, hasFields ["id", "content"] record = true → Buildable layer record
  /-- Events can be built. -/
  eventFields : ∀ record ∈ events, hasFields ["summary"] record = true → EventBuildable record
  /-- Emails can be built. -/
  emailFields : ∀ record ∈ emails, hasFields ["subject", "sender"] record = true →
    EmailBuildable record

/-- The texts that identify the valid events. -/
def eventTriples (layer : SilverLayer) (events : List Dict) : List Triple :=
  (events.filter (hasFields ["summary"])).map layer.eventTriple

/-- The texts that identify the valid emails. -/
def emailTriples (layer : SilverLayer) (emails : List Dict) : List Triple :=
  (emails.filter (hasFields ["subject", "sender"])).map layer.emailTriple

/-- The truncated hash tells joined texts apart. -/
def HashSeparates (layer : SilverLayer) (triples : List Triple) : Prop :=
  ∀ one ∈ triples, ∀ other ∈ triples, layer.tripleKey one = layer.tripleKey other →
    joined one = joined other

/-- No two identities are joined to one text. -/
def Distinguished (triples : List Triple) : Prop :=
  ∀ one ∈ triples, ∀ other ∈ triples, joined one = joined other → one = other

/-- Where the hash tells texts apart, keys are apart as the joined texts are. -/
theorem HashSeparates.apart_iff {layer : SilverLayer} {triples : List Triple}
    (hash : HashSeparates layer triples) :
    (∀ one ∈ triples, ∀ other ∈ triples, layer.tripleKey one = layer.tripleKey other →
      one = other) ↔ Distinguished triples := by
  constructor
  · intro apart one first other second same
    apply apart one first other second
    unfold SilverLayer.tripleKey
    rw [same]
  · intro apart one first other second same
    exact apart one first other second (hash one first other second same)

section Methods

variable {layer : SilverLayer} {readings : Readings} {tenantId : String} {start : Staging}
  {tasks projects sections events emails : List Dict}

/-- What is kept of a list is of it. -/
theorem built_of_valid {α κ : Type} [DecidableEq κ] {build : Dict → Except PyException α}
    {required : List String} {records : List Dict} {key : Dict → κ}
    (each : ∀ record ∈ records, hasFields required record = true → ∃ item, build record = .ok item) :
    ∃ made, (firstBy key (records.filter (hasFields required)) []).mapM build = .ok made := by
  apply mapM_ok_exists_iff.mpr
  intro record inside
  have parts := List.mem_filter.mp (mem_of_mem_firstBy _ inside)
  exact each record parts.1 parts.2

/-- `process_todoist` keeps the first record of each identifier. -/
theorem dedups_processTodoist (named : IsPart tenantId.toList)
    (wellFormed : WellFormed layer tasks projects sections events emails) :
    Dedups (layer.processTodoist readings tenantId (batch tasks projects sections)) start
      (layerKey .silver tenantId "todoist/tasks.json") taskToDict
      (layer.buildTask (namesOf projects) (namesOf sections)) layer.taskId
      (tasks.filter (hasFields ["id", "content"])) := by
  obtain ⟨made, built⟩ := @built_of_valid _ _ _ (layer.buildTask (namesOf projects)
    (namesOf sections)) _ _ (id ∘ layer.taskId)
    fun record inside fields => buildTask_ok_iff.mpr (wellFormed.taskFields record inside fields)
  have returned := cleanTasks_batch_iff.mpr ⟨wellFormed.projectKeys, wellFormed.sectionKeys, built⟩
  obtain ⟨path, resolved⟩ := @resolve_silver tenantId "todoist" "tasks.json" named (by decide)
  exact (dedups_iff built (on_saving returned resolved)).mpr fun _ _ _ _ same => same

/-- `process_calendar` keeps the first record of each three texts exactly when no two of them are
joined to one. -/
theorem dedups_processCalendar_iff (named : IsPart tenantId.toList)
    (wellFormed : WellFormed layer tasks projects sections events emails)
    (hash : HashSeparates layer (eventTriples layer events)) :
    Dedups (layer.processCalendar readings tenantId (eventBatch events)) start
      (layerKey .silver tenantId "calendar/events.json") eventToDict layer.buildEvent
      layer.eventTriple (events.filter (hasFields ["summary"])) ↔
        Distinguished (eventTriples layer events) := by
  obtain ⟨made, built⟩ := @built_of_valid _ _ _ layer.buildEvent _ _ layer.eventDedupKey
    fun record inside fields => buildEvent_ok (wellFormed.eventFields record inside fields)
  have returned := cleanEvents_batch_iff.mpr built
  obtain ⟨path, resolved⟩ := @resolve_silver tenantId "calendar" "events.json" named (by decide)
  rw [layer.eventDedupKey_eq] at built
  exact (dedups_iff built (on_saving returned resolved)).trans hash.apart_iff

/-- `process_gmail` keeps the first record of each three texts exactly when no two of them are
joined to one. -/
theorem dedups_processGmail_iff (named : IsPart tenantId.toList)
    (wellFormed : WellFormed layer tasks projects sections events emails)
    (hash : HashSeparates layer (emailTriples layer emails)) :
    Dedups (layer.processGmail readings tenantId (emailBatch emails)) start
      (layerKey .silver tenantId "gmail/emails.json") emailToDict layer.buildEmail
      layer.emailTriple (emails.filter (hasFields ["subject", "sender"])) ↔
        Distinguished (emailTriples layer emails) := by
  obtain ⟨made, built⟩ := @built_of_valid _ _ _ layer.buildEmail _ _ layer.emailDedupKey
    fun record inside fields => buildEmail_ok (wellFormed.emailFields record inside fields)
  have returned := cleanEmails_batch_iff.mpr built
  obtain ⟨path, resolved⟩ := @resolve_silver tenantId "gmail" "emails.json" named (by decide)
  rw [layer.emailDedupKey_eq] at built
  exact (dedups_iff built (on_saving returned resolved)).trans hash.apart_iff

end Methods

/-- Of well-formed records the layer keeps, returns and persists the first of each identity, exactly
when no two identities of events, and none of emails, are joined to one text. -/
theorem dedups_iff_distinguished (layer : SilverLayer) (readings : Readings) (tenantId : String)
    (start : Staging) (tasks projects sections events emails : List Dict)
    (named : IsPart tenantId.toList)
    (wellFormed : WellFormed layer tasks projects sections events emails)
    (hash : HashSeparates layer (eventTriples layer events) ∧
      HashSeparates layer (emailTriples layer emails)) :
    (Dedups (layer.processTodoist readings tenantId (batch tasks projects sections)) start
        (layerKey .silver tenantId "todoist/tasks.json") taskToDict
        (layer.buildTask (namesOf projects) (namesOf sections)) layer.taskId
        (tasks.filter (hasFields ["id", "content"])) ∧
      Dedups (layer.processCalendar readings tenantId (eventBatch events)) start
        (layerKey .silver tenantId "calendar/events.json") eventToDict layer.buildEvent
        layer.eventTriple (events.filter (hasFields ["summary"])) ∧
      Dedups (layer.processGmail readings tenantId (emailBatch emails)) start
        (layerKey .silver tenantId "gmail/emails.json") emailToDict layer.buildEmail
        layer.emailTriple (emails.filter (hasFields ["subject", "sender"]))) ↔
      Distinguished (eventTriples layer events) ∧ Distinguished (emailTriples layer emails) := by
  have calendar := @dedups_processCalendar_iff layer readings tenantId start tasks projects
    sections events emails named wellFormed hash.1
  have gmail := @dedups_processGmail_iff layer readings tenantId start tasks projects sections
    events emails named wellFormed hash.2
  rw [calendar, gmail]
  exact and_iff_right (dedups_processTodoist named wellFormed)

section Sample

/-- An email of a subject and a sender. -/
def emailOf (subject sender : String) : Dict := [("subject", .str subject), ("sender", .str sender)]

/-- A task, an event and emails are well-formed. -/
theorem wellFormed_emails (first second : String × String) :
    WellFormed idleScheduler.silver [plainTask] [] [] [[("summary", .str "Lunch")]]
      [emailOf first.1 first.2, emailOf second.1 second.2] where
  projectKeys := fun _ nothing => absurd nothing List.not_mem_nil
  sectionKeys := fun _ nothing => absurd nothing List.not_mem_nil
  taskFields := by
    intro record inside fields
    rw [List.mem_singleton.mp inside]
    exact buildable_of_typed _ (by decide)
  eventFields := by
    intro record inside fields
    rw [List.mem_singleton.mp inside]
    exact ⟨Or.inl rfl, Or.inl rfl⟩
  emailFields := by
    intro record inside fields
    rw [List.mem_pair] at inside
    rcases inside with rfl | rfl
    · exact Or.inl rfl
    · exact Or.inl rfl

/-- Two emails of one subject and sender are one alert. -/
theorem dedups_repeated :
    Dedups (idleScheduler.silver.processTodoist (clocksAt .newYear rfl) "tn_a"
        (batch [plainTask] [] [])) ⟨.empty, []⟩
        (layerKey .silver "tn_a" "todoist/tasks.json") taskToDict
        (idleScheduler.silver.buildTask (namesOf []) (namesOf [])) idleScheduler.silver.taskId
        ([plainTask].filter (hasFields ["id", "content"])) ∧
      Dedups (idleScheduler.silver.processCalendar (clocksAt .newYear rfl) "tn_a"
        (eventBatch [[("summary", .str "Lunch")]])) ⟨.empty, []⟩
        (layerKey .silver "tn_a" "calendar/events.json") eventToDict
        idleScheduler.silver.buildEvent idleScheduler.silver.eventTriple
        ([[("summary", .str "Lunch")]].filter (hasFields ["summary"])) ∧
      Dedups (idleScheduler.silver.processGmail (clocksAt .newYear rfl) "tn_a"
        (emailBatch [emailOf "Hi" "Ann", emailOf "Hi" "Ann"])) ⟨.empty, []⟩
        (layerKey .silver "tn_a" "gmail/emails.json") emailToDict
        idleScheduler.silver.buildEmail idleScheduler.silver.emailTriple
        ([emailOf "Hi" "Ann", emailOf "Hi" "Ann"].filter (hasFields ["subject", "sender"])) :=
  (dedups_iff_distinguished idleScheduler.silver (clocksAt .newYear rfl) "tn_a" ⟨.empty, []⟩
    [plainTask] [] [] [[("summary", .str "Lunch")]] [emailOf "Hi" "Ann", emailOf "Hi" "Ann"]
    isPart_tenant (wellFormed_emails ("Hi", "Ann") ("Hi", "Ann"))
    ⟨by unfold HashSeparates; decide +kernel, by unfold HashSeparates; decide +kernel⟩).mpr
    ⟨by unfold Distinguished; decide +kernel, by unfold Distinguished; decide +kernel⟩

/-- Of two emails whose subjects and senders are joined to one text, one is lost. -/
theorem email_lost :
    WellFormed idleScheduler.silver [plainTask] [] [] [[("summary", .str "Lunch")]]
        [emailOf "Hi|Ann" "Bo", emailOf "Hi" "Ann|Bo"] ∧
      HashSeparates idleScheduler.silver (emailTriples idleScheduler.silver
        [emailOf "Hi|Ann" "Bo", emailOf "Hi" "Ann|Bo"]) ∧
      ¬ Dedups (idleScheduler.silver.processGmail (clocksAt .newYear rfl) "tn_a"
        (emailBatch [emailOf "Hi|Ann" "Bo", emailOf "Hi" "Ann|Bo"])) ⟨.empty, []⟩
        (layerKey .silver "tn_a" "gmail/emails.json") emailToDict
        idleScheduler.silver.buildEmail idleScheduler.silver.emailTriple
        ([emailOf "Hi|Ann" "Bo", emailOf "Hi" "Ann|Bo"].filter
          (hasFields ["subject", "sender"])) := by
  have wellFormed := wellFormed_emails ("Hi|Ann", "Bo") ("Hi", "Ann|Bo")
  have hash : HashSeparates idleScheduler.silver (emailTriples idleScheduler.silver
      [emailOf "Hi|Ann" "Bo", emailOf "Hi" "Ann|Bo"]) := by
    unfold HashSeparates
    decide +kernel
  have collide : ¬ Distinguished (emailTriples idleScheduler.silver
      [emailOf "Hi|Ann" "Bo", emailOf "Hi" "Ann|Bo"]) := by
    unfold Distinguished
    decide +kernel
  refine ⟨wellFormed, hash, fun kept => collide ?_⟩
  exact (dedups_processGmail_iff isPart_tenant wellFormed hash).mp kept

end Sample

end VelaFlow.Pipeline
