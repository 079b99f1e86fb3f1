import VelaFlow.Pipeline.Records

/-!
# The texts before personal data is masked

Masking is the last thing the silver layer does to a text. So the layer gives what it would give
without the masking, with the texts masked: it keeps the same records, or fails the same way.
-/
namespace VelaFlow.Pipeline

section Mapped

variable {α β : Type}

/-- What a sequence returns is changed by its second part. -/
theorem map_bind_eq {γ : Type} (first : Except PyException γ) (rest : γ → Except PyException α)
    (change : α → β) : (first >>= rest).map change = first >>= fun value =>
      (rest value).map change := by
  cases first with
  | error exception => rfl
  | ok value => rfl

/-- What is built and then changed is changed after everything is built. -/
theorem mapM_map_eq (build : Dict → Except PyException α) (change : α → β) (raws : List Dict) :
    raws.mapM (fun raw => (build raw).map change) = (raws.mapM build).map (List.map change) := by
  induction raws with
  | nil => rfl
  | cons raw rest ih =>
    rw [List.mapM_cons, List.mapM_cons, ih]
    cases build raw with
    | error exception => rfl
    | ok one =>
      cases rest.mapM build with
      | error exception => rfl
      | ok more => rfl

/-- The loop over raw records changes what it collects after it has collected it. -/
theorem collect_map_eq (required : List String) (identity : Dict → String)
    (build : Dict → Except PyException α) (change : α → β) (items : List Json)
    (seen : List String) :
    collect required identity (fun raw => (build raw).map change) items seen =
      (collect required identity build items seen).map (List.map change) := by
  induction items generalizing seen with
  | nil => rfl
  | cons raw rest ih =>
    rw [collect, collect]
    cases asDict "keys" raw with
    | error exception => rfl
    | ok record =>
      show (if _ then _ else _) = Except.map _ (if _ then _ else _)
      split
      · split
        · exact ih seen
        · rw [ih]
          cases build record with
          | error exception => rfl
          | ok one =>
            cases collect required identity build rest (identity record :: seen) with
            | error exception => rfl
            | ok more => rfl
      · exact ih seen

end Mapped

namespace SilverLayer

open Planner

/-- The layer without the masking of personal data. -/
def unmasked (layer : SilverLayer) : SilverLayer := { layer with pii := ⟨[]⟩ }

/-- A task with its texts masked. -/
def maskTask (layer : SilverLayer) (task : Task) : Task :=
  { task with
    content := layer.pii.clean task.content
    description := layer.pii.clean task.description }

/-- An event with its summary masked. -/
def maskEvent (layer : SilverLayer) (event : CalendarEvent) : CalendarEvent :=
  { event with summary := layer.pii.clean event.summary }

/-- An alert with its subject masked. -/
def maskEmail (layer : SilverLayer) (alert : EmailAlert) : EmailAlert :=
  { alert with subject := layer.pii.clean alert.subject }

variable {layer : SilverLayer}

/-- Without patterns a text stays as it is. -/
theorem clean_unmasked (text : String) : layer.unmasked.pii.clean text = text := rfl

/-- The masking is what the layer does to the texts of a task last. -/
theorem buildTask_eq (projects sections : NameMap) (raw : Dict) :
    layer.buildTask projects sections raw =
      (layer.unmasked.buildTask projects sections raw).map layer.maskTask := by
  unfold buildTask
  cases lookupName projects (raw.getD "project_id" (.str "")) with
  | error exception => rfl
  | ok projectName =>
    cases lookupName sections (raw.getD "section_id" (.str "")) with
    | error exception => rfl
    | ok sectionName =>
      have due : layer.unmasked.parseDue (raw.getD "due" .null) =
        layer.parseDue (raw.getD "due" .null) := rfl
      have duration : layer.unmasked.parseDuration (raw.getD "duration" .null) =
        layer.parseDuration (raw.getD "duration" .null) := rfl
      rw [due, duration]
      cases layer.parseDue (raw.getD "due" .null) with
      | error exception => rfl
      | ok dates =>
        cases layer.parseDuration (raw.getD "duration" .null) with
        | error exception => rfl
        | ok minutes => rfl

/-- And to the summary of an event. -/
theorem buildEvent_eq (raw : Dict) :
    layer.buildEvent raw = (layer.unmasked.buildEvent raw).map layer.maskEvent := by
  unfold buildEvent
  have start : layer.unmasked.parseDatetime (raw.getD "start" .null) =
    layer.parseDatetime (raw.getD "start" .null) := rfl
  have finish : layer.unmasked.parseDatetime (raw.getD "end" .null) =
    layer.parseDatetime (raw.getD "end" .null) := rfl
  rw [start, finish]
  cases layer.parseDatetime (raw.getD "start" .null) with
  | error exception => rfl
  | ok first =>
    cases layer.parseDatetime (raw.getD "end" .null) with
    | error exception => rfl
    | ok last => rfl

/-- And to the subject of an alert. -/
theorem buildEmail_eq (raw : Dict) :
    layer.buildEmail raw = (layer.unmasked.buildEmail raw).map layer.maskEmail := by
  unfold buildEmail
  have sent : layer.unmasked.parseDatetime (raw.getD "sent_at" .null) =
    layer.parseDatetime (raw.getD "sent_at" .null) := rfl
  rw [sent]
  cases layer.parseDatetime (raw.getD "sent_at" .null) with
  | error exception => rfl
  | ok time => rfl

/-- The tasks of a batch are those without masking, masked. -/
theorem cleanTasks_eq (bronze : Dict) :
    layer.cleanTasks bronze = (layer.unmasked.cleanTasks bronze).map (List.map layer.maskTask) := by
  have each : ∀ projects sections (valid : List Dict),
      valid.mapM (layer.buildTask projects sections) =
        (valid.mapM (layer.unmasked.buildTask projects sections)).map
          (List.map layer.maskTask) := by
    intro projects sections valid
    rw [funext (buildTask_eq projects sections)]
    exact mapM_map_eq _ _ _
  unfold cleanTasks
  simp only [each, map_bind_eq]
  rfl

/-- So are its events. -/
theorem cleanEvents_eq (bronze : Dict) :
    layer.cleanEvents bronze =
      (layer.unmasked.cleanEvents bronze).map (List.map layer.maskEvent) := by
  have each : ∀ items, collect ["summary"] layer.eventDedupKey layer.buildEvent items [] =
      (collect ["summary"] layer.eventDedupKey layer.unmasked.buildEvent items []).map
        (List.map layer.maskEvent) := by
    intro items
    rw [funext (@buildEvent_eq layer)]
    exact collect_map_eq _ _ _ _ _ _
  unfold cleanEvents
  simp only [each, map_bind_eq]
  rfl

/-- So are its alerts. -/
theorem cleanEmails_eq (bronze : Dict) :
    layer.cleanEmails bronze =
      (layer.unmasked.cleanEmails bronze).map (List.map layer.maskEmail) := by
  have each : ∀ items,
      collect ["subject", "sender"] layer.emailDedupKey layer.buildEmail items [] =
        (collect ["subject", "sender"] layer.emailDedupKey layer.unmasked.buildEmail items []).map
          (List.map layer.maskEmail) := by
    intro items
    rw [funext (@buildEmail_eq layer)]
    exact collect_map_eq _ _ _ _ _ _
  unfold cleanEmails
  simp only [each, map_bind_eq]
  rfl

end SilverLayer

end VelaFlow.Pipeline
