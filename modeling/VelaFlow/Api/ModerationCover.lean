import VelaFlow.Api.Admission
import VelaFlow.Pipeline.Masking
import VelaFlow.Pipeline.Scheduler
import VelaFlow.Queue.TenantDigest

/-!
# What the moderation of the pipeline route covers

The route looks at the fields of a body that are texts, and at no more of a text than is scanned.
The silver layer makes a text of whatever a field holds, and keeps summaries and subjects in full.
So what it stores is covered where the field is a text, and for summaries and subjects one that is
scanned to its end.
-/
namespace VelaFlow.Api

open Pipeline Planner Process Queue Security

namespace PipelineService

variable (service : PipelineService) (layer : SilverLayer) (readings : Readings)
  (tenantId : String) (body : PipelineBody)

/-- What is scanned of a text that the route hands to `check_content`, which allows it. -/
def Scanned (scanned : String) : Prop :=
  ∃ items ∈ body.moderated, ∃ item ∈ items, ∃ field ∈ moderatedFields, ∃ value,
    Dict.get? item field = some (.str value) ∧
      (service.moderation.checkContent value).isAllowed = true ∧
      scanned = Pipeline.cut moderationScanLength value

/-- A text is a prefix of one that was scanned. -/
def Covered (text : String) : Prop :=
  ∃ scanned, service.Scanned body scanned ∧ text.toList <+: scanned.toList

/-- Every text that the silver layer keeps of a body, before it is masked, is covered. -/
structure ModerationCovers : Prop where
  /-- The contents and descriptions of the tasks. -/
  tasks : ∀ tasks, layer.unmasked.cleanTasks (batchPayload readings tenantId body.inputs .todoist) =
    .ok tasks → ∀ task ∈ tasks,
      service.Covered body task.content ∧ service.Covered body task.description
  /-- The summaries of the events. -/
  events : ∀ events, layer.unmasked.cleanEvents
      (batchPayload readings tenantId body.inputs .calendar) = .ok events →
    ∀ event ∈ events, service.Covered body event.summary
  /-- The subjects of the emails. -/
  emails : ∀ alerts, layer.unmasked.cleanEmails
      (batchPayload readings tenantId body.inputs .gmail) = .ok alerts →
    ∀ alert ∈ alerts, service.Covered body alert.subject

/-- A field whose text is cut: it holds a text, or what is made of it begins one that was
scanned. -/
def CutCovered (length : Nat) : Json → Prop
  | .str _ => True
  | value => service.Covered body (Pipeline.cut length (layer.text value))

/-- A field whose text is kept in full: it holds a text that is scanned to its end, or what is made
of it begins one that was. -/
def WholeCovered : Json → Prop
  | .str text => text.toList.length ≤ moderationScanLength
  | value => service.Covered body (layer.text value)

/-- The fields of the records that are kept of a body are such. -/
structure FieldsCovered : Prop where
  /-- Of the tasks, when they can be cleaned. -/
  tasks : ∀ tasks, layer.unmasked.cleanTasks (batchPayload readings tenantId body.inputs .todoist) =
    .ok tasks → ∀ raw ∈ keptTasks layer (body.todoistTasks.map .obj),
      service.CutCovered layer body 2000 (Dict.getD raw "content" (.str "")) ∧
        service.CutCovered layer body 5000 (Dict.getD raw "description" (.str ""))
  /-- Of the events. -/
  events : ∀ events, layer.unmasked.cleanEvents
      (batchPayload readings tenantId body.inputs .calendar) = .ok events →
    ∀ raw ∈ keptEvents layer (body.calendarEvents.map .obj),
      service.WholeCovered layer body (Dict.getD raw "summary" (.str ""))
  /-- Of the emails. -/
  emails : ∀ alerts, layer.unmasked.cleanEmails
      (batchPayload readings tenantId body.inputs .gmail) = .ok alerts →
    ∀ raw ∈ keptEmails layer (body.emails.map .obj),
      service.WholeCovered layer body (Dict.getD raw "subject" (.str ""))

variable {service layer readings tenantId body}

/-- A moderation that passes allows every text that it looks at. -/
theorem allowed_of_checkModeration {lists : List (List Dict)}
    (passed : service.checkModeration lists = .ok ()) {items : List Dict} (among : items ∈ lists)
    {item : Dict} (inside : item ∈ items) {field : String} (looked : field ∈ moderatedFields)
    {value : String} (holds : item.get? field = some (.str value)) :
    (service.moderation.checkContent value).isAllowed = true := by
  induction lists with
  | nil => cases among
  | cons first rest ih =>
    rw [checkModeration] at passed
    by_cases refused : (service.moderation.checkBulkContent first moderatedFields).isAllowed = false
    · simp only [refused, if_true] at passed
      cases passed
    · simp only [refused] at passed
      cases List.mem_cons.mp among with
      | inr later => exact ih passed later
      | inl same =>
        subst same
        have clear := (service.moderation.checkBulkContent_isAllowed_iff.mp
          (Bool.not_eq_false _ ▸ refused)) item inside field looked
        unfold Moderation.blocked? at clear
        rw [holds] at clear
        by_contra blocked
        simp only [blocked] at clear
        cases clear

/-- A field of an item of a body that passed is scanned, when it holds a text. -/
theorem scanned_of_text (passed : service.checkModeration body.moderated = .ok ())
    {items : List Dict} (among : items ∈ body.moderated) {item : Dict} (inside : item ∈ items)
    {field : String} (looked : field ∈ moderatedFields) {value : String}
    (holds : item.get? field = some (.str value)) :
    service.Scanned body (Pipeline.cut moderationScanLength value) :=
  ⟨items, among, item, inside, field, looked, value, holds,
    allowed_of_checkModeration passed among inside looked holds, rfl⟩

/-- A scanned text is no longer than what is scanned of one. -/
theorem length_scanned {scanned : String} (is : service.Scanned body scanned) :
    scanned.toList.length ≤ moderationScanLength := by
  obtain ⟨-, -, -, -, -, -, value, -, -, rfl⟩ := is
  unfold Pipeline.cut
  rw [String.toList_ofList]
  exact List.length_take_le _ _

/-- What is cut of a scanned text begins it. -/
theorem covered_cut {value : String}
    (scanned : service.Scanned body (Pipeline.cut moderationScanLength value)) {length : Nat}
    (short : length ≤ moderationScanLength) :
    service.Covered body (Pipeline.cut length value) := by
  refine ⟨_, scanned, ?_⟩
  unfold Pipeline.cut
  rw [String.toList_ofList, String.toList_ofList]
  exact List.take_prefix_take_left short

/-- The text that is cut of a field is covered exactly when the field is. -/
theorem covered_cut_iff (passed : service.checkModeration body.moderated = .ok ())
    {items : List Dict} (among : items ∈ body.moderated) {item : Dict} (inside : item ∈ items)
    {field : String} (looked : field ∈ moderatedFields) {length : Nat}
    (short : length ≤ moderationScanLength)
    (some : (item.get? field).isSome = true ∨ ∃ scanned, service.Scanned body scanned) :
    service.Covered body (Pipeline.cut length (layer.text (Dict.getD item field (.str "")))) ↔
      service.CutCovered layer body length (Dict.getD item field (.str "")) := by
  unfold Dict.getD
  cases holds : item.get? field with
  | none =>
    rw [holds] at some
    obtain ⟨scanned, is⟩ := some.resolve_left (by decide)
    refine iff_of_true ⟨scanned, is, ?_⟩ trivial
    have empty : (Pipeline.cut length (layer.text (.str ""))).toList = [] := by
      show (Pipeline.cut length "").toList = []
      simp [Pipeline.cut]
    rw [Option.getD_none, empty]
    exact List.nil_prefix
  | some value =>
    rw [Option.getD_some]
    cases value with
    | str text =>
      exact iff_of_true (covered_cut (scanned_of_text passed among inside looked holds) short)
        trivial
    | _ => exact Iff.rfl

/-- The text of a field that is kept in full is covered exactly when the field is. -/
theorem covered_iff (passed : service.checkModeration body.moderated = .ok ())
    {items : List Dict} (among : items ∈ body.moderated) {item : Dict} (inside : item ∈ items)
    {field : String} (looked : field ∈ moderatedFields) (some : (item.get? field).isSome = true) :
    service.Covered body (layer.text (Dict.getD item field (.str ""))) ↔
      service.WholeCovered layer body (Dict.getD item field (.str "")) := by
  unfold Dict.getD
  cases holds : item.get? field with
  | none =>
    rw [holds] at some
    cases some
  | some value =>
    rw [Option.getD_some]
    cases value with
    | str text =>
      show service.Covered body text ↔ text.toList.length ≤ moderationScanLength
      constructor
      · rintro ⟨scanned, is, begins⟩
        exact begins.length_le.trans (length_scanned is)
      · intro short
        refine ⟨_, scanned_of_text passed among inside looked holds, ?_⟩
        unfold Pipeline.cut
        rw [String.toList_ofList, List.take_of_length_le short]
    | _ => exact Iff.rfl

/-- What is kept of a list of items is of the list and has the fields. -/
theorem mem_of_kept {identity : Dict → String} {required : List String} {items : List Dict}
    {raw : Dict} (kept : raw ∈ firstBy identity (validRecords required (items.map .obj)) []) :
    raw ∈ items ∧ hasFields required raw = true := by
  obtain ⟨inside, fields⟩ := mem_validRecords (mem_of_mem_firstBy identity kept)
  obtain ⟨item, among, same⟩ := List.mem_map.mp inside
  cases same
  exact ⟨among, fields⟩

/-- Whether the texts of the tasks are covered depends on their fields. -/
theorem tasks_covered_iff (passed : service.checkModeration body.moderated = .ok ())
    {tasks : List Task} (cleaned : layer.unmasked.cleanTasks
      (batchPayload readings tenantId body.inputs .todoist) = .ok tasks) :
    (∀ task ∈ tasks, service.Covered body task.content ∧ service.Covered body task.description) ↔
      ∀ raw ∈ keptTasks layer (body.todoistTasks.map .obj),
        service.CutCovered layer body 2000 (Dict.getD raw "content" (.str "")) ∧
          service.CutCovered layer body 5000 (Dict.getD raw "description" (.str "")) := by
  obtain ⟨_, projects, _, sections, items, -, -, -, -, areItems, -, built⟩ :=
    cleanTasks_ok_iff.mp cleaned
  obtain rfl : body.todoistTasks.map .obj = items := Except.ok.inj areItems
  refine forall_mapM_iff (fun raw kept task isTask => ?_) built
  obtain ⟨inside, fields⟩ := mem_of_kept kept
  have content : (Dict.get? raw "content").isSome = true :=
    List.all_eq_true.mp fields "content" (by decide)
  have among : body.todoistTasks ∈ body.moderated := List.mem_cons_self
  obtain ⟨isContent, isDescription⟩ := texts_buildTask isTask
  rw [isContent, isDescription]
  have first := @covered_cut_iff service layer body passed _ among raw inside "content" (by decide)
    2000 (by decide) (Or.inl content)
  constructor
  · rintro ⟨one, other⟩
    have some : ∃ scanned, service.Scanned body scanned := ⟨one.choose, one.choose_spec.1⟩
    exact ⟨first.mp one, (covered_cut_iff passed among inside (by decide) (by decide)
      (Or.inr some)).mp other⟩
  · rintro ⟨one, other⟩
    have covered := first.mpr one
    have some : ∃ scanned, service.Scanned body scanned :=
      ⟨covered.choose, covered.choose_spec.1⟩
    exact ⟨covered, (covered_cut_iff passed among inside (by decide) (by decide)
      (Or.inr some)).mpr other⟩

/-- So do the summaries of the events. -/
theorem events_covered_iff (passed : service.checkModeration body.moderated = .ok ())
    {events : List CalendarEvent} (cleaned : layer.unmasked.cleanEvents
      (batchPayload readings tenantId body.inputs .calendar) = .ok events) :
    (∀ event ∈ events, service.Covered body event.summary) ↔
      ∀ raw ∈ keptEvents layer (body.calendarEvents.map .obj),
        service.WholeCovered layer body (Dict.getD raw "summary" (.str "")) := by
  obtain ⟨items, areItems, -, built⟩ := cleanEvents_ok_iff.mp cleaned
  obtain rfl : body.calendarEvents.map .obj = items := Except.ok.inj areItems
  refine forall_mapM_iff (fun raw kept event isEvent => ?_) built
  obtain ⟨inside, fields⟩ := mem_of_kept kept
  have summary : (Dict.get? raw "summary").isSome = true :=
    List.all_eq_true.mp fields "summary" (by decide)
  rw [summary_buildEvent isEvent]
  exact covered_iff passed (List.mem_cons_of_mem _ List.mem_cons_self) inside (by decide) summary

/-- And the subjects of the emails. -/
theorem emails_covered_iff (passed : service.checkModeration body.moderated = .ok ())
    {alerts : List EmailAlert} (cleaned : layer.unmasked.cleanEmails
      (batchPayload readings tenantId body.inputs .gmail) = .ok alerts) :
    (∀ alert ∈ alerts, service.Covered body alert.subject) ↔
      ∀ raw ∈ keptEmails layer (body.emails.map .obj),
        service.WholeCovered layer body (Dict.getD raw "subject" (.str "")) := by
  obtain ⟨items, areItems, -, built⟩ := cleanEmails_ok_iff.mp cleaned
  obtain rfl : body.emails.map .obj = items := Except.ok.inj areItems
  refine forall_mapM_iff (fun raw kept alert isAlert => ?_) built
  obtain ⟨inside, fields⟩ := mem_of_kept kept
  have subject : (Dict.get? raw "subject").isSome = true :=
    List.all_eq_true.mp fields "subject" (by decide)
  rw [subject_buildEmail isAlert]
  exact covered_iff passed (List.mem_cons_of_mem _ (List.mem_cons_of_mem _ List.mem_cons_self))
    inside (by decide) subject

/-- A body that is let through to its execution has passed the moderation. -/
theorem passed_of_admitRun {claims : TokenClaims} {counts after : RunCounts} {today : String}
    {answers : Answers} {world : World} {tenant : Tenants.Tenant}
    (admitted : ((service.admitRun claims counts today body).run answers world).1 =
      .ok (.ok tenant, after)) : service.checkModeration body.moderated = .ok () := by
  have admits : ∀ {found : Tenants.Tenant} {tenantId : String} {charged : RunCounts},
      service.admitBody counts found tenantId today body = (.ok (), charged) →
        service.checkModeration body.moderated = .ok () := by
    intro found tenantId charged admits
    unfold admitBody at admits
    split at admits
    · cases admits
    · obtain ⟨-, -, passed⟩ := bind_ok_iff.mp (Prod.mk.inj admits).1
      exact passed
  unfold admitRun at admitted
  cases permitted : requirePermission service.policy claims .runPipeline with
  | error refusal =>
    rw [permitted] at admitted
    cases admitted
  | ok allowed =>
    cases named : getCurrentTenantId claims with
    | error refusal =>
      rw [permitted, named] at admitted
      cases admitted
    | ok tenantId =>
      rw [permitted, named] at admitted
      dsimp only at admitted
      rw [run_bind, run_getTenant] at admitted
      cases stored : storedTenant service.manager (answers.clock .record) world tenantId with
      | error exception =>
        rw [stored] at admitted
        cases admitted
      | ok found =>
        rw [stored] at admitted
        cases found with
        | none => cases admitted
        | some found =>
          dsimp only at admitted
          cases admits' : service.admitBody counts found tenantId today body with
          | mk reply charged =>
            rw [admits'] at admitted
            cases reply with
            | error refusal => cases admitted
            | ok done => exact admits admits'

/-- Of a body that is let through to its execution, every text that the silver layer keeps is
covered exactly when the fields of the records that it keeps are. -/
theorem moderation_covers_iff {claims : TokenClaims} {counts after : RunCounts} {today : String}
    {answers : Answers} {world : World} {tenant : Tenants.Tenant}
    (admitted : ((service.admitRun claims counts today body).run answers world).1 =
      .ok (.ok tenant, after)) (layer : SilverLayer) (readings : Readings) :
    service.ModerationCovers layer readings tenant.tenantId body ↔
      service.FieldsCovered layer readings tenant.tenantId body := by
  have passed := passed_of_admitRun admitted
  constructor
  · intro covers
    exact ⟨fun tasks cleaned => (tasks_covered_iff passed cleaned).mp (covers.tasks tasks cleaned),
      fun events cleaned => (events_covered_iff passed cleaned).mp (covers.events events cleaned),
      fun alerts cleaned => (emails_covered_iff passed cleaned).mp (covers.emails alerts cleaned)⟩
  · intro covered
    exact ⟨fun tasks cleaned =>
        (tasks_covered_iff passed cleaned).mpr (covered.tasks tasks cleaned),
      fun events cleaned => (events_covered_iff passed cleaned).mpr (covered.events events cleaned),
      fun alerts cleaned => (emails_covered_iff passed cleaned).mpr (covered.emails alerts cleaned)⟩

end PipelineService

section Sample

/-- A pipeline route whose moderation finds one text. -/
def moderatedPipelines : PipelineService where
  manager := sampleWorker.tenantMgr
  moderation := ⟨[("drugs_trafficking", fun text => decide (text = "sell cocaine"))]⟩
  str _ := ""

/-- A silver layer that makes a text of a list. -/
def listLayer : SilverLayer := ⟨{ plainLibrary with repr _ := "['sell cocaine']" }, ⟨[]⟩⟩

/-- A task whose content is a list. -/
def listTask : Dict := [("id", .str "1"), ("content", .arr [.str "sell cocaine"])]

/-- One task is within the limits of a body. -/
theorem listTask_limits : [listTask].length ≤ 10000 ∧ ([] : List Dict).length ≤ 1000 ∧
    ([] : List Dict).length ≤ 1000 ∧ ([] : List Dict).length ≤ 10000 ∧
    ([] : List Dict).length ≤ 5000 := by
  decide

/-- A body with that task. -/
def listBody : PipelineBody := { todoistTasks := [listTask], limits := listTask_limits }

/-- No run was counted yet. -/
def noRuns : RunCounts := fun _ => ("", 0)

/-- The body is let through. -/
theorem listBody_admitted :
    ((moderatedPipelines.admitRun Deployment.sampleCall.claims noRuns "2025-01-01" listBody).run
      (sampleAnswers dayOne) (storedWorld sampleTenant)).1 =
        .ok (.ok sampleTenant, Function.update noRuns "tn_a" ("2025-01-01", 1)) := by
  have permitted : requirePermission moderatedPipelines.policy Deployment.sampleCall.claims
      .runPipeline = .ok () := rfl
  have named : getCurrentTenantId Deployment.sampleCall.claims = .ok "tn_a" := rfl
  have stored : storedTenant moderatedPipelines.manager ((sampleAnswers dayOne).clock .record)
      (storedWorld sampleTenant) "tn_a" = .ok (some sampleTenant) :=
    storedTenant_storedWorld sampleTenant rfl rfl dayOne
  have admits : moderatedPipelines.admitBody noRuns sampleTenant "tn_a" "2025-01-01" listBody =
      (.ok (), Function.update noRuns "tn_a" ("2025-01-01", 1)) := rfl
  unfold PipelineService.admitRun
  rw [permitted, named]
  dsimp only
  rw [run_bind, run_getTenant, stored]
  dsimp only
  rw [admits]
  rfl

/-- The list of the task is stored as a text that was not scanned. -/
theorem listBody_not_covered :
    ((moderatedPipelines.admitRun Deployment.sampleCall.claims noRuns "2025-01-01" listBody).run
        (sampleAnswers dayOne) (storedWorld sampleTenant)).1 =
          .ok (.ok sampleTenant, Function.update noRuns "tn_a" ("2025-01-01", 1)) ∧
      ¬ moderatedPipelines.ModerationCovers listLayer noonReadings sampleTenant.tenantId
        listBody := by
  refine ⟨listBody_admitted, fun covers => ?_⟩
  obtain ⟨task, cleaned⟩ : ∃ task, listLayer.unmasked.cleanTasks
      (batchPayload noonReadings sampleTenant.tenantId listBody.inputs .todoist) = .ok [task] :=
    ⟨_, rfl⟩
  obtain ⟨text, scanned, -⟩ := (covers.tasks _ cleaned task List.mem_cons_self).1
  obtain ⟨items, among, item, inside, field, looked, value, holds, -⟩ := scanned
  have listed : item = listTask := by
    have lists : listBody.moderated = [[listTask], [], []] := rfl
    rw [lists] at among
    simp only [List.mem_cons, List.not_mem_nil, or_false] at among
    rcases among with rfl | rfl | rfl
    · exact List.mem_singleton.mp inside
    · cases inside
    · cases inside
  subst listed
  simp only [moderatedFields, List.mem_cons, List.not_mem_nil, or_false] at looked
  rcases looked with rfl | rfl | rfl | rfl | rfl
  all_goals
    simp [listTask] at holds

/-- The rule for that body. -/
theorem moderation_covers_iff_listBody :
    moderatedPipelines.ModerationCovers listLayer noonReadings sampleTenant.tenantId listBody ↔
      moderatedPipelines.FieldsCovered listLayer noonReadings sampleTenant.tenantId listBody :=
  PipelineService.moderation_covers_iff listBody_admitted listLayer noonReadings

end Sample

end VelaFlow.Api
