import VelaFlow.Api.DemoRuns

/-!
# The analytics of a demo

What the calls of a run log of a demo, and what `get_usage_analytics` sums up of it. An event that
cannot be written is lost, and one that is written where the log cannot be read is all that is left
of it; the analytics show what is there.
-/
namespace VelaFlow.Api

open Process Security Storage Tenants

/-- What is logged of an error. -/
def errorEvent (errorType errorDetail : String) (context : Dict) : Dict :=
  [("error_type", .str errorType),
   ("error_detail", .str (String.ofList (errorDetail.toList.take 1000))),
   ("context", .obj context)]

/-- What is to be logged: its type, its data, and what the call of `_log_event` finds. -/
structure LogEntry where
  /-- `event_type`. -/
  type : String
  /-- `data`. -/
  data : Dict
  /-- What the call finds. -/
  stamp : Stamp

/-- The event that is stored of an entry. -/
def LogEntry.event (entry : LogEntry) : Json :=
  demoEvent entry.type entry.stamp.time entry.data

/-- What a demo's log has after an entry: one that cannot be written is not there, and one that is
written where the log cannot be read is alone. -/
def LogEntry.onto (entry : LogEntry) (log : List LogEntry) : List LogEntry :=
  if entry.stamp.writeFails.isSome then log
  else (if entry.stamp.readFails then [] else log) ++ [entry]

namespace DemoEvent

variable {tenantId : String}

/-- What an event logs of a demo. -/
def entry (origin : Tenant) (expires : DateTime) : DemoEvent tenantId → Option LogEntry
  | checkExpiry check =>
    if expires.instant ≤ check.time.instant then
      some ⟨"demo_expired", [("expires_at", .str expires.isoformat)], check.stamp⟩
    else none
  | checkCap usageType currentCount stamp =>
    match demoCap origin usageType with
    | none => none
    | some cap =>
      if cap ≤ currentCount then
        some ⟨"demo_cost_cap_reached", capEvent usageType currentCount cap, stamp⟩
      else none
  | logError errorType errorDetail context stamp _ =>
    some ⟨"error", errorEvent errorType errorDetail context, stamp⟩
  | _ => none

/-- What a demo's log has after an event. -/
def logAfter (origin : Tenant) (expires : DateTime) (log : List LogEntry)
    (event : DemoEvent tenantId) : List LogEntry :=
  (event.entry origin expires).elim log fun entry => entry.onto log

end DemoEvent

section Log

variable {billing : Billing} {library : AuditLibrary} {origin : Tenant} {expires : DateTime}
  {isActive : Bool} {log : List LogEntry} {store : DemoStore}

/-- A demo's log holds the events of entries. -/
def HoldsLog (library : AuditLibrary) (tenantId : String) (log : List LogEntry)
    (store : DemoStore) : Prop :=
  HoldsItems (readEvent library tenantId) (store.texts (demoEventsKey tenantId))
    (log.map LogEntry.event)

/-- A dictionary of one text is held. -/
theorem held_expired (expires : DateTime) :
    (Json.obj [("expires_at", .str expires.isoformat)]).held =
      .obj [("expires_at", .str expires.isoformat)] := by
  apply Json.held_obj_iff.mpr
  refine ⟨by simp [Dict.keys], ?_⟩
  simp only [List.forall_mem_cons]
  exact ⟨rfl, fun _ none => absurd none List.not_mem_nil⟩

/-- What is logged of a cap is held. -/
theorem held_capEvent (usageType : String) (currentCount cap : Int) :
    (Json.obj (capEvent usageType currentCount cap)).held =
      .obj (capEvent usageType currentCount cap) := by
  apply Json.held_obj_iff.mpr
  refine ⟨by simp [Dict.keys, capEvent], ?_⟩
  unfold capEvent
  simp only [List.forall_mem_cons]
  exact ⟨rfl, rfl, rfl, fun _ none => absurd none List.not_mem_nil⟩

/-- What is logged of an error is held when its context is. -/
theorem held_errorEvent (errorType errorDetail : String) {context : Dict}
    (distinct : (Json.obj context).held = .obj context) :
    (Json.obj (errorEvent errorType errorDetail context)).held =
      .obj (errorEvent errorType errorDetail context) := by
  apply Json.held_obj_iff.mpr
  refine ⟨by simp [Dict.keys, errorEvent], ?_⟩
  unfold errorEvent
  simp only [List.forall_mem_cons]
  exact ⟨rfl, rfl, distinct, fun _ none => absurd none List.not_mem_nil⟩

/-- What is logged goes onto the log. -/
theorem holds_logEvent {demos : DemoManager} {tenantId : String}
    (sealing : CipherLaws demos.library.encryptor)
    (holds : HoldsLog demos.library tenantId log store) (entry : LogEntry)
    (distinct : (Json.obj entry.data).held = .obj entry.data) :
    HoldsLog demos.library tenantId (entry.onto log)
      ((demos.logEvent tenantId entry.type entry.data entry.stamp).on store).2 := by
  have ⟨token, reads⟩ := @readEvent_demoLine demos.library tenantId sealing entry.stamp.nonce
    entry.type entry.stamp.time entry.data distinct
  unfold HoldsLog DemoManager.logEvent DemoCall.on LogEntry.onto
  cases entry.stamp.writeFails with
  | some exception => exact holds
  | none =>
    have longer := @holdsItems_lengthened _ _ _ _ entry.stamp.readFails _ _ holds token reads
    have items : (if entry.stamp.readFails then [] else log.map LogEntry.event) ++ [entry.event] =
        ((if entry.stamp.readFails then [] else log) ++ [entry]).map LogEntry.event := by
      cases entry.stamp.readFails <;> simp
    rw [show [demoEvent entry.type entry.stamp.time entry.data] = [entry.event] from rfl, items]
      at longer
    show HoldsItems _ (Function.update store.texts _ _ (demoEventsKey tenantId)) _
    rw [Function.update_self]
    exact longer

/-- The texts after an expiry check from the expiry on are those after its event. -/
theorem texts_checkExpiry_after {demos : DemoManager} {current : Tenant}
    (account : Account demos.manager origin isActive store.world current)
    (isDemo : origin.isDemo = true) (expiry : origin.demoExpiresAt = some expires)
    {check : ExpiryCheck} (late : expires.instant ≤ check.time.instant) :
    ((demos.checkExpiry origin.tenantId check).on store).2.texts =
      ((demos.logEvent origin.tenantId "demo_expired" [("expires_at", .str expires.isoformat)]
        check.stamp).on store).2.texts := by
  rw [on_checkExpiry_after account isDemo expiry late]
  cases (demos.logEvent origin.tenantId "demo_expired" [("expires_at", .str expires.isoformat)]
      check.stamp).on store with
  | mk outcome left => cases outcome <;> rfl

/-- What leaves the text of a log as another does holds what the other holds. -/
theorem HoldsLog.of_texts {tenantId : String} {left : DemoStore}
    (holds : HoldsLog library tenantId log store) (same : left.texts = store.texts) :
    HoldsLog library tenantId log left := by
  unfold HoldsLog
  rw [same]
  exact holds

/-- One event puts on the log what it logs. -/
theorem holds_step (sealing : CipherLaws library.encryptor) (isDemo : origin.isDemo = true)
    (expiry : origin.demoExpiresAt = some expires)
    (stored : Stored billing origin isActive store)
    (holds : HoldsLog library origin.tenantId log store) (event : DemoEvent origin.tenantId) :
    HoldsLog library origin.tenantId (event.logAfter origin expires log)
      (demoStep billing library store event) := by
  have ⟨current, account⟩ := stored
  cases event with
  | update change answers => exact holds
  | checkout stripe claims body answers own => exact holds
  | webhook retrieve event answers own => exact holds
  | checkExpiry check =>
    by_cases late : expires.instant ≤ check.time.instant
    · have texts := @texts_checkExpiry_after _ _ _ store (billing.demos library) _ account isDemo
        expiry check late
      have logged := @holds_logEvent log store (billing.demos library) _ sealing holds
        ⟨"demo_expired", [("expires_at", .str expires.isoformat)], check.stamp⟩
        (held_expired expires)
      simp only [DemoEvent.logAfter, DemoEvent.entry, if_pos late, Option.elim_some]
      exact logged.of_texts texts
    · have before := @on_checkExpiry_before (billing.demos library) _ _ _ _ _ account isDemo expiry
        check (by omega)
      simp only [DemoEvent.logAfter, DemoEvent.entry, if_neg late, Option.elim_none]
      unfold demoStep
      dsimp only
      rw [before]
      exact holds
  | checkCap usageType currentCount stamp =>
    have checked := @on_checkDemoCostCap (billing.demos library) _ _ _ _ _ account isDemo expiry
      usageType currentCount stamp
    simp only [DemoEvent.logAfter, DemoEvent.entry]
    unfold demoStep
    dsimp only
    rw [checked]
    cases demoCap origin usageType with
    | none => exact holds
    | some cap =>
      by_cases reached : cap ≤ currentCount
      · simp only [reached, if_true, Option.elim_some]
        exact @holds_logEvent log store (billing.demos library) _ sealing holds
          ⟨"demo_cost_cap_reached", capEvent usageType currentCount cap, stamp⟩
          (held_capEvent _ _ _)
      · simp only [reached, if_false, Option.elim_none]
        exact holds
  | logError errorType errorDetail context stamp distinct =>
    exact @holds_logEvent log store (billing.demos library) _ sealing holds
      ⟨"error", errorEvent errorType errorDetail context, stamp⟩ (held_errorEvent _ _ distinct)
  | other change record untouched =>
    show HoldsItems _ ((change store).texts _) _
    rw [untouched]
    exact holds

/-- A run puts on the log what its events log. -/
theorem holds_run (laws : CipherLaws billing.manager.encryptor)
    (sealing : CipherLaws library.encryptor) (isDemo : origin.isDemo = true)
    (expiry : origin.demoExpiresAt = some expires)
    (stored : Stored billing origin isActive store)
    (holds : HoldsLog library origin.tenantId log store)
    (events : List (DemoEvent origin.tenantId)) :
    HoldsLog library origin.tenantId (events.foldl (DemoEvent.logAfter origin expires) log)
      (events.foldl (demoStep billing library) store) := by
  induction events generalizing isActive store log with
  | nil => exact holds
  | cons event rest ih =>
    exact ih (stored_step laws isDemo expiry stored event)
      (holds_step sealing isDemo expiry stored holds event)

end Log

section Analytics

/-- What the analytics of a demo sum up of entries. -/
structure Tallies (kept : List LogEntry) (analytics : DemoManager.Analytics) : Prop where
  /-- How many there are of each type. -/
  counts : ∀ type, analytics.eventTypes.getD type (.int 0) =
    .int (kept.countP fun entry => entry.type = type : Nat)
  /-- The events of the errors, in order. -/
  errors : analytics.errors = (kept.filter fun entry => entry.type = "error").map LogEntry.event
  /-- Without an entry there is no activity. -/
  idle : kept = [] → analytics.lastActivity = none
  /-- The last activity is the time of an entry that none is later than. -/
  latest : kept ≠ [] → ∃ last ∈ kept,
    analytics.lastActivity = some last.stamp.time.isoformat ∧
    ∀ entry ∈ kept, entry.stamp.time.instant ≤ last.stamp.time.instant

variable {kept : List LogEntry} {analytics : DemoManager.Analytics}

/-- The analytics with one more entry. -/
def noted (analytics : DemoManager.Analytics) (entry : LogEntry) : DemoManager.Analytics :=
  let timestamp := entry.stamp.time.isoformat
  { analytics with
    eventTypes := analytics.eventTypes.set entry.type
      (analytics.eventTypes.getD entry.type (.int 0)).increment
    errors :=
      if entry.type = "error" then analytics.errors ++ [entry.event] else analytics.errors
    lastActivity :=
      if analytics.lastActivity.all fun last => decide (last < timestamp) then some timestamp
      else analytics.lastActivity }

/-- An entry is noted. -/
theorem noteEvent_event (analytics : DemoManager.Analytics) (entry : LogEntry) :
    DemoManager.noteEvent analytics entry.event = .ok (noted analytics entry) := by
  have filled := isoformat_ne_empty entry.stamp.time
  unfold LogEntry.event demoEvent DemoManager.noteEvent noted
  simp only [fieldD, Dict.get?_cons, typed, asStr, if_true, bind, Except.bind]
  simp [filled, pure, Except.pure]
  rfl

/-- What is noted of an entry sums it up too. -/
theorem tallies_noted (tallies : Tallies kept analytics) (entry : LogEntry) :
    Tallies (kept ++ [entry]) (noted analytics entry) := by
  constructor
  case counts =>
    intro type
    have before := tallies.counts type
    unfold Dict.getD at before
    rw [List.countP_append, List.countP_singleton]
    unfold noted Dict.getD
    dsimp only
    by_cases same : entry.type = type
    · subst same
      rw [Dict.get?_set_self, Option.getD_some, before]
      simp [Json.increment]
    · rw [Dict.get?_set_ne _ _ (Ne.symm same), before]
      simp [same]
  case errors =>
    unfold noted
    rw [List.filter_append, List.map_append, ← tallies.errors]
    by_cases error : entry.type = "error"
    · simp [error]
    · simp [error]
  case idle =>
    intro empty
    simp at empty
  case latest =>
    intro _
    unfold noted
    dsimp only
    by_cases first : kept = []
    · subst first
      rw [tallies.idle rfl]
      exact ⟨entry, by simp, rfl, by simp⟩
    · obtain ⟨last, there, active, most⟩ := tallies.latest first
      have order := @DateTime.isoformat_lt_iff last.stamp.time entry.stamp.time last.stamp.utc
        entry.stamp.utc
      rw [active]
      by_cases later : last.stamp.time.instant < entry.stamp.time.instant
      · refine ⟨entry, by simp, ?_, fun other among => ?_⟩
        · rw [Option.all_some, if_pos (decide_eq_true (order.mpr later))]
        · cases List.mem_append.mp among with
          | inl before => exact (most other before).trans later.le
          | inr same => rw [List.mem_singleton.mp same]
      · refine ⟨last, by simp [there], ?_, fun other among => ?_⟩
        · rw [Option.all_some, decide_eq_false (order.not.mpr later)]
          rfl
        · cases List.mem_append.mp among with
          | inl before => exact most other before
          | inr same =>
            rw [List.mem_singleton.mp same]
            omega

/-- The loop of the analytics sums up every entry. -/
theorem foldlM_noteEvent (tallies : Tallies kept analytics) (entries : List LogEntry) :
    ∃ summed, (entries.map LogEntry.event).foldlM DemoManager.noteEvent analytics = .ok summed ∧
      Tallies (kept ++ entries) summed ∧ summed.isDemo = analytics.isDemo ∧
      summed.createdBy = analytics.createdBy ∧ summed.expiresAt = analytics.expiresAt ∧
      summed.totalEvents = analytics.totalEvents := by
  induction entries generalizing kept analytics with
  | nil => exact ⟨analytics, rfl, by simpa using tallies, rfl, rfl, rfl, rfl⟩
  | cons entry rest ih =>
    have ⟨summed, ran, sums, fields⟩ := ih (tallies_noted tallies entry)
    refine ⟨summed, ?_, ?_, fields⟩
    · rw [List.map_cons, List.foldlM_cons, noteEvent_event]
      exact ran
    · rw [List.append_cons]
      exact sums

/-- The analytics of a demo that is stored sum up its log. -/
theorem on_getUsageAnalytics {demos : DemoManager} {origin current : Tenant} {expires : DateTime}
    {isActive : Bool} {store : DemoStore} {kept : List LogEntry}
    (account : Account demos.manager origin isActive store.world current)
    (isDemo : origin.isDemo = true) (expiry : origin.demoExpiresAt = some expires)
    (holds : HoldsLog demos.library origin.tenantId kept store) :
    ∃ analytics, (demos.getUsageAnalytics origin.tenantId).on store = (.ok analytics, store) ∧
      analytics.isDemo = .bool true ∧ analytics.createdBy = .str origin.demoCreatedBy ∧
      analytics.expiresAt = .str expires.isoformat ∧ analytics.totalEvents = kept.length ∧
      Tallies kept analytics := by
  have ⟨data, loaded, filled, marked, expiresAt, _, _, createdBy⟩ := load_demo account isDemo expiry
  have none : Tallies [] { tenantId := origin.tenantId
                           isDemo := .bool true
                           createdBy := .str origin.demoCreatedBy
                           expiresAt := .str expires.isoformat
                           totalEvents := kept.length } :=
    ⟨fun _ => rfl, rfl, fun _ => rfl, fun filled => absurd rfl filled⟩
  have ⟨analytics, summed, tallies, fields⟩ := foldlM_noteEvent none kept
  have read : (demos.loadDemoEvents origin.tenantId).on store =
      (.ok (kept.map LogEntry.event), store) := by
    rw [← loadEvents_of_holds holds]
    rfl
  refine ⟨analytics, ?_, fields.1, fields.2.1, fields.2.2.1, fields.2.2.2, tallies⟩
  unfold DemoManager.getUsageAnalytics
  rw [on_bind, read]
  dsimp only
  rw [on_bind, loaded]
  simp only [Option.getD_some, filled, if_true, marked, expiresAt, createdBy, List.length_map,
    summed]
  rfl

end Analytics

section Summary

variable {billing : Billing} {library : AuditLibrary} {request : DemoRequest}
  {found : DemoCreation} {start first : DemoStore} {made : Tenant}

/-- What is logged of a creation is held. -/
theorem held_creation (request : DemoRequest) (expires : DateTime) :
    (Json.obj (request.event (.str expires.isoformat))).held =
      .obj (request.event (.str expires.isoformat)) := by
  apply Json.held_obj_iff.mpr
  refine ⟨by simp [Dict.keys, DemoRequest.event], ?_⟩
  unfold DemoRequest.event
  simp only [List.forall_mem_cons]
  exact ⟨rfl, rfl, rfl, rfl, rfl, fun _ none => absurd none List.not_mem_nil⟩

/-- What a demo's log has after a creation and a run. -/
def demoLog (request : DemoRequest) (found : DemoCreation) (made : Tenant) (expires : DateTime)
    (events : List (DemoEvent made.tenantId)) : List LogEntry :=
  events.foldl (DemoEvent.logAfter (request.demo expires made) expires)
    [⟨"demo_created", request.event (.str expires.isoformat), found.stamp⟩]

/-- However the calls that read or write a demo's record and its log follow each other, the
analytics show the terms it was created on. They count the entries that the log has, by type, list
its errors, and name the latest time of an entry. -/
theorem demo_analytics (laws : CipherLaws billing.manager.encryptor)
    (sealing : CipherLaws library.encryptor) (hex : IsHex found.create.tokenHex)
    (created : ((billing.demos library).createDemo request found).on start = (.ok made, first))
    (fresh : start.texts (demoEventsKey made.tenantId) = [])
    (events : List (DemoEvent made.tenantId)) :
    ∃ expires analytics,
      expires.instant = found.time.instant + request.durationDays * 86400000000 ∧
      ((billing.demos library).getUsageAnalytics made.tenantId).on
          (events.foldl (demoStep billing library) first) =
        (.ok analytics, events.foldl (demoStep billing library) first) ∧
      analytics.isDemo = .bool true ∧ analytics.createdBy = .str request.createdBy ∧
      analytics.expiresAt = .str expires.isoformat ∧
      analytics.totalEvents = (demoLog request found made expires events).length ∧
      Tallies (demoLog request found made expires events) analytics := by
  have ⟨expires, middle, added, same, writes, texts, stored, left⟩ := of_createDemo laws hex created
  let origin := request.demo expires made
  let kept := demoLog request found made expires events
  have begun : Stored billing origin true first := by
    rw [left]
    exact stored.of_world (world_logEvent _ _ _ _ _)
  have empty : HoldsLog library made.tenantId [] middle := by
    unfold HoldsLog
    rw [texts, fresh]
    exact ⟨[], rfl, .nil⟩
  have logged := @holds_logEvent _ _ (billing.demos library) _ sealing empty
    ⟨"demo_created", request.event (.str expires.isoformat), found.stamp⟩ (held_creation _ _)
  have holds : HoldsLog library origin.tenantId kept
      (events.foldl (demoStep billing library) first) := by
    apply holds_run laws sealing rfl rfl begun
    rw [left]
    have one : LogEntry.onto ⟨"demo_created", request.event (.str expires.isoformat), found.stamp⟩
        [] = [⟨"demo_created", request.event (.str expires.isoformat), found.stamp⟩] := by
      unfold LogEntry.onto
      simp [writes]
    rw [one] at logged
    exact logged
  have ⟨current, account⟩ := @stored_run billing library origin expires true first laws rfl rfl
    begun events
  have ⟨analytics, ran, summary⟩ := @on_getUsageAnalytics (billing.demos library) origin current
    expires _ _ kept account rfl rfl holds
  exact ⟨expires, analytics, instant_plusDays added, ran, summary⟩

/-- The analytics of that run. -/
theorem demo_analytics_week : ∃ made first expires analytics,
    ((acmeBilling.demos sampleAudit).createDemo weekRequest acmeCreation).on emptyStore =
      (.ok made, first) ∧
    expires.instant = acmeCreation.time.instant + weekRequest.durationDays * 86400000000 ∧
    analytics.totalEvents =
      (demoLog weekRequest acmeCreation made expires [.checkExpiry lateCheck]).length ∧
    Tallies (demoLog weekRequest acmeCreation made expires [.checkExpiry lateCheck]) analytics := by
  have ⟨first, created⟩ := created_week
  have ⟨expires, analytics, ends, _, _, _, _, total, tallies⟩ := @demo_analytics acmeBilling
    sampleAudit weekRequest acmeCreation emptyStore first _ acmeManager_laws sampleEncryptor_laws
    isHex_acme created rfl [.checkExpiry lateCheck]
  exact ⟨_, first, expires, analytics, created, ends, total, tallies⟩

end Summary

end VelaFlow.Api
