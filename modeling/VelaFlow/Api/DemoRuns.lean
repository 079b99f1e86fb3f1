import VelaFlow.Api.Billing
import VelaFlow.Tenant.DemoAccounts
import VelaFlow.Tenant.Footprints

/-!
# Runs of a demo account

Everything that reads or writes the record of a demo, in any order: the methods of the tenant
manager, the billing routes, and the checks of the demo manager. The worker reads the expiry of a
demo from the record, the demo manager from the document itself. The terms of a demo last, the two
agree on when it is over, and it is active until it is deactivated or a check finds it expired.
-/
namespace VelaFlow.Api

open Process Security Storage Tenants

/-- Something that happens to a demo, or to what is stored besides. -/
inductive DemoEvent (tenantId : String) where
  /-- A method of the tenant manager that updates the record. -/
  | update (update : RecordUpdate) (answers : Answers)
  /-- `create_checkout`, for a token of the tenant. -/
  | checkout (stripe : CheckoutAnswers) (claims : TokenClaims) (body : CheckoutRequest)
      (answers : Answers) (own : claims.tenantId = tenantId)
  /-- `stripe_webhook`, for an event of the tenant. -/
  | webhook (retrieve : String → Except PyException (List String)) (event : StripeEvent)
      (answers : Answers) (own : event.tenantId = some tenantId)
  /-- `check_expiry`. -/
  | checkExpiry (check : ExpiryCheck)
  /-- `check_demo_cost_cap`. -/
  | checkCap (usageType : String) (currentCount : Int) (stamp : Stamp)
  /-- `log_demo_error`. -/
  | logError (errorType errorDetail : String) (context : Dict) (stamp : Stamp)
      (distinct : (Json.obj context).held = .obj context)
  /-- Anything that leaves the record and the log of the demo. -/
  | other (change : DemoStore → DemoStore)
      (record : ∀ store, (change store).world.storage.readJson (tenantKey tenantId) =
        store.world.storage.readJson (tenantKey tenantId))
      (log : ∀ store, (change store).texts (demoEventsKey tenantId) =
        store.texts (demoEventsKey tenantId))

/-- The demo manager over the tenant manager of the billing routes. -/
def Billing.demos (billing : Billing) (library : AuditLibrary) : DemoManager :=
  ⟨billing.manager, library⟩

/-- What an event leaves. -/
def demoStep (billing : Billing) (library : AuditLibrary) {tenantId : String} (store : DemoStore) :
    DemoEvent tenantId → DemoStore
  | .update update answers =>
    { store with world := update.after billing.manager tenantId answers store.world }
  | .checkout stripe claims body answers _ =>
    { store with world := ((billing.createCheckout stripe claims body).run answers store.world).2 }
  | .webhook retrieve event answers _ =>
    { store with
      world := ((billing.stripeWebhook retrieve (some event)).run answers store.world).2 }
  | .checkExpiry check =>
    (((billing.demos library).checkExpiry tenantId check).on store).2
  | .checkCap usageType currentCount stamp =>
    (((billing.demos library).checkDemoCostCap tenantId usageType currentCount stamp).on store).2
  | .logError errorType errorDetail context stamp _ =>
    (((billing.demos library).logDemoError tenantId errorType errorDetail context stamp).on store).2
  | .other change _ _ => change store

section Billing

variable {billing : Billing} {origin current : Tenant} {isActive : Bool} {world : World}

/-- Making sure of a customer keeps an account. -/
theorem account_ensureCustomer (account : Account billing.manager origin isActive world current)
    (laws : CipherLaws billing.manager.encryptor) (stripe : CheckoutAnswers) (answers : Answers) :
    ∃ next, Account billing.manager origin isActive
      ((billing.ensureCustomer stripe current).run answers world).2 next := by
  unfold Billing.ensureCustomer
  by_cases none : current.stripeCustomerId = ""
  · rw [if_pos none]
    cases answered : stripe.customer with
    | error exception => exact ⟨current, account⟩
    | ok customer =>
      let changed : Tenant := { current with stripeCustomerId := customer }
      have same : SameAccount origin changed := by
        have old := account.same
        unfold SameAccount at old ⊢
        simp only [changed]
        rw [old]
      have aligned : Aligned changed := account.aligned
      have ⟨left, saved, stands⟩ := @Account.save billing.manager origin current isActive world
        answers changed account laws aligned same
      rw [show changed.isActive = isActive from account.active] at stands
      refine ⟨changed, ?_⟩
      rw [run_bind, run_lift]
      dsimp only
      rw [saved]
      exact stands
  · rw [if_neg none]
    exact ⟨current, account⟩

/-- `create_checkout` keeps an account. -/
theorem account_createCheckout (account : Account billing.manager origin isActive world current)
    (laws : CipherLaws billing.manager.encryptor) (stripe : CheckoutAnswers) {claims : TokenClaims}
    (own : claims.tenantId = origin.tenantId) (body : CheckoutRequest) (answers : Answers) :
    ∃ next, Account billing.manager origin isActive
      ((billing.createCheckout stripe claims body).run answers world).2 next := by
  unfold Billing.createCheckout getCurrentTenantId
  by_cases absent : claims.tenantId = ""
  · rw [if_pos absent]
    exact ⟨current, account⟩
  · rw [if_neg absent]
    dsimp only
    cases billing.priceIds.find? fun entry => decide (entry.1.value = body.tier) with
    | none => exact ⟨current, account⟩
    | some entry =>
      have ⟨tier, priceId⟩ := entry
      dsimp only
      by_cases closed : priceId = "" ∨ billing.secretKey = ""
      · rw [if_pos closed]
        exact ⟨current, account⟩
      · have ⟨next, kept⟩ := account_ensureCustomer account laws stripe answers
        rw [if_neg closed, own, run_bind, account.found laws]
        dsimp only
        rw [run_bind]
        cases done : (billing.ensureCustomer stripe current).run answers world with
        | mk outcome left =>
          rw [done] at kept
          refine ⟨next, ?_⟩
          cases outcome with
          | error exception => exact kept
          | ok value =>
            cases billing.validateRedirectUrl body.successUrl with
            | error refusal => exact kept
            | ok success =>
              cases billing.validateRedirectUrl body.cancelUrl with
              | error refusal => exact kept
              | ok cancel =>
                cases answered : stripe.session with
                | error exception => exact kept
                | ok url => exact kept

/-- An account is the same over the same storage. -/
theorem account_of_storage {manager : TenantManager} {left : World}
    (account : Account manager origin isActive world current)
    (same : left.storage = world.storage) : Account manager origin isActive left current := by
  have ⟨nonce, stored⟩ := account.stored
  exact ⟨⟨nonce, by rw [same]; exact stored⟩, account.aligned, account.same, account.active⟩

/-- A completed checkout keeps an account. -/
theorem account_completeCheckout (account : Account billing.manager origin isActive world current)
    (laws : CipherLaws billing.manager.encryptor)
    (retrieve : String → Except PyException (List String)) {event : StripeEvent}
    (own : event.tenantId = some origin.tenantId) (answers : Answers) :
    ∃ next, Account billing.manager origin isActive
      ((billing.completeCheckout retrieve event).run answers world).2 next := by
  unfold Billing.completeCheckout
  rw [own, Option.getD_some]
  by_cases empty : origin.tenantId = ""
  · rw [if_pos empty]
    exact ⟨current, account⟩
  · rw [if_neg empty, run_bind, run_lift]
    cases retrieve event.subscription with
    | error exception => exact ⟨current, account⟩
    | ok prices =>
      cases prices with
      | nil => exact ⟨current, account⟩
      | cons priceId rest =>
        obtain ⟨middle, changed, kept⟩ := account.tier laws (billing.tierOf priceId) answers
        let tiered := (RecordUpdate.tier (billing.tierOf priceId)).result billing.manager answers
          current
        let subscribed : Tenant := { tiered with stripeSubscriptionId := event.subscription }
        have same : SameAccount origin subscribed := by
          have old := account.same
          unfold SameAccount at old ⊢
          simp only [subscribed, tiered, RecordUpdate.result]
          rw [old]
        have aligned : Aligned subscribed := kept.aligned
        obtain ⟨left, saved, stands⟩ := @Account.save billing.manager origin _ isActive middle
          answers subscribed kept laws aligned same
        rw [show subscribed.isActive = isActive from account.active] at stands
        refine ⟨subscribed, ?_⟩
        dsimp only
        rw [run_bind, changed]
        dsimp only
        rw [show (billing.manager.saveTenant { tiered with
          stripeSubscriptionId := event.subscription }).run answers middle = _ from saved]
        exact stands

/-- A deleted subscription keeps an account. -/
theorem account_deleteSubscription
    (account : Account billing.manager origin isActive world current)
    (laws : CipherLaws billing.manager.encryptor) {event : StripeEvent}
    (own : event.tenantId = some origin.tenantId) (answers : Answers) :
    ∃ next, Account billing.manager origin isActive
      ((billing.deleteSubscription event).run answers world).2 next := by
  unfold Billing.deleteSubscription
  rw [own, Option.getD_some]
  by_cases empty : origin.tenantId = ""
  · rw [if_pos empty]
    exact ⟨current, account⟩
  · have ⟨left, changed, kept⟩ := account.tier laws .free answers
    rw [if_neg empty, run_bind, changed]
    exact ⟨_, kept⟩

/-- `stripe_webhook` keeps an account. -/
theorem account_stripeWebhook (account : Account billing.manager origin isActive world current)
    (laws : CipherLaws billing.manager.encryptor)
    (retrieve : String → Except PyException (List String)) {event : StripeEvent}
    (own : event.tenantId = some origin.tenantId) (answers : Answers) :
    ∃ next, Account billing.manager origin isActive
      ((billing.stripeWebhook retrieve (some event)).run answers world).2 next := by
  have applied : ∃ next, Account billing.manager origin isActive
      ((billing.applyEvent retrieve event).run answers world).2 next := by
    unfold Billing.applyEvent
    by_cases completed : event.type = checkoutCompleted
    · rw [if_pos completed]
      exact account_completeCheckout account laws retrieve own answers
    · rw [if_neg completed]
      by_cases deleted : event.type = subscriptionDeleted
      · rw [if_pos deleted]
        exact account_deleteSubscription account laws own answers
      · rw [if_neg deleted]
        by_cases failed : event.type = paymentFailed
        · have listed := storage_of_quiet (quiet_listTenants billing.manager) answers world
          rw [if_pos failed]
          unfold Billing.noteFailedPayment
          rw [Program.run_bind_pure]
          exact ⟨current, account_of_storage account listed⟩
        · rw [if_neg failed]
          exact ⟨current, account⟩
  unfold Billing.stripeWebhook
  by_cases closed : billing.webhookSecret = ""
  · rw [if_pos closed]
    exact ⟨current, account⟩
  · rw [if_neg closed]
    dsimp only
    rw [Program.run_bind_pure]
    exact applied

end Billing

/-- The cap of a demo on a usage, when there is one. -/
def demoCap (origin : Tenant) (usageType : String) : Option Int :=
  if usageType = "pipeline_run" then some origin.demoCostCapPipeline
  else if usageType = "llm_call" then some origin.demoCostCapLlm
  else none

/-- What is logged of a cap that is reached. -/
def capEvent (usageType : String) (currentCount cap : Int) : Dict :=
  [("usage_type", .str usageType), ("count", .int currentCount), ("cap", .int cap)]

namespace DemoEvent

variable {tenantId : String}

/-- Whether an event ends a demo that expires at a time. -/
def ends (expires : DateTime) : DemoEvent tenantId → Bool
  | update change _ => change.ends
  | checkExpiry check =>
    decide (expires.instant ≤ check.time.instant) && check.stamp.writeFails.isNone
  | _ => false

end DemoEvent

section Checks

variable {demos : DemoManager} {origin current : Tenant} {isActive : Bool} {store : DemoStore}
  {expires : DateTime}

/-- The record of a demo, as its checks load it. -/
theorem load_demo (account : Account demos.manager origin isActive store.world current)
    (isDemo : origin.isDemo = true) (expiry : origin.demoExpiresAt = some expires) :
    ∃ data : Dict, (loadTenantData origin.tenantId).on store = (.ok (some data), store) ∧
      data.truthy = true ∧ (∀ default, data.getD "is_demo" default = .bool true) ∧
      data.getD "demo_expires_at" (.str "") = .str expires.isoformat ∧
      data.getD "demo_cost_cap_pipeline" (.int 50) = .int origin.demoCostCapPipeline ∧
      data.getD "demo_cost_cap_llm" (.int 100) = .int origin.demoCostCapLlm ∧
      data.getD "demo_created_by" (.str "") = .str origin.demoCreatedBy := by
  have ⟨nonce, loaded⟩ := account.load
  have same := account.same
  unfold SameAccount at same
  refine ⟨_, loaded, rfl, ?_, ?_, ?_, ?_, ?_⟩
  · intro default
    show Json.bool current.isDemo = _
    rw [same, ← isDemo]
  · show Json.str ((current.demoExpiresAt.map DateTime.isoformat).getD "") = _
    rw [same]
    show Json.str ((origin.demoExpiresAt.map DateTime.isoformat).getD "") = _
    rw [expiry]
    rfl
  · show Json.int current.demoCostCapPipeline = _
    rw [same]
  · show Json.int current.demoCostCapLlm = _
    rw [same]
  · show Json.str current.demoCreatedBy = _
    rw [same]

/-- A text that `isoformat` writes is read. -/
theorem readTime_isoformat (key : String) (time : DateTime) :
    Tenants.readTime key (.str time.isoformat) = .ok time := by
  simp only [Tenants.readTime, typed, asStr, bind, Except.bind, DateTime.fromIsoformat_isoformat]

/-- A check before the expiry finds a demo active, and leaves everything. -/
theorem on_checkExpiry_before (account : Account demos.manager origin isActive store.world current)
    (isDemo : origin.isDemo = true) (expiry : origin.demoExpiresAt = some expires)
    {check : ExpiryCheck} (early : check.time.instant < expires.instant) :
    (demos.checkExpiry origin.tenantId check).on store = (.ok true, store) := by
  have ⟨data, loaded, filled, demo, stored, _⟩ := load_demo account isDemo expiry
  have dated : (Json.str expires.isoformat).truthy = true := by
    simp [Json.truthy, isoformat_ne_empty]
  unfold DemoManager.checkExpiry
  rw [on_bind, loaded]
  dsimp only
  rw [filled, demo, stored, dated, readTime_isoformat]
  simp only [Bool.not_true, Bool.false_eq_true, if_false, Json.truthy]
  rw [if_neg (by omega)]
  rfl

/-- A check from the expiry on logs that the demo expired, and deactivates it if that is logged. -/
theorem on_checkExpiry_after (account : Account demos.manager origin isActive store.world current)
    (isDemo : origin.isDemo = true) (expiry : origin.demoExpiresAt = some expires)
    {check : ExpiryCheck} (late : expires.instant ≤ check.time.instant) :
    (demos.checkExpiry origin.tenantId check).on store =
      match (demos.logEvent origin.tenantId "demo_expired"
        [("expires_at", .str expires.isoformat)] check.stamp).on store with
      | (.error exception, left) => (.error exception, left)
      | (.ok _, left) =>
        (((demos.manager.deactivateTenant origin.tenantId).run check.answers left.world).1.map
            fun _ => false,
          { left with world :=
            ((demos.manager.deactivateTenant origin.tenantId).run check.answers
              left.world).2 }) := by
  have ⟨data, loaded, filled, demo, stored, _⟩ := load_demo account isDemo expiry
  have dated : (Json.str expires.isoformat).truthy = true := by
    simp [Json.truthy, isoformat_ne_empty]
  unfold DemoManager.checkExpiry
  rw [on_bind, loaded]
  dsimp only
  rw [filled, demo, stored, dated, readTime_isoformat]
  simp only [Bool.not_true, Bool.false_eq_true, if_false, Json.truthy]
  rw [if_pos late, on_bind]
  unfold DemoManager.expireDemo
  rw [on_bind, stored]
  cases (demos.logEvent origin.tenantId "demo_expired" [("expires_at", .str expires.isoformat)]
      check.stamp).on store with
  | mk outcome left =>
    cases outcome with
    | error exception => rfl
    | ok value =>
      dsimp only
      cases ran : (demos.manager.deactivateTenant origin.tenantId).run check.answers left.world with
      | mk result world =>
        rw [on_bind, on_manage ran]
        cases result <;> rfl

/-- A cap check of a usage that is capped and reached is logged. -/
theorem on_checkDemoCostCap (account : Account demos.manager origin isActive store.world current)
    (isDemo : origin.isDemo = true) (expiry : origin.demoExpiresAt = some expires)
    (usageType : String) (currentCount : Int) (stamp : Stamp) :
    (demos.checkDemoCostCap origin.tenantId usageType currentCount stamp).on store =
      match demoCap origin usageType with
      | none => (.ok true, store)
      | some cap =>
        if cap ≤ currentCount then
          ((((demos.logEvent origin.tenantId "demo_cost_cap_reached"
              (capEvent usageType currentCount cap) stamp).on store).1.map fun _ => false),
            ((demos.logEvent origin.tenantId "demo_cost_cap_reached"
              (capEvent usageType currentCount cap) stamp).on store).2)
        else (.ok true, store) := by
  have ⟨data, loaded, filled, demo, _, pipeline, llm, _⟩ := load_demo account isDemo expiry
  have cap : DemoManager.capOf usageType data = (demoCap origin usageType).map Json.int := by
    unfold DemoManager.capOf demoCap
    rw [pipeline, llm]
    split
    · rfl
    · split <;> rfl
  unfold DemoManager.checkDemoCostCap
  rw [on_bind, loaded]
  dsimp only
  rw [filled, demo, cap]
  simp only [Bool.not_true, Bool.false_or, Json.truthy, Bool.false_eq_true, if_false]
  cases demoCap origin usageType with
  | none => rfl
  | some cap =>
    dsimp only [Option.map_some, Json.number?]
    by_cases reached : cap ≤ currentCount
    · have counted : (cap : ℚ) ≤ currentCount := by exact_mod_cast reached
      rw [if_pos counted, if_pos reached, on_bind]
      unfold capEvent
      cases (demos.logEvent origin.tenantId "demo_cost_cap_reached" _ stamp).on store with
      | mk outcome left => cases outcome <;> rfl
    · have counted : ¬ (cap : ℚ) ≤ currentCount := by exact_mod_cast reached
      rw [if_neg counted, if_neg reached]
      rfl

end Checks

section Accounts

variable {billing : Billing} {library : AuditLibrary} {origin current : Tenant}
  {expires : DateTime} {isActive : Bool} {store : DemoStore}

/-- The storage of a demo whose account is stored, active or not. -/
def Stored (billing : Billing) (origin : Tenant) (isActive : Bool) (store : DemoStore) : Prop :=
  ∃ current, Account billing.manager origin isActive store.world current

/-- What does not end an account leaves it as active as it was. -/
theorem Stored.still (stored : Stored billing origin isActive store) :
    Stored billing origin (isActive && !false) store := by
  rw [Bool.not_false, Bool.and_true]
  exact stored

/-- What leaves the documents leaves the account. -/
theorem Stored.of_world {left : DemoStore} (stored : Stored billing origin isActive store)
    (same : left.world = store.world) : Stored billing origin isActive left := by
  unfold Stored
  rw [same]
  exact stored

/-- What an expiry check from the expiry on does to the documents. -/
theorem world_checkExpiry_after
    (account : Account billing.manager origin isActive store.world current)
    (isDemo : origin.isDemo = true) (expiry : origin.demoExpiresAt = some expires)
    {check : ExpiryCheck} (late : expires.instant ≤ check.time.instant) :
    (((billing.demos library).checkExpiry origin.tenantId check).on store).2.world =
      if check.stamp.writeFails.isNone then
        RecordUpdate.after billing.manager origin.tenantId check.answers store.world .deactivate
      else store.world := by
  rw [@on_checkExpiry_after (billing.demos library) _ _ _ _ _ account isDemo expiry _ late]
  have outcome := @outcome_logEvent (billing.demos library) origin.tenantId "demo_expired"
    [("expires_at", .str expires.isoformat)] check.stamp store
  have world := @world_logEvent (billing.demos library) origin.tenantId "demo_expired"
    [("expires_at", .str expires.isoformat)] check.stamp store
  cases ran : ((billing.demos library).logEvent origin.tenantId "demo_expired"
      [("expires_at", .str expires.isoformat)] check.stamp).on store with
  | mk result left =>
    rw [ran] at outcome world
    dsimp only at outcome world
    rw [outcome]
    cases check.stamp.writeFails with
    | some exception => exact world
    | none =>
      simp only [Option.isNone_none, if_true, RecordUpdate.after, world]
      rfl

/-- One event keeps the account of a demo, and ends it or not. -/
theorem stored_step (laws : CipherLaws billing.manager.encryptor) (isDemo : origin.isDemo = true)
    (expiry : origin.demoExpiresAt = some expires)
    (stored : Stored billing origin isActive store) (event : DemoEvent origin.tenantId) :
    Stored billing origin (isActive && !event.ends expires)
      (demoStep billing library store event) := by
  have ⟨current, account⟩ := stored
  cases event with
  | update change answers => exact account.update laws change answers
  | checkout stripe claims body answers own =>
    exact Stored.still (account_createCheckout account laws stripe own body answers)
  | webhook retrieve event answers own =>
    exact Stored.still (account_stripeWebhook account laws retrieve own answers)
  | checkExpiry check =>
    show Stored billing origin
      (isActive &&
        !(decide (expires.instant ≤ check.time.instant) && check.stamp.writeFails.isNone))
      (((billing.demos library).checkExpiry origin.tenantId check).on store).2
    by_cases late : expires.instant ≤ check.time.instant
    · have world := @world_checkExpiry_after billing library _ _ _ _ _ account isDemo expiry check
        late
      rw [decide_eq_true late, Bool.true_and]
      unfold Stored
      rw [world]
      cases check.stamp.writeFails with
      | some exception => exact stored.still
      | none => exact account.update laws .deactivate check.answers
    · have before := @on_checkExpiry_before (billing.demos library) _ _ _ _ _ account isDemo expiry
        check (by omega)
      rw [decide_eq_false late, Bool.false_and, before]
      exact stored.still
  | checkCap usageType currentCount stamp =>
    apply Stored.still
    unfold demoStep
    dsimp only
    rw [@on_checkDemoCostCap (billing.demos library) _ _ _ _ _ account isDemo expiry]
    cases demoCap origin usageType with
    | none => exact stored
    | some cap =>
      by_cases reached : cap ≤ currentCount
      · simp only [reached, if_true]
        exact stored.of_world (world_logEvent _ _ _ _ _)
      · simp only [reached, if_false]
        exact stored
  | logError errorType errorDetail context stamp distinct =>
    exact Stored.still (stored.of_world (world_logEvent _ _ _ _ _))
  | other change record untouched =>
    have ⟨nonce, there⟩ := account.stored
    rw [← record] at there
    exact Stored.still ⟨current, ⟨nonce, there⟩, account.aligned, account.same, account.active⟩

/-- A run keeps the account of a demo, active until an event ends it. -/
theorem stored_run (laws : CipherLaws billing.manager.encryptor) (isDemo : origin.isDemo = true)
    (expiry : origin.demoExpiresAt = some expires)
    (stored : Stored billing origin isActive store) (events : List (DemoEvent origin.tenantId)) :
    Stored billing origin (isActive && !events.any (DemoEvent.ends expires))
      (events.foldl (demoStep billing library) store) := by
  induction events generalizing isActive store with
  | nil => exact stored.still
  | cons event rest ih =>
    have next := ih (@stored_step billing library _ _ _ _ laws isDemo expiry stored event)
    rw [List.foldl_cons, List.any_cons, Bool.not_or, ← Bool.and_assoc]
    exact next

/-- A check of an account whose tenant has a name answers by the time, when it can be logged. -/
theorem answer_checkExpiry (laws : CipherLaws billing.manager.encryptor)
    (account : Account billing.manager origin isActive store.world current)
    (isDemo : origin.isDemo = true) (expiry : origin.demoExpiresAt = some expires)
    (named : IsPart origin.tenantId.toList) {check : ExpiryCheck}
    (writes : check.stamp.writeFails = none) :
    (((billing.demos library).checkExpiry origin.tenantId check).on store).1 =
      .ok (decide (check.time.instant < expires.instant)) := by
  by_cases late : expires.instant ≤ check.time.instant
  · rw [@on_checkExpiry_after (billing.demos library) _ _ _ _ _ account isDemo expiry _ late]
    have outcome := @outcome_logEvent (billing.demos library) origin.tenantId "demo_expired"
      [("expires_at", .str expires.isoformat)] check.stamp store
    have world := @world_logEvent (billing.demos library) origin.tenantId "demo_expired"
      [("expires_at", .str expires.isoformat)] check.stamp store
    rw [writes] at outcome
    cases ran : ((billing.demos library).logEvent origin.tenantId "demo_expired"
        [("expires_at", .str expires.isoformat)] check.stamp).on store with
    | mk result left =>
      rw [ran] at outcome world
      dsimp only at outcome world
      have ⟨data, record⟩ := account.record laws check.answers
      have returns := deactivateTenant_returns named record
      rw [decide_eq_false (by omega), outcome]
      dsimp only
      rw [world, show ((billing.demos library).manager.deactivateTenant origin.tenantId).run
        check.answers store.world = ((billing.manager.deactivateTenant origin.tenantId).run
          check.answers store.world) from rfl, returns]
      rfl
  · rw [@on_checkExpiry_before (billing.demos library) _ _ _ _ _ account isDemo expiry check
      (by omega), decide_eq_true (by omega)]

end Accounts

section Lasting

variable {billing : Billing} {library : AuditLibrary} {request : DemoRequest}
  {found : DemoCreation} {start first : DemoStore} {made : Tenant}

/-- What a creation that returned has left. -/
theorem of_createDemo (laws : CipherLaws billing.manager.encryptor)
    (hex : IsHex found.create.tokenHex)
    (created : ((billing.demos library).createDemo request found).on start = (.ok made, first)) :
    ∃ expires middle, plusDays found.time request.durationDays = .ok expires ∧
      made = newTenant request.name request.email .vip found.create ∧
      found.stamp.writeFails = none ∧ middle.texts = start.texts ∧
      Stored billing (request.demo expires made) true middle ∧
      first = (((billing.demos library).logEvent made.tenantId "demo_created"
        (request.event (.str expires.isoformat)) found.stamp).on middle).2 := by
  cases added : plusDays found.time request.durationDays with
  | error exception =>
    have ⟨left, ends, _⟩ := @on_createDemo_error (billing.demos library) laws request found hex
      start exception added
    have outcome := congrArg Prod.fst (created.symm.trans ends)
    cases outcome
  | ok expires =>
    have ⟨middle, current, texts, ends, account, _⟩ := @on_createDemo (billing.demos library) laws
      request found hex start expires added
    have both := created.symm.trans ends
    have outcome := congrArg Prod.fst both
    have left := congrArg Prod.snd both
    dsimp only at outcome left
    cases fails : found.stamp.writeFails with
    | some exception =>
      rw [fails] at outcome
      cases outcome
    | none =>
      rw [fails] at outcome
      have same : made = newTenant request.name request.email .vip found.create :=
        Except.ok.inj outcome
      rw [← same] at left account
      exact ⟨expires, middle, rfl, same, rfl, texts, ⟨current, account⟩, left⟩

/-- However the calls that read or write a demo's record follow each other, the demo keeps the terms
it was created on and its API key. It is active until a call deactivates it or a check that can be
logged finds it expired. And at any time a check answers that it is active exactly when the worker
does not find it expired. -/
theorem demo_lasts (laws : CipherLaws billing.manager.encryptor)
    (hex : IsHex found.create.tokenHex)
    (created : ((billing.demos library).createDemo request found).on start = (.ok made, first))
    (events : List (DemoEvent made.tenantId)) :
    ∃ expires current,
      expires.instant = found.time.instant + request.durationDays * 86400000000 ∧
      (∀ answers, (billing.manager.getTenant made.tenantId).run answers
          (events.foldl (demoStep billing library) first).world =
        (.ok (some current), (events.foldl (demoStep billing library) first).world)) ∧
      OnTerms request found.time current ∧ current.apiKey = made.apiKey ∧
      current.isActive = !events.any (DemoEvent.ends expires) ∧
      ∀ check : ExpiryCheck, check.stamp.writeFails = none →
        (((billing.demos library).checkExpiry made.tenantId check).on
          (events.foldl (demoStep billing library) first)).1 =
            .ok (!current.demoExpired check.time) := by
  have ⟨expires, middle, added, same, _, _, stored, left⟩ := of_createDemo laws hex created
  let origin := request.demo expires made
  have begun : Stored billing origin true first := by
    rw [left]
    exact stored.of_world (world_logEvent _ _ _ _ _)
  have ⟨current, account⟩ := @stored_run billing library origin expires true first laws rfl rfl
    begun events
  have terms := onTerms_of_account added account.same
  have is := account.same
  unfold SameAccount at is
  have key : current.apiKey = made.apiKey := by
    rw [is]
    rfl
  have named : IsPart made.tenantId.toList := by
    rw [same]
    exact (isPart_of_isHex hex).1
  refine ⟨expires, current, instant_plusDays added, fun answers => account.found laws answers,
    terms, key, account.active, fun check writes => ?_⟩
  have answer := @answer_checkExpiry billing library origin current expires _ _ laws account rfl rfl
    named check writes
  have expired : current.demoExpired check.time =
      decide (expires.instant ≤ check.time.instant) := by
    unfold Tenant.demoExpired
    rw [is]
    rfl
  rw [expired, ← decide_not]
  simp only [not_le]
  exact answer

end Lasting

section Sample

/-- Billing that is not configured, over the manager of the sample. -/
def acmeBilling : Billing where
  manager := acmeManager
  secretKey := ""
  webhookSecret := ""
  priceStandard := ""
  pricePremium := ""
  priceVip := ""
  urlparse _ := (none, "")

/-- A demo of a week. -/
def weekRequest : DemoRequest :=
  { name := "Acme", email := "owner@acme", createdBy := "admin" }

/-- Its creation returns. -/
theorem created_week : ∃ first,
    ((acmeBilling.demos sampleAudit).createDemo weekRequest acmeCreation).on emptyStore =
      (.ok (newTenant weekRequest.name weekRequest.email .vip acmeCreation.create), first) := by
  have day : acmeCreation.time.date.ordinal = 739252 := by decide +kernel
  have week : weekRequest.durationDays = 7 := rfl
  have inside : weekRequest.InCalendar acmeCreation.time := by
    unfold DemoRequest.InCalendar Date.lastOrdinal
    rw [day, week]
    omega
  have ⟨expires, added⟩ := (plusDays_ok_iff _ _).mpr inside
  have ⟨middle, current, _, ends, _⟩ := @on_createDemo (acmeBilling.demos sampleAudit)
    acmeManager_laws weekRequest acmeCreation isHex_acme emptyStore expires added
  exact ⟨_, ends⟩

/-- The ninth of January is a day. -/
theorem valid_ninth : 1 ≤ 2025 ∧ 2025 ≤ 9999 ∧ 1 ≤ 1 ∧ 1 ≤ 12 ∧ 1 ≤ 9 ∧ 9 ≤ daysInMonth 2025 1 :=
  Date.valid_january (by decide)

/-- Noon of that day, when the week is over. -/
def ninthNoon : DateTime := ⟨⟨2025, 1, 9, valid_ninth⟩, 12, 0, 0, 0, some 0, DateTime.valid_noon⟩

/-- A check at that time. -/
def lateCheck : ExpiryCheck := ⟨ninthNoon, { time := ninthNoon, utc := rfl }, acmeAnswers⟩

/-- The rule for a demo of a week that is checked late. -/
theorem demo_lasts_week :
    ∃ (made : Tenant) (first : DemoStore) (expires : DateTime) (current : Tenant),
    ((acmeBilling.demos sampleAudit).createDemo weekRequest acmeCreation).on emptyStore =
      (.ok made, first) ∧
    expires.instant = acmeCreation.time.instant + weekRequest.durationDays * 86400000000 ∧
    (∀ answers, (acmeBilling.manager.getTenant made.tenantId).run answers
        ([DemoEvent.checkExpiry lateCheck].foldl
          (@demoStep acmeBilling sampleAudit made.tenantId) first).world =
      (.ok (some current), ([DemoEvent.checkExpiry lateCheck].foldl
        (@demoStep acmeBilling sampleAudit made.tenantId) first).world)) ∧
    OnTerms weekRequest acmeCreation.time current ∧ current.isActive = false := by
  have ⟨first, created⟩ := created_week
  have ⟨expires, current, ends, found, terms, _, active, _⟩ := @demo_lasts acmeBilling sampleAudit
    weekRequest acmeCreation emptyStore first _ acmeManager_laws isHex_acme created
    [.checkExpiry lateCheck]
  have late : expires.instant ≤ lateCheck.time.instant := by
    rw [ends]
    decide +kernel
  refine ⟨_, first, expires, current, created, ends, found, terms, active.trans ?_⟩
  rw [List.any_cons, DemoEvent.ends, decide_eq_true late]
  rfl

end Sample

end VelaFlow.Api
