import VelaFlow.Api.Billing
import VelaFlow.Api.LoginTokens
import VelaFlow.Foundation.Machine

/-!
# The tier of a tenant and its subscriptions

A tenant opens checkouts, completes them, changes and cancels its subscriptions, and Stripe delivers
the events of all that, each at least once, in any order. The webhook applies every event when it
comes, so the tier is that of the last event that carried one.
-/
namespace VelaFlow.Api

open Process Queue Security Storage Tenants

/-- A subscription at Stripe. -/
structure Subscription where
  /-- The price of its item. -/
  price : String
  /-- Whether it has not been cancelled. -/
  active : Bool := true
  deriving DecidableEq

/-- A delivery that set the tier. -/
inductive Applied where
  /-- A checkout was completed; the price is the one its subscription had at the delivery. -/
  | bought (price : String)
  /-- A subscription was deleted. -/
  | deleted
  deriving DecidableEq

/-- Stripe, its deliveries, and the application, for one tenant. -/
structure Commerce where
  /-- The world of the application. -/
  world : World
  /-- The prices of the checkout sessions that were opened. -/
  sessions : List String := []
  /-- The subscriptions. -/
  subscriptions : String → Option Subscription := fun _ => none
  /-- The events so far. -/
  emitted : List StripeEvent := []
  /-- The events that the webhook has received. -/
  delivered : List StripeEvent := []
  /-- The deliveries that set the tier, the last one first. -/
  applied : List Applied := []

/-- A step of the tenant, of Stripe, or of the application. -/
inductive Trade where
  /-- A request to the checkout route. -/
  | checkout (claims : TokenClaims) (body : CheckoutRequest) (stripe : CheckoutAnswers)
      (answers : Answers)
  /-- An open session is paid, which begins a subscription. -/
  | complete (subscription price : String)
  /-- A subscription is given another price. -/
  | change (subscription price : String)
  /-- A subscription is cancelled. -/
  | cancel (subscription : String)
  /-- A payment for a subscription fails. -/
  | failPayment (subscription : String)
  /-- An event is delivered, while Stripe's API can be reached or not. -/
  | deliver (event : StripeEvent) (reachable : Bool) (answers : Answers)

namespace Commerce

/-- Stripe emits an event for the tenant. -/
def emit (state : Commerce) (tenantId type subscription : String) : Commerce :=
  { state with
    emitted := ⟨state.emitted.length, type, some tenantId, subscription⟩ :: state.emitted }

/-- `stripe.Subscription.retrieve`: the prices of the items. -/
def retrieve (state : Commerce) (reachable : Bool) (subscription : String) :
    Except PyException (List String) :=
  match reachable, state.subscriptions subscription with
  | true, some found => .ok [found.price]
  | _, _ => .error (.other "StripeError" subscription)

/-- What the delivery of an event applies. -/
def application (state : Commerce) (event : StripeEvent) : List Applied :=
  if event.type = checkoutCompleted then
    (state.subscriptions event.subscription).toList.map fun found => .bought found.price
  else if event.type = subscriptionDeleted then [.deleted]
  else []

/-- The delivery of an event. One that is not answered counts as not made. -/
def deliver (billing : Billing) (state : Commerce) (event : StripeEvent) (reachable : Bool)
    (answers : Answers) : Commerce :=
  match (billing.stripeWebhook (state.retrieve reachable) (some event)).run answers state.world with
  | (.ok (.ok ()), world) =>
    { state with
      world
      delivered := event :: state.delivered
      applied := state.application event ++ state.applied }
  | (_, world) => { state with world }

/-- One step, for a tenant. -/
def step (billing : Billing) (tenantId : String) (state : Commerce) : Trade → Option Commerce
  | .checkout claims body stripe answers =>
    if claims.tenantId = tenantId then
      match (billing.createCheckout stripe claims body).run answers state.world with
      | (.ok (.ok (price, _)), world) =>
        some { state with world, sessions := price :: state.sessions }
      | (_, world) => some { state with world }
    else none
  | .complete subscription price =>
    if price ∈ state.sessions ∧ (state.subscriptions subscription).isNone then
      some ({ state with
        sessions := state.sessions.erase price
        subscriptions := Function.update state.subscriptions subscription (some ⟨price, true⟩) }.emit
          tenantId checkoutCompleted subscription)
    else none
  | .change subscription price =>
    match state.subscriptions subscription with
    | some ⟨_, true⟩ =>
      some ({ state with
        subscriptions := Function.update state.subscriptions subscription (some ⟨price, true⟩) }.emit
          tenantId "customer.subscription.updated" subscription)
    | _ => none
  | .cancel subscription =>
    match state.subscriptions subscription with
    | some ⟨price, true⟩ =>
      some ({ state with
        subscriptions := Function.update state.subscriptions subscription (some ⟨price, false⟩) }.emit
          tenantId subscriptionDeleted subscription)
    | _ => none
  | .failPayment subscription =>
    some (state.emit tenantId paymentFailed subscription)
  | .deliver event reachable answers =>
    if event ∈ state.emitted then some (state.deliver billing event reachable answers) else none

/-- Every event was delivered. -/
def AllDelivered (state : Commerce) : Prop := ∀ event ∈ state.emitted, event ∈ state.delivered

instance : DecidablePred AllDelivered := fun state =>
  inferInstanceAs (Decidable (∀ event ∈ state.emitted, event ∈ state.delivered))

/-- No subscription is active. -/
def Lapsed (state : Commerce) : Prop :=
  ∀ subscription found, state.subscriptions subscription = some found → found.active = false

/-- A subscription to a tier is active. -/
def Subscribed (billing : Billing) (state : Commerce) (tier : TenantTier) : Prop :=
  ∃ subscription found, state.subscriptions subscription = some found ∧ found.active = true ∧
    billing.tierOf found.price = tier

/-- The tenant has the tier of an active subscription, or the free one when there is none. -/
def TierAgrees (billing : Billing) (tenantId : String) (recorded : DateTime) (state : Commerce) :
    Prop :=
  ∃ tenant, storedTenant billing.manager recorded state.world tenantId = .ok (some tenant) ∧
    (state.Subscribed billing tenant.tier ∨ state.Lapsed ∧ tenant.tier = .free)

/-- The last delivery that set the tier is still right: a checkout for a tier to which a
subscription is active, or a deletion when none is. -/
def LastIsCurrent (billing : Billing) (state : Commerce) : Prop :=
  ∀ last ∈ state.applied.head?,
    match last with
    | .bought price => state.Subscribed billing (billing.tierOf price)
    | .deleted => state.Lapsed

end Commerce

section Records

variable {manager : TenantManager} {tenantId : String} {world : World}

/-- The record of a tenant is stored under its id, with a tier. -/
def TierIs (manager : TenantManager) (tenantId : String) (tier : TenantTier) (world : World) :
    Prop :=
  ∀ recorded, ∃ tenant, storedTenant manager recorded world tenantId = .ok (some tenant) ∧
    tenant.tenantId = tenantId ∧ tenant.tier = tier

/-- A tenant that is stored has a key that resolves. -/
theorem TierIs.resolves {tier : TenantTier} (holds : TierIs manager tenantId tier world) :
    ∃ path, resolve (tenantKey tenantId) = .ok path := by
  rcases holds DateTime.newYear with ⟨tenant, stored, -⟩
  unfold storedTenant LocalStorage.readJson at stored
  cases resolved : resolve (tenantKey tenantId) with
  | error exception =>
    rw [resolved] at stored
    cases stored
  | ok path => exact ⟨path, rfl⟩

/-- What leaves the storage alone leaves the tier alone. -/
theorem TierIs.of_storage {tier : TenantTier} (holds : TierIs manager tenantId tier world)
    {left : World} (same : left.storage = world.storage) : TierIs manager tenantId tier left := by
  intro recorded
  rcases holds recorded with ⟨tenant, stored, rest⟩
  refine ⟨tenant, ?_, rest⟩
  rw [← stored]
  exact storedTenant_congr manager recorded fun path _ => by rw [same]

/-- A tenant that is saved is stored with its tier. -/
theorem tierIs_saveTenant {path : Path} (resolved : resolve (tenantKey tenantId) = .ok path)
    {tenant : Tenant} (own : tenant.tenantId = tenantId) (answers : Answers) (world : World) :
    ∃ left, (manager.saveTenant tenant).run answers world = (.ok (), left) ∧
      TierIs manager tenantId tenant.tier left := by
  rcases @run_saveTenant manager answers tenant path (own.symm ▸ resolved) world with
    ⟨left, saved, storage⟩
  refine ⟨left, saved, fun recorded => ?_⟩
  have tier : ∀ one : Tenant, one.postInit.tier = one.tier := by
    intro one
    unfold Tenant.postInit
    split <;> rfl
  unfold storedTenant LocalStorage.readJson
  rw [resolved, storage]
  simp only [Except.map, LocalStorage.lookup_put_self, Tenants.fromDict_toDict]
  refine ⟨_, rfl, ?_, tier _⟩
  rw [Tenant.postInit_tenantId]
  exact own

/-- Updating the tier of a stored tenant updates it. -/
theorem TierIs.updateTier {tier : TenantTier} (holds : TierIs manager tenantId tier world)
    (newTier : TenantTier) (answers : Answers) :
    ∃ tenant left, (manager.updateTier tenantId newTier).run answers world =
        (.ok (some tenant), left) ∧
      tenant.tenantId = tenantId ∧ tenant.tier = newTier ∧ TierIs manager tenantId newTier left := by
  rcases holds.resolves with ⟨path, resolved⟩
  rcases holds (answers.clock .record) with ⟨tenant, stored, own, -⟩
  have owned : ({ tenant with tier := newTier, role := newTier.value } : Tenant).tenantId =
      tenantId := own
  rcases @tierIs_saveTenant manager tenantId path resolved _ owned answers world with
    ⟨left, saved, after⟩
  refine ⟨{ tenant with tier := newTier, role := newTier.value }, left, ?_, own, rfl, after⟩
  unfold TenantManager.updateTier
  rw [run_bind, run_getTenant, stored]
  dsimp only
  rw [run_bind, saved]
  rfl

end Records

namespace Commerce

variable {billing : Billing} {tenantId : String} {state : Commerce}

/-- The tier that the last delivery set. -/
def tierNow (billing : Billing) : List Applied → TenantTier
  | [] => .free
  | .bought price :: _ => billing.tierOf price
  | .deleted :: _ => .free

/-- What every run keeps: the tier is the one that was set last, and no subscription begins without
the event of its checkout, which sets a tier when it is delivered. -/
structure Kept (billing : Billing) (tenantId : String) (state : Commerce) : Prop where
  /-- The tier is the one set last. -/
  tier : TierIs billing.manager tenantId (tierNow billing state.applied) state.world
  /-- Every event names the tenant. -/
  named : ∀ event ∈ state.emitted, event.tenantId = some tenantId
  /-- Every subscription began with the event of a checkout. -/
  begun : ∀ subscription found, state.subscriptions subscription = some found →
    ∃ event ∈ state.emitted, event.type = checkoutCompleted
  /-- The delivery of such an event set a tier. -/
  applied : ∀ event ∈ state.delivered, event.type = checkoutCompleted → state.applied ≠ []

/-- What is retrieved is the price of the subscription, if anything. -/
theorem retrieve_cases (state : Commerce) (reachable : Bool) (subscription : String) :
    (∃ exception, state.retrieve reachable subscription = .error exception) ∨
      ∃ found, state.subscriptions subscription = some found ∧
        state.retrieve reachable subscription = .ok [found.price] := by
  unfold retrieve
  cases reachable with
  | false => exact Or.inl ⟨_, rfl⟩
  | true =>
    cases state.subscriptions subscription with
    | none => exact Or.inl ⟨_, rfl⟩
    | some found => exact Or.inr ⟨found, rfl, rfl⟩

/-- A completed checkout sets the tier of the price that is found, or nothing is found. -/
theorem run_completeCheckout {tier : TenantTier} {event : StripeEvent}
    (identified : tenantId ≠ "") (named : event.tenantId = some tenantId)
    (holds : TierIs billing.manager tenantId tier state.world) (reachable : Bool)
    (answers : Answers) :
    (∃ exception, (billing.completeCheckout (state.retrieve reachable) event).run answers
        state.world = (.error exception, state.world)) ∨
      ∃ found left, state.subscriptions event.subscription = some found ∧
        (billing.completeCheckout (state.retrieve reachable) event).run answers state.world =
          (.ok (), left) ∧
        TierIs billing.manager tenantId (billing.tierOf found.price) left := by
  have owner : event.tenantId.getD "" = tenantId := by rw [named, Option.getD_some]
  unfold Billing.completeCheckout
  rw [owner, if_neg identified, run_bind, run_lift]
  rcases state.retrieve_cases reachable event.subscription with
    ⟨exception, failed⟩ | ⟨found, begun, retrieved⟩
  · rw [failed]
    exact Or.inl ⟨exception, rfl⟩
  · rcases holds.updateTier (billing.tierOf found.price) answers with
      ⟨tenant, middle, updated, own, tier, after⟩
    rcases after.resolves with ⟨path, resolved⟩
    have owned : ({ tenant with stripeSubscriptionId := event.subscription } : Tenant).tenantId =
        tenantId := own
    rcases @tierIs_saveTenant billing.manager tenantId path resolved _ owned answers middle with
      ⟨left, saved, kept⟩
    refine Or.inr ⟨found, left, begun, ?_, tier ▸ kept⟩
    rw [retrieved]
    dsimp only
    rw [run_bind, updated]
    dsimp only
    exact saved

/-- A deleted subscription sets the free tier. -/
theorem run_deleteSubscription {tier : TenantTier} {event : StripeEvent} (identified : tenantId ≠ "")
    (named : event.tenantId = some tenantId) {world : World}
    (holds : TierIs billing.manager tenantId tier world) (answers : Answers) :
    ∃ left, (billing.deleteSubscription event).run answers world = (.ok (), left) ∧
      TierIs billing.manager tenantId .free left := by
  have owner : event.tenantId.getD "" = tenantId := by rw [named, Option.getD_some]
  rcases holds.updateTier .free answers with ⟨tenant, left, updated, -, -, after⟩
  refine ⟨left, ?_, after⟩
  unfold Billing.deleteSubscription
  rw [owner, if_neg identified, run_bind, updated]
  rfl

/-- What the webhook does about an event: it raises and sets nothing, or it sets the tier that the
delivery applies. -/
theorem run_applyEvent {event : StripeEvent} (identified : tenantId ≠ "")
    (named : event.tenantId = some tenantId)
    (holds : TierIs billing.manager tenantId (tierNow billing state.applied) state.world)
    (reachable : Bool) (answers : Answers) :
    (∃ exception left, (billing.applyEvent (state.retrieve reachable) event).run answers
        state.world = (.error exception, left) ∧
        TierIs billing.manager tenantId (tierNow billing state.applied) left) ∨
      ∃ left, (billing.applyEvent (state.retrieve reachable) event).run answers state.world =
          (.ok (), left) ∧
        TierIs billing.manager tenantId
          (tierNow billing (state.application event ++ state.applied)) left ∧
        (event.type = checkoutCompleted → state.application event ≠ []) := by
  unfold Billing.applyEvent application
  by_cases completed : event.type = checkoutCompleted
  · rw [if_pos completed, if_pos completed]
    rcases run_completeCheckout identified named holds reachable answers with
      ⟨exception, raised⟩ | ⟨found, left, begun, ran, after⟩
    · exact Or.inl ⟨exception, _, raised, holds⟩
    · refine Or.inr ⟨left, ran, ?_, fun _ => ?_⟩
      · rw [begun]
        exact after
      · rw [begun]
        exact List.cons_ne_nil _ _
  · rw [if_neg completed, if_neg completed]
    by_cases removed : event.type = subscriptionDeleted
    · rw [if_pos removed, if_pos removed]
      rcases run_deleteSubscription identified named holds answers with ⟨left, ran, after⟩
      exact Or.inr ⟨left, ran, after, fun is => absurd is completed⟩
    · rw [if_neg removed, if_neg removed]
      by_cases failed : event.type = paymentFailed
      · rw [if_pos failed]
        have quiet : Program.Only Action.Quiet billing.noteFailedPayment :=
          Program.Only.bind (quiet_listTenants billing.manager) fun _ => Program.Only.pure _
        have same := storage_of_quiet quiet answers state.world
        cases ran : billing.noteFailedPayment.run answers state.world with
        | mk outcome left =>
          rw [ran] at same
          cases outcome with
          | error exception => exact Or.inl ⟨exception, left, rfl, holds.of_storage same⟩
          | ok done =>
            exact Or.inr ⟨left, rfl, holds.of_storage same, fun is => absurd is completed⟩
      · rw [if_neg failed]
        exact Or.inr ⟨state.world, rfl, holds, fun is => absurd is completed⟩

/-- Finding or creating the customer of a tenant leaves its tier alone. -/
theorem tierIs_ensureCustomer {tenant : Tenant} {world : World}
    (holds : TierIs billing.manager tenantId tenant.tier world) (own : tenant.tenantId = tenantId)
    (stripe : CheckoutAnswers) (answers : Answers) :
    TierIs billing.manager tenantId tenant.tier
      ((billing.ensureCustomer stripe tenant).run answers world).2 := by
  unfold Billing.ensureCustomer
  by_cases unknown : tenant.stripeCustomerId = ""
  · rw [if_pos unknown, run_bind, run_lift]
    cases stripe.customer with
    | error exception => exact holds
    | ok customer =>
      rcases holds.resolves with ⟨path, resolved⟩
      have owned : ({ tenant with stripeCustomerId := customer } : Tenant).tenantId = tenantId := own
      rcases @tierIs_saveTenant billing.manager tenantId path resolved _ owned answers world with
        ⟨left, saved, after⟩
      dsimp only
      rw [saved]
      exact after
  · rw [if_neg unknown]
    exact holds

/-- The checkout route leaves the tier alone. -/
theorem tierIs_createCheckout {tier : TenantTier} {world : World} {claims : TokenClaims}
    (holds : TierIs billing.manager tenantId tier world) (caller : claims.tenantId = tenantId)
    (stripe : CheckoutAnswers) (body : CheckoutRequest) (answers : Answers) :
    TierIs billing.manager tenantId tier
      ((billing.createCheckout stripe claims body).run answers world).2 := by
  unfold Billing.createCheckout getCurrentTenantId
  rw [caller]
  by_cases anonymous : tenantId = ""
  · rw [if_pos anonymous]
    exact holds
  · rw [if_neg anonymous]
    dsimp only
    split
    · exact holds
    · split
      · exact holds
      · rcases holds (answers.clock .record) with ⟨tenant, stored, own, rfl⟩
        rw [run_bind, run_getTenant, stored]
        dsimp only
        have after := tierIs_ensureCustomer holds own stripe answers
        rw [run_bind]
        cases ran : (billing.ensureCustomer stripe tenant).run answers world with
        | mk outcome left =>
          rw [ran] at after
          cases outcome with
          | error exception => exact after
          | ok done =>
            dsimp only
            split
            · exact after
            · exact after
            · rw [run_bind, run_lift]
              cases stripe.session with
              | error exception => exact after
              | ok url => exact after

/-- A delivery keeps the accounts. -/
theorem Kept.deliver (kept : Kept billing tenantId state) (identified : tenantId ≠ "")
    {event : StripeEvent} (emitted : event ∈ state.emitted) (reachable : Bool)
    (answers : Answers) : Kept billing tenantId (state.deliver billing event reachable answers) := by
  unfold Commerce.deliver Billing.stripeWebhook
  by_cases unset : billing.webhookSecret = ""
  · rw [if_pos unset]
    exact ⟨kept.tier, kept.named, kept.begun, kept.applied⟩
  · rw [if_neg unset]
    dsimp only
    rw [run_bind]
    rcases run_applyEvent identified (kept.named event emitted) kept.tier reachable answers with
      ⟨exception, left, ran, tier⟩ | ⟨left, ran, tier, sets⟩
    · rw [ran]
      exact ⟨tier, kept.named, kept.begun, kept.applied⟩
    · rw [ran]
      refine ⟨tier, kept.named, kept.begun, ?_⟩
      intro other received completed none
      have nothing := List.append_eq_nil_iff.mp none
      cases List.mem_cons.mp received with
      | inl same => exact sets (same ▸ completed) nothing.1
      | inr earlier => exact kept.applied other earlier completed nothing.2

/-- What Stripe does to a subscription that exists keeps the accounts. -/
theorem Kept.emit (kept : Kept billing tenantId state) {sessions : List String}
    {subscriptions : String → Option Subscription} {type subscription : String}
    (begun : ∀ other found, subscriptions other = some found → type = checkoutCompleted ∨
      ∃ earlier, state.subscriptions other = some earlier) :
    Kept billing tenantId
      ({ state with sessions, subscriptions }.emit tenantId type subscription) := by
  refine ⟨kept.tier, List.forall_mem_cons.mpr ⟨rfl, kept.named⟩, ?_, kept.applied⟩
  intro other found is
  cases begun other found is with
  | inl completed => exact ⟨_, List.mem_cons_self, completed⟩
  | inr earlier =>
    rcases earlier with ⟨before, held⟩
    rcases kept.begun other before held with ⟨event, member, completed⟩
    exact ⟨event, List.mem_cons_of_mem _ member, completed⟩

/-- A subscription that is updated existed before. -/
theorem exists_of_update {subscription : String} {before after : Subscription}
    (held : state.subscriptions subscription = some before) {other : String} {found : Subscription}
    (is : Function.update state.subscriptions subscription (some after) other = some found) :
    ∃ earlier, state.subscriptions other = some earlier := by
  by_cases same : other = subscription
  · exact ⟨before, same ▸ held⟩
  · rw [Function.update_of_ne same] at is
    exact ⟨found, is⟩

/-- Every step keeps the accounts. -/
theorem Kept.step (kept : Kept billing tenantId state) (identified : tenantId ≠ "") {trade : Trade}
    {next : Commerce} (moved : state.step billing tenantId trade = some next) :
    Kept billing tenantId next := by
  unfold Commerce.step at moved
  cases trade with
  | checkout claims body stripe answers =>
    dsimp only at moved
    split at moved
    · rename_i caller
      have tier := tierIs_createCheckout kept.tier caller stripe body answers
      split at moved
      · rename_i ran
        cases moved
        rw [ran] at tier
        exact ⟨tier, kept.named, kept.begun, kept.applied⟩
      · rename_i ran
        cases moved
        rw [ran] at tier
        exact ⟨tier, kept.named, kept.begun, kept.applied⟩
    · cases moved
  | complete subscription price =>
    dsimp only at moved
    split at moved
    · cases moved
      exact kept.emit fun _ _ _ => Or.inl rfl
    · cases moved
  | change subscription price =>
    dsimp only at moved
    split at moved
    · rename_i held
      cases moved
      exact kept.emit fun _ _ is => Or.inr (exists_of_update held is)
    · cases moved
  | cancel subscription =>
    dsimp only at moved
    split at moved
    · rename_i held
      cases moved
      exact kept.emit fun _ _ is => Or.inr (exists_of_update held is)
    · cases moved
  | failPayment subscription =>
    cases moved
    exact kept.emit fun _ found is => Or.inr ⟨found, is⟩
  | deliver event reachable answers =>
    dsimp only at moved
    split at moved
    · rename_i emitted
      cases moved
      exact kept.deliver identified emitted reachable answers
    · cases moved

/-- Every run of a tenant that begins on the free tier keeps the accounts. -/
theorem kept_of_run (identified : tenantId ≠ "") {world : World}
    (registered : TierIs billing.manager tenantId .free world) {trades : List Trade}
    (ran : Machine.run (Commerce.step billing tenantId) { world } trades = some state) :
    Kept billing tenantId state := by
  have start : Kept billing tenantId { world } :=
    ⟨registered, fun _ inside => absurd inside List.not_mem_nil, (fun _ _ is => nomatch is),
      fun _ inside => absurd inside List.not_mem_nil⟩
  exact Machine.run_invariant (Kept billing tenantId)
    (fun _ _ _ held moved => held.step identified moved) start ran

/-- With the accounts kept and every event delivered, the last delivery that set the tier decides. -/
theorem Kept.tierAgrees_iff (kept : Kept billing tenantId state) (delivered : state.AllDelivered)
    (recorded : DateTime) :
    state.TierAgrees billing tenantId recorded ↔ state.LastIsCurrent billing := by
  rcases kept.tier recorded with ⟨tenant, stored, -, tier⟩
  have agrees : state.TierAgrees billing tenantId recorded ↔
      (state.Subscribed billing tenant.tier ∨ state.Lapsed ∧ tenant.tier = .free) := by
    constructor
    · rintro ⟨other, again, holds⟩
      rw [stored] at again
      cases again
      exact holds
    · exact fun holds => ⟨tenant, stored, holds⟩
  have paid : ¬ state.Subscribed billing .free := by
    rintro ⟨subscription, found, -, -, free⟩
    exact billing.tierOf_ne_free found.price free
  rw [agrees, tier]
  unfold LastIsCurrent
  cases last : state.applied with
  | nil =>
    have lapsed : state.Lapsed := by
      intro subscription found is
      rcases kept.begun subscription found is with ⟨event, member, completed⟩
      exact absurd last (kept.applied event (delivered event member) completed)
    simp [tierNow, lapsed]
  | cons first rest =>
    cases first with
    | bought price =>
      have never : billing.tierOf price ≠ .free := billing.tierOf_ne_free price
      simp [tierNow, never]
    | deleted => simp [tierNow, paid]

/-- Once every event has been delivered, the tier agrees with the subscriptions exactly when the last
delivery that set it is still right. -/
theorem tierAgrees_iff_lastIsCurrent (billing : Billing) {tenantId : String}
    (identified : tenantId ≠ "") {world : World}
    (registered : TierIs billing.manager tenantId .free world) {trades : List Trade}
    {state : Commerce}
    (ran : Machine.run (Commerce.step billing tenantId) { world } trades = some state)
    (delivered : state.AllDelivered) (recorded : DateTime) :
    state.TierAgrees billing tenantId recorded ↔ state.LastIsCurrent billing :=
  (kept_of_run identified registered ran).tierAgrees_iff delivered recorded

section Sample

/-- Billing with three prices. -/
def sampleBilling : Billing where
  manager := sampleWorker.tenantMgr
  secretKey := "sk"
  webhookSecret := "whsec"
  priceStandard := "price_1"
  pricePremium := "price_2"
  priceVip := "price_3"
  urlparse _ := (some "app.velaflow.com", "https")

/-- The sample tenant on the free tier. -/
def freeTenant : Tenant := { sampleTenant with tier := .free, role := "free" }

/-- Its record is stored on that tier. -/
theorem tierIs_freeTenant : TierIs sampleBilling.manager "tn_a" .free (storedWorld freeTenant) :=
  fun recorded => ⟨freeTenant, storedTenant_storedWorld freeTenant rfl rfl recorded, rfl, rfl⟩

/-- The tenant opens a checkout for a tier. -/
def opens (tier : String) : Trade :=
  .checkout { tenantId := "tn_a", role := "free", email := "a@a" } { tier }
    ⟨.ok "cus_1", .ok "https://stripe"⟩ (sampleAnswers dayOne)

/-- The delivery of an event of a subscription. -/
def delivers (eventId : Nat) (type subscription : String) : Trade :=
  .deliver ⟨eventId, type, some "tn_a", subscription⟩ true (sampleAnswers dayOne)

/-- A tier is bought, and the event is delivered. -/
def purchase : List Trade :=
  [opens "vip", .complete "sub_1" "price_3", delivers 0 checkoutCompleted "sub_1"]

/-- A tier is bought, a better one too, the first is cancelled, and the events are delivered in the
order in which they happened. -/
def replacement : List Trade :=
  [opens "standard", .complete "sub_1" "price_1", delivers 0 checkoutCompleted "sub_1",
   opens "vip", .complete "sub_2" "price_3", delivers 1 checkoutCompleted "sub_2",
   .cancel "sub_1", delivers 2 subscriptionDeleted "sub_1"]

/-- What a run of the sample comes to. -/
def sampleRun (trades : List Trade) : Option Commerce :=
  Machine.run (Commerce.step sampleBilling "tn_a") { world := storedWorld freeTenant } trades

/-- What is read of a run: whether all was delivered, what was applied, and two subscriptions. -/
def reading (state : Commerce) : Bool × List Applied × Option Subscription × Option Subscription :=
  (decide state.AllDelivered, state.applied, state.subscriptions "sub_1", state.subscriptions "sub_2")

/-- After a purchase the tenant has the tier that it bought. -/
theorem purchase_agrees : ∃ state, sampleRun purchase = some state ∧
    state.TierAgrees sampleBilling "tn_a" dayOne := by
  have read : (sampleRun purchase).map reading =
      some (true, [.bought "price_3"], some ⟨"price_3", true⟩, none) := by decide +kernel
  rcases Option.map_eq_some_iff.mp read with ⟨state, ran, same⟩
  have delivered := congrArg Prod.fst same
  have applied := congrArg (fun all => all.2.1) same
  have held := congrArg (fun all => all.2.2.1) same
  refine ⟨state, ran, (tierAgrees_iff_lastIsCurrent sampleBilling (by decide) tierIs_freeTenant ran
    (of_decide_eq_true delivered) dayOne).mpr ?_⟩
  intro last is
  have first : state.applied.head? = some (.bought "price_3") := congrArg List.head? applied
  rw [first] at is
  cases is
  exact ⟨"sub_1", _, held, rfl, rfl⟩

/-- After a replacement the tenant is on the free tier, with a subscription that is active. -/
theorem replacement_disagrees : ¬ ∀ state, sampleRun replacement = some state →
    state.AllDelivered → state.TierAgrees sampleBilling "tn_a" dayOne := by
  have read : (sampleRun replacement).map reading =
      some (true, [.deleted, .bought "price_3", .bought "price_1"], some ⟨"price_1", false⟩,
        some ⟨"price_3", true⟩) := by decide +kernel
  rcases Option.map_eq_some_iff.mp read with ⟨state, ran, same⟩
  have delivered : state.AllDelivered := of_decide_eq_true (congrArg Prod.fst same)
  have applied := congrArg (fun all => all.2.1) same
  have held := congrArg (fun all => all.2.2.2) same
  intro agrees
  have kept := kept_of_run (by decide) tierIs_freeTenant ran
  have current := (kept.tierAgrees_iff delivered dayOne).mp (agrees state ran delivered)
  have first : state.applied.head? = some .deleted := congrArg List.head? applied
  have lapsed : state.Lapsed := current .deleted first
  exact absurd (lapsed "sub_2" _ held) (by decide)

end Sample

end Commerce

end VelaFlow.Api
