import VelaFlow.Api.Auth

/-!
# The billing routes

The checkout route and the Stripe webhook of `api/routes/billing.py`. What Stripe answers to a call
is given from outside, and an event stands for what `construct_event` returns of a request that is
signed. Logging is left out.
-/
namespace VelaFlow.Api

open Process Tenants

/-- What the billing routes are configured with. -/
structure Billing where
  /-- The tenant manager. -/
  manager : TenantManager
  /-- `_STRIPE_SECRET_KEY`. -/
  secretKey : String
  /-- `_STRIPE_WEBHOOK_SECRET`. -/
  webhookSecret : String
  /-- `_STRIPE_PRICE_IDS["standard"]`. -/
  priceStandard : String
  /-- `_STRIPE_PRICE_IDS["premium"]`. -/
  pricePremium : String
  /-- `_STRIPE_PRICE_IDS["vip"]`. -/
  priceVip : String
  /-- The host name and the scheme that `urlparse` finds. -/
  urlparse : String → Option String × String

/-- The fields of a verified event that the webhook reads. -/
structure StripeEvent where
  /-- `id`, by which Stripe tells events apart. -/
  eventId : Nat
  /-- `type`. -/
  type : String
  /-- `velaflow_tenant_id` in the metadata of the object. -/
  tenantId : Option String
  /-- `subscription` of the object. -/
  subscription : String := ""
  deriving DecidableEq

/-- `"checkout.session.completed"`. -/
def checkoutCompleted : String := "checkout.session.completed"

/-- `"customer.subscription.deleted"`. -/
def subscriptionDeleted : String := "customer.subscription.deleted"

/-- `"invoice.payment_failed"`. -/
def paymentFailed : String := "invoice.payment_failed"

/-- `CheckoutRequest`. -/
structure CheckoutRequest where
  /-- `tier`. -/
  tier : String
  /-- `success_url`. -/
  successUrl : String := "https://app.velaflow.com/dashboard?upgraded=true"
  /-- `cancel_url`. -/
  cancelUrl : String := "https://app.velaflow.com/dashboard?upgraded=false"

/-- What Stripe answers to the calls of `create_checkout`. -/
structure CheckoutAnswers where
  /-- The id of a new customer. -/
  customer : Except PyException String
  /-- The URL of a new session. -/
  session : Except PyException String

namespace Billing

variable (billing : Billing)

/-- `_STRIPE_PRICE_IDS`. -/
def priceIds : List (TenantTier × String) :=
  [(.standard, billing.priceStandard), (.premium, billing.pricePremium), (.vip, billing.priceVip)]

/-- `TenantTier(tier_map.get(price_id, "standard"))`: of two tiers with one price, the map keeps the
later. -/
def tierOf (priceId : String) : TenantTier :=
  match billing.priceIds.reverse.find? fun entry =>
    decide (entry.2 ≠ "") && decide (entry.2 = priceId) with
  | some (tier, _) => tier
  | none => .standard

/-- `_ALLOWED_REDIRECT_HOSTS`. -/
def allowedRedirectHosts : List String := ["app.velaflow.com", "localhost"]

/-- `_validate_redirect_url`. -/
def validateRedirectUrl (url : String) : Reply String :=
  let parsed := billing.urlparse url
  if allowedRedirectHosts.contains (parsed.1.getD "") = false then
    .error ⟨400, "Redirect URL host not allowed"⟩
  else if parsed.2 ≠ "https" ∧ parsed.2 ≠ "http" then
    .error ⟨400, "Only HTTP(S) redirect URLs allowed"⟩
  else .ok url

/-- The customer of a tenant, which `create_checkout` creates and saves when there is none. -/
def ensureCustomer (stripe : CheckoutAnswers) (tenant : Tenant) : Routine Unit :=
  if tenant.stripeCustomerId = "" then do
    let customer ← pureOf stripe.customer
    billing.manager.saveTenant { tenant with stripeCustomerId := customer }
  else pure ()

/-- `create_checkout`: the price of the session that is opened, and its URL. -/
def createCheckout (stripe : CheckoutAnswers) (claims : TokenClaims) (body : CheckoutRequest) :
    Routine (Reply (String × String)) :=
  match getCurrentTenantId claims with
  | .error refusal => pure (.error refusal)
  | .ok tenantId =>
    match billing.priceIds.find? fun entry => decide (entry.1.value = body.tier) with
    | none => pure (.error ⟨400, "Invalid tier: " ++ body.tier⟩)
    | some (_, priceId) =>
      if priceId = "" ∨ billing.secretKey = "" then pure (.error ⟨503, "Billing not configured"⟩)
      else do
        match ← billing.manager.getTenant tenantId with
        | none => pure (.error ⟨404, "Tenant not found"⟩)
        | some tenant =>
          billing.ensureCustomer stripe tenant
          match billing.validateRedirectUrl body.successUrl,
            billing.validateRedirectUrl body.cancelUrl with
          | .error refusal, _ | .ok _, .error refusal => pure (.error refusal)
          | .ok _, .ok _ =>
            let url ← pureOf stripe.session
            pure (.ok (priceId, url))

/-- The branch of a completed checkout, with the prices of the items that
`stripe.Subscription.retrieve` finds. -/
def completeCheckout (retrieve : String → Except PyException (List String)) (event : StripeEvent) :
    Routine Unit :=
  if event.tenantId.getD "" = "" then pure ()
  else do
    match ← pureOf (retrieve event.subscription) with
    | [] => pure ()
    | priceId :: _ =>
      match ← billing.manager.updateTier (event.tenantId.getD "") (billing.tierOf priceId) with
      | none => pure ()
      | some tenant =>
        billing.manager.saveTenant { tenant with stripeSubscriptionId := event.subscription }

/-- The branch of a deleted subscription. -/
def deleteSubscription (event : StripeEvent) : Routine Unit :=
  if event.tenantId.getD "" = "" then pure ()
  else do
    let _ ← billing.manager.updateTier (event.tenantId.getD "") .free
    pure ()

/-- The branch of a failed payment, which lists the tenants and logs. -/
def noteFailedPayment : Routine Unit := do
  let _ ← billing.manager.listTenants
  pure ()

/-- What `stripe_webhook` does about an event. -/
def applyEvent (retrieve : String → Except PyException (List String)) (event : StripeEvent) :
    Routine Unit :=
  if event.type = checkoutCompleted then billing.completeCheckout retrieve event
  else if event.type = subscriptionDeleted then billing.deleteSubscription event
  else if event.type = paymentFailed then billing.noteFailedPayment
  else pure ()

/-- `stripe_webhook`, with the event of a request, or none when its signature does not verify. -/
def stripeWebhook (retrieve : String → Except PyException (List String))
    (event : Option StripeEvent) : Routine (Reply Unit) :=
  if billing.webhookSecret = "" then pure (.error ⟨503, "Stripe webhooks not configured"⟩)
  else
    match event with
    | none => pure (.error ⟨400, "Invalid webhook signature"⟩)
    | some event => do
      billing.applyEvent retrieve event
      pure (.ok ())

/-- A price is never that of the free tier. -/
theorem tierOf_ne_free (priceId : String) : billing.tierOf priceId ≠ .free := by
  unfold tierOf
  cases found : billing.priceIds.reverse.find? fun entry =>
      decide (entry.2 ≠ "") && decide (entry.2 = priceId) with
  | none =>
    intro same
    cases same
  | some entry =>
    have member : entry ∈ billing.priceIds :=
      List.mem_reverse.mp (List.mem_of_find?_eq_some found)
    have paid : ∀ other ∈ billing.priceIds, other.1 ≠ .free := by
      intro other inside
      simp only [priceIds, List.mem_cons, List.not_mem_nil, or_false] at inside
      rcases inside with rfl | rfl | rfl <;> exact TenantTier.noConfusion
    exact paid entry member

end Billing

end VelaFlow.Api
