import VelaFlow.Api.Billing
import VelaFlow.Foundation.Transactions
import VelaFlow.Process.Directories
import VelaFlow.Queue.WorkerRuns
import VelaFlow.Tenant.RecordUpdates

/-!
# Writers of a tenant's record

Requests that read a tenant's whole record, change some of its fields and write it back, side by
side and without a lock. One that writes after another has written what it read takes the other's
change back: a deactivated tenant is active again. Where none does, and none reads the record
between the two writes of a webhook, the record ends as the requests leave it one after the other.
-/
namespace VelaFlow.Api

open Process Program Program.SharedCell Tenants Storage

/-- A request that writes a tenant's record. -/
inductive TenantRequest where
  /-- `update_tier`. -/
  | tier (newTier : TenantTier)
  /-- `update_config`. -/
  | config (update : ConfigUpdate)
  /-- `bind_owner_sub`. -/
  | bind (googleSub : String)
  /-- `deactivate_tenant`. -/
  | deactivate
  /-- `create_checkout`. -/
  | checkout (stripe : CheckoutAnswers) (claims : TokenClaims) (body : CheckoutRequest)
  /-- `stripe_webhook`. -/
  | webhook (retrieve : String → Except PyException (List String)) (event : Option StripeEvent)

namespace TenantRequest

/-- What a request does. -/
def program (billing : Billing) (tenantId : String) : TenantRequest → Routine Unit
  | tier newTier => do
    let _ ← billing.manager.updateTier tenantId newTier
    pure ()
  | config update => do
    let _ ← billing.manager.updateConfig tenantId update
    pure ()
  | bind googleSub => do
    let _ ← billing.manager.bindOwnerSub tenantId googleSub
    pure ()
  | deactivate => do
    let _ ← billing.manager.deactivateTenant tenantId
    pure ()
  | checkout stripe claims body => do
    let _ ← billing.createCheckout stripe claims body
    pure ()
  | webhook retrieve event => do
    let _ ← billing.stripeWebhook retrieve event
    pure ()

end TenantRequest

/-- A tenant has an id, and its activity and its owner are good. -/
def IsGood (good : Bool → String → Prop) (tenantId : String) (tenant : Tenant) : Prop :=
  tenant.tenantId = tenantId ∧ good tenant.isActive tenant.ownerGoogleSub

/-- A record stands when whatever is read from it is the tenant, and good. -/
def Stands (encryptor : Security.FieldEncryptor) (good : Bool → String → Prop) (tenantId : String)
    (data : Dict) : Prop :=
  ∀ time tenant, fromDict encryptor time data = .ok tenant → IsGood good tenantId tenant

section Cell

variable (encryptor : Security.FieldEncryptor) (good : Bool → String → Prop) (tenantId : String)
  (path : Path)

variable {encryptor good tenantId path} {ι : Type} (answers : ι → Answers)

end Cell

section Transactions

variable {good : Bool → String → Prop} {tenantId : String} {path : Path} {ι : Type}
  {answers : ι → Answers} (manager : TenantManager)

variable (billing : Billing)

end Transactions

section Requests

/-- The tenant is inactive. -/
def inactive : Bool → String → Prop := fun isActive _ => isActive = false

/-- The world after requests that run one after the other. -/
def inOrder {ι : Type} (billing : Billing) (tenantId : String) (requests : ι → TenantRequest)
    (answers : ι → Answers) (order : List ι) (world : World) : World :=
  order.foldl (fun world i => (((requests i).program billing tenantId).run (answers i) world).2)
    world

variable {ι : Type} {billing : Billing} {tenantId : String} {path : Path}
  {requests : ι → TenantRequest} {answers : ι → Answers}

end Requests

section Sample

open Queue

end Sample

end VelaFlow.Api
