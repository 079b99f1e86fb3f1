import VelaFlow.Api.RagRoutes
import VelaFlow.Foundation.Machine

/-!
# The gate of the RAG store

Documents come in through the ingestion route and through messages, while tiers change. The route
asks for the permission that the token carries and for no quota. The handler asks for the tier that
is stored, and its quota lets a tier in that the permission keeps out. So what holds of the table
rests on who ingests, and on how many documents the tenant has then.
-/
namespace VelaFlow.Api

open Process Queue Security Tenants Rag
open Program (Only)

/-- Whether a tier has `USE_RAG`. -/
def usesRag (tier : TenantTier) : Bool := (tierRoles tier.value).contains .useRag

/-- The two places that give a tier its document quota. -/
inductive QuotaTable where
  /-- `_DOC_QUOTA_BY_TIER` of the route. -/
  | route
  /-- `TenantQuota.for_tier`. -/
  | tenant

/-- The document quota of a tier. -/
def QuotaTable.quota : QuotaTable → TenantTier → Nat
  | .route, tier => tenantQuota tier.value
  | .tenant, tier => (TenantQuota.forTier tier).maxRagDocuments

/-- The world, with the tier that was stored of the tenant at each document stored. -/
structure RagState where
  /-- The world. -/
  world : World
  /-- The documents stored, by tenant and tier, the last one first. -/
  ingests : List (String × TenantTier) := []

/-- A step on the store or on a tier. -/
inductive RagStep where
  /-- A request to the ingestion route. -/
  | ingest (claims : TokenClaims) (body : IngestRequest) (answers : Answers)
  /-- A request to the deletion route. -/
  | delete (claims : TokenClaims) (documentId : String) (answers : Answers)
  /-- A `RAG_QUERY` message. -/
  | message (message : QueueMessage) (answers : Answers)
  /-- A change of a tier. -/
  | changeTier (tenantId : String) (tier : TenantTier) (answers : Answers)

namespace RagService

variable (service : RagService)

/-- The answers with the pipeline's own for an action. -/
def ragAnswers (pipeline : RAGPipeline ℚ) (answers : Answers) : Action → Answers
  | .ragIngest tenantId text documentId metadata maxDocuments =>
    { answers with
      ragIngest := service.library.ingest pipeline tenantId text documentId metadata maxDocuments }
  | .ragDelete tenantId documentId =>
    { answers with ragDelete := service.library.deleteDocument tenantId documentId }
  | _ => answers

/-- What is noted of an action: the tenant of a document stored, with its tier. -/
def noted (answers : Answers) (world : World) :
    (action : Action) → Except PyException action.Answer → List (String × TenantTier)
  | .ragIngest tenantId _ _ _ _, .ok _ =>
    match storedTenant service.manager (answers.clock .record) world tenantId with
    | .ok (some tenant) => [(tenantId, tenant.tier)]
    | _ => []
  | _, _ => []

/-- What an action answers over a pipeline, and the state it leaves. -/
def respond (pipeline : RAGPipeline ℚ) (answers : Answers) (action : Action) (state : RagState) :
    Except PyException action.Answer × RagState :=
  let answered := World.respond (service.ragAnswers pipeline answers action) action state.world
  (answered.1, ⟨answered.2, service.noted answers state.world action answered.1 ++ state.ingests⟩)

/-- The state after a routine over a pipeline. -/
def after {α : Type} (pipeline : RAGPipeline ℚ) (answers : Answers) (routine : Routine α)
    (state : RagState) : RagState :=
  (Program.run (service.respond pipeline answers) routine state).2

/-- One step. -/
def step (state : RagState) : RagStep → RagState
  | .ingest claims body answers =>
    service.after service.pipeline answers (service.ingestDocument claims body) state
  | .delete claims documentId answers =>
    service.after service.pipeline answers (service.deleteDocument claims documentId) state
  | .message message answers =>
    service.after service.workerPipeline answers (handleRagQuery service.worker message) state
  | .changeTier tenantId tier answers =>
    service.after service.pipeline answers (service.manager.updateTier tenantId tier) state

/-- Every document was stored of a tier that has `USE_RAG`. -/
def Gated (state : RagState) : Prop := ∀ entry ∈ state.ingests, usesRag entry.2 = true

/-- A document may be stored: of a tenant that is stored, the tier has `USE_RAG`, and there is room
for the document, or the tenant has it. -/
def MayStore (table : QuotaTable) (answers : Answers) (world : World)
    (tenantId documentId : String) : Prop :=
  (∀ tenant, storedTenant service.manager (answers.clock .record) world tenantId =
      .ok (some tenant) → usesRag tenant.tier = true) ∧
  (world.chunks.HasDocument tenantId documentId ∨
    world.chunks.countDocuments tenantId < table.quota .vip)

/-- What a step that gets past the checks of the source has to meet: the document may be stored. -/
def Careful (table : QuotaTable) (state : RagState) : RagStep → Prop
  | .ingest claims body answers =>
    service.policy.checkAccess claims.role claims.userRole .useRag = true →
    service.MayStore table answers state.world claims.tenantId body.documentId
  | .message message answers =>
    match ragRequest message.payload with
    | .ingest => ∀ tenant documentId,
      storedTenant service.manager (answers.clock .record) state.world message.tenantId =
        .ok (some tenant) →
      tenant.demoExpired (answers.clock .expiry) = false →
      tenant.quota.ragEnabled = true →
      RAGPipeline.admits state.world.chunks message.tenantId tenant.quota.maxRagDocuments = true →
      service.library.storedName (message.payload.getD "document_id" (.str "")) = .ok documentId →
      service.MayStore table answers state.world message.tenantId documentId
    | _ => True
  | _ => True

/-- What every step keeps: the gate, and the quota of the best tier for every tenant. -/
structure Kept (table : QuotaTable) (state : RagState) : Prop where
  /-- The gate. -/
  gated : Gated state
  /-- The bound. -/
  bounded : ∀ tenantId, state.world.chunks.countDocuments tenantId ≤ table.quota .vip

/-- An action that ingests nothing. -/
def ingestsNothing : Action → Prop
  | .ragIngest _ _ _ _ _ => False
  | _ => True

section Actions

variable {service} {table : QuotaTable} {pipeline : RAGPipeline ℚ} {answers : Answers}
  {state : RagState}

/-- Deleting a document, whatever names it, gives no tenant a document. -/
theorem countDocuments_delete_le (tenantId : String) (documentId : Json) (store : VectorStore ℚ)
    (other : String) :
    (service.library.deleteDocument tenantId documentId store).2.countDocuments other ≤
      store.countDocuments other := by
  unfold RagLibrary.deleteDocument
  split
  · exact VectorStore.countDocuments_deleteDocument_le store tenantId _ other
  · exact le_refl _
  · split
    · exact le_refl _
    · exact VectorStore.countDocuments_deleteDocument_le store tenantId _ other

variable (service pipeline answers state) in
/-- An action that ingests nothing is not noted, and gives no tenant a document. -/
theorem respond_of_ingestsNothing {action : Action} (nothing : ingestsNothing action) :
    (service.respond pipeline answers action state).2.ingests = state.ingests ∧
      ∀ tenantId, (service.respond pipeline answers action state).2.world.chunks.countDocuments
        tenantId ≤ state.world.chunks.countDocuments tenantId := by
  cases action with
  | ragIngest tenantId text documentId metadata maxDocuments => exact nothing.elim
  | ragDelete tenantId documentId =>
    exact ⟨rfl, countDocuments_delete_le tenantId documentId state.world.chunks⟩
  | writeJson key data =>
    refine ⟨rfl, fun tenantId => ?_⟩
    show (World.writeJson state.world key data).2.chunks.countDocuments tenantId ≤ _
    unfold World.writeJson
    split <;> exact le_refl _
  | delete key =>
    refine ⟨rfl, fun tenantId => ?_⟩
    show (World.deleteKey state.world key).2.chunks.countDocuments tenantId ≤ _
    unfold World.deleteKey
    split <;> exact le_refl _
  | checkQuota owner usageType limit today =>
    refine ⟨rfl, fun tenantId => ?_⟩
    obtain ⟨dailyUsage, same⟩ :=
      World.checkQuota_frame state.world owner usageType limit today
    show (World.checkQuota state.world owner usageType limit today).2.chunks.countDocuments
      tenantId ≤ _
    rw [same]
  | _ => exact ⟨rfl, fun tenantId => le_refl _⟩

/-- An action that ingests nothing keeps what is kept. -/
theorem Kept.respond (kept : Kept table state) {action : Action} (nothing : ingestsNothing action) :
    Kept table (service.respond pipeline answers action state).2 := by
  obtain ⟨same, fewer⟩ := service.respond_of_ingestsNothing pipeline answers state nothing
  constructor
  · unfold Gated
    rw [same]
    exact kept.gated
  · exact fun tenantId => le_trans (fewer tenantId) (kept.bounded tenantId)

/-- A routine that ingests nothing keeps what is kept. -/
theorem Kept.after {α : Type} {routine : Routine α} (kept : Kept table state)
    (nothing : Only ingestsNothing routine) :
    Kept table (service.after pipeline answers routine state) := by
  have step : ∀ action left, Kept table left → ingestsNothing action →
      Kept table (service.respond pipeline answers action left).2 :=
    fun action left held allowed => held.respond allowed
  exact Only.run (Kept table) step nothing kept

/-- What is kept by the first part of a sequence and ingested by no rest is kept. -/
theorem Kept.bind {α β : Type} {first : Routine α} {rest : α → Routine β}
    (kept : Kept table (service.after pipeline answers first state))
    (nothing : ∀ value, Only ingestsNothing (rest value)) :
    Kept table (service.after pipeline answers (first >>= rest) state) := by
  unfold RagService.after at kept ⊢
  rw [Program.run_bind]
  cases ended : Program.run (service.respond pipeline answers) first state with
  | mk outcome left =>
    rw [ended] at kept
    cases outcome with
    | ok value => exact kept.after (nothing value)
    | error exception => exact kept

/-- What is kept by a guarded routine and ingested by no handler is kept. -/
theorem Kept.tryCatch {α : Type} {first : Routine α} {rest : PyException → Routine α}
    (kept : Kept table (service.after pipeline answers first state))
    (nothing : ∀ exception, Only ingestsNothing (rest exception)) :
    Kept table (service.after pipeline answers (Program.tryCatch first rest) state) := by
  unfold RagService.after at kept ⊢
  rw [Program.run_tryCatch]
  cases ended : Program.run (service.respond pipeline answers) first state with
  | mk outcome left =>
    rw [ended] at kept
    cases outcome with
    | ok value => exact kept
    | error exception => exact kept.after (nothing exception)

/-- An ingest keeps what is kept when, admitted, the document may be stored. -/
theorem Kept.ragIngest (kept : Kept table state) {tenantId : String}
    {text documentId metadata : Json} {maxDocuments : Nat}
    (may : ∀ name, RAGPipeline.admits state.world.chunks tenantId maxDocuments = true →
      service.library.storedName documentId = .ok name →
      service.MayStore table answers state.world tenantId name) :
    Kept table (service.after pipeline answers
      (ragIngest tenantId text documentId metadata maxDocuments) state) := by
  unfold RagService.after Process.ragIngest
  rw [Program.run_act]
  have unchanged : ∀ exception, service.library.ingest pipeline tenantId text documentId metadata
      maxDocuments state.world.chunks = (.error exception, state.world.chunks) →
      Kept table (service.respond pipeline answers
        (.ragIngest tenantId text documentId metadata maxDocuments) state).2 := by
    intro exception refused
    simp only [RagService.respond, World.respond, ragAnswers, refused, noted, List.nil_append]
    exact ⟨kept.gated, kept.bounded⟩
  by_cases admitted : RAGPipeline.admits state.world.chunks tenantId maxDocuments = true
  case neg =>
    apply unchanged
    rw [RagLibrary.ingest, if_neg admitted]
  case pos =>
  cases made : service.library.rows pipeline tenantId text documentId metadata with
  | error exception =>
    apply unchanged
    rw [RagLibrary.ingest, if_pos admitted, made]
  | ok chunks =>
    obtain ⟨name, named, own⟩ := service.library.own_of_rows made
    obtain ⟨allowed, room⟩ := may name admitted named
    have ingested : service.library.ingest pipeline tenantId text documentId metadata maxDocuments
        state.world.chunks = (.ok (state.world.chunks.storeChunks chunks).2,
          (state.world.chunks.storeChunks chunks).1) := by
      rw [RagLibrary.ingest, if_pos admitted, made]
    simp only [RagService.respond, World.respond, ragAnswers, ingested, noted]
    constructor
    · intro entry member
      cases List.mem_append.mp member with
      | inr before => exact kept.gated entry before
      | inl new =>
        split at new
        · rename_i tenant stored
          rw [List.mem_singleton.mp new]
          exact allowed tenant stored
        · cases new
    · intro other
      show (state.world.chunks.storeChunks chunks).1.countDocuments other ≤ _
      by_cases same : tenantId = other
      · subst same
        cases room with
        | inl has =>
          exact le_trans (VectorStore.countDocuments_storeChunks_of_has own has)
            (kept.bounded tenantId)
        | inr below =>
          have more : (state.world.chunks.storeChunks chunks).1.countDocuments tenantId ≤
              state.world.chunks.countDocuments tenantId + 1 :=
            VectorStore.countDocuments_storeChunks_le_succ own
          omega
      · exact le_trans (VectorStore.countDocuments_storeChunks_of_ne own same)
          (kept.bounded other)

/-- An action that only reads the storage or the clock. -/
def readsOnly : Action → Prop
  | .readJson _ | .now _ => True
  | _ => False

/-- A routine that only reads comes to the same over any pipeline, and leaves the state alone. -/
theorem run_of_readsOnly {α : Type} {routine : Routine α} (reads : Only readsOnly routine) :
    Program.run (service.respond pipeline answers) routine state =
      ((routine.run answers state.world).1, state) := by
  induction routine with
  | done value => rfl
  | raise exception => rfl
  | perform action next ih =>
    have later : ∀ answer, Only readsOnly (next answer) := fun answer => reads.2 answer trivial
    cases action with
    | readJson key => exact ih _ (later _)
    | now site => exact ih _ (later _)
    | _ => exact reads.1.elim

/-- Looking a tenant up only reads. -/
theorem readsOnly_getTenant (manager : TenantManager) (tenantId : String) :
    Only readsOnly (manager.getTenant tenantId) := by
  unfold TenantManager.getTenant
  refine Only.bind (Only.act trivial) fun data => ?_
  cases data with
  | none => exact Only.pure none
  | some data =>
    exact Only.bind (Only.act trivial) fun time => Only.bind (Only.lift _) fun _ => Only.pure _

/-- The expiry check only reads. -/
theorem readsOnly_isDemoExpired (tenant : Tenant) : Only readsOnly (isDemoExpired tenant) := by
  unfold isDemoExpired
  split
  · split
    · exact Only.pure false
    · exact Only.bind (Only.act trivial) fun time => Only.pure _
  · exact Only.pure false

variable (service) in
/-- The lookup of the role only reads. -/
theorem readsOnly_currentRole (tenantId : String) :
    Only readsOnly (service.currentRoleForQuota tenantId) := by
  unfold currentRoleForQuota
  refine Only.tryCatch (Only.bind (readsOnly_getTenant _ tenantId) fun found => ?_) fun _ =>
    Only.pure _
  cases found with
  | none => exact Only.pure _
  | some tenant => exact Only.pure _

/-- What only reads ingests nothing. -/
theorem ingestsNothing_of_readsOnly {α : Type} {routine : Routine α}
    (reads : Only readsOnly routine) : Only ingestsNothing routine := by
  refine Only.weaken (fun action read => ?_) reads
  cases action with
  | ragIngest tenantId text documentId metadata maxDocuments => exact read.elim
  | _ => trivial

end Actions

section Steps

variable {service} {table : QuotaTable} {answers : Answers} {state : RagState}

/-- A request to the ingestion route keeps what is kept when its document may be stored. -/
theorem Kept.ingestDocument (kept : Kept table state) {claims : TokenClaims} {body : IngestRequest}
    (careful : service.Careful table state (.ingest claims body answers)) :
    Kept table (service.step state (.ingest claims body answers)) := by
  show Kept table (service.after service.pipeline answers (service.ingestDocument claims body) state)
  unfold RagService.ingestDocument requirePermission getCurrentTenantId
  by_cases permitted : service.policy.checkAccess claims.role claims.userRole .useRag = true
  case neg =>
    rw [if_neg permitted]
    exact kept
  case pos =>
  by_cases unnamed : claims.tenantId = ""
  case pos =>
    rw [if_pos permitted, if_pos unnamed]
    exact kept
  case neg =>
  rw [if_pos permitted, if_neg unnamed]
  dsimp only
  unfold RagService.after
  rw [Program.run_bind, run_of_readsOnly (service.readsOnly_currentRole claims.tenantId)]
  obtain ⟨role, ran, -⟩ := service.tenantQuota_currentRole answers state.world claims.tenantId
  rw [ran]
  apply Kept.tryCatch
  · apply Kept.bind
    · apply kept.ragIngest
      intro name _ named
      cases named
      exact careful permitted
    · exact fun stored => Only.pure _
  · intro exception
    cases exception with
    | permissionError text => exact Only.pure _
    | valueError text => exact Only.pure _
    | _ => exact Only.raise _

/-- A request to the deletion route keeps what is kept. -/
theorem Kept.deleteDocument (kept : Kept table state) (claims : TokenClaims)
    (documentId : String) :
    Kept table (service.step state (.delete claims documentId answers)) := by
  apply kept.after
  unfold RagService.deleteDocument
  split
  · exact Only.pure _
  · exact Only.pure _
  · exact Only.bind (Only.act trivial) fun deleted => Only.pure _

/-- A change of a tier keeps what is kept. -/
theorem Kept.changeTier (kept : Kept table state) (tenantId : String) (tier : TenantTier) :
    Kept table (service.step state (.changeTier tenantId tier answers)) := by
  apply kept.after
  unfold TenantManager.updateTier
  refine Only.bind (ingestsNothing_of_readsOnly (readsOnly_getTenant _ tenantId)) fun found => ?_
  cases found with
  | none => exact Only.pure none
  | some tenant =>
    refine Only.bind ?_ fun _ => Only.pure _
    exact Only.bind (Only.act trivial) fun nonce => Only.act trivial

/-- The work on a query ingests nothing. -/
theorem ingestsNothing_query (message : QueueMessage) (tenant : Tenant) :
    Only ingestsNothing (do
      let topK ← pureOf (ragTopK message.payload)
      withinQuota message tenant .llmCall ragQuotaResult (ragQueryWork message topK)) := by
  refine Only.bind (Only.lift _) fun topK => ?_
  have checks : Only ingestsNothing (checkQuota tenant .llmCall) :=
    Only.bind (Only.act trivial) fun time => Only.act trivial
  refine Only.bind checks fun admitted => ?_
  cases admitted with
  | false => exact Only.act trivial
  | true =>
    refine Only.bind (Only.act trivial) fun results => Only.bind ?_ fun _ => Only.act trivial
    refine Only.bind (Only.act trivial) fun usage => ?_
    cases usage with
    | none => exact Only.pure ()
    | some usage => exact Only.act trivial

/-- What a message asks for keeps what is kept when a document that is ingested may be stored. -/
theorem Kept.ragAction (kept : Kept table state) {message : QueueMessage} {tenant : Tenant}
    (may : ragRequest message.payload = .ingest → ∀ documentId,
      RAGPipeline.admits state.world.chunks message.tenantId tenant.quota.maxRagDocuments = true →
      service.library.storedName (message.payload.getD "document_id" (.str "")) = .ok documentId →
      service.MayStore table answers state.world message.tenantId documentId) :
    Kept table (service.after service.workerPipeline answers
      (ragAction service.worker message tenant) state) := by
  unfold Queue.ragAction
  cases asked : ragRequest message.payload with
  | ingest =>
    apply Kept.bind
    · exact kept.ragIngest (may asked)
    · exact fun count => Only.act trivial
  | query => exact kept.after (ingestsNothing_query message tenant)
  | delete => exact kept.after (Only.bind (Only.act trivial) fun count => Only.act trivial)
  | unknown action => exact kept.after (Only.act trivial)

/-- A message keeps what is kept when a document that it ingests may be stored. -/
theorem Kept.message (kept : Kept table state) {message : QueueMessage}
    (careful : service.Careful table state (.message message answers)) :
    Kept table (service.step state (.message message answers)) := by
  show Kept table (service.after service.workerPipeline answers
    (handleRagQuery service.worker message) state)
  unfold handleRagQuery withTenant RagService.after
  rw [Program.run_bind, run_of_readsOnly (readsOnly_getTenant _ message.tenantId), run_getTenant]
  cases stored : storedTenant service.worker.tenantMgr (answers.clock .record) state.world
      message.tenantId with
  | error exception => exact kept
  | ok found =>
    cases found with
    | none => exact kept
    | some tenant =>
      dsimp only
      unfold unlessExpired
      rw [Program.run_bind, run_of_readsOnly (readsOnly_isDemoExpired tenant), run_isDemoExpired]
      cases expired : tenant.demoExpired (answers.clock .expiry) with
      | true => exact kept.after (Only.act trivial)
      | false =>
        dsimp only
        rw [if_neg Bool.false_ne_true]
        by_cases enabled : tenant.quota.ragEnabled = true
        case neg =>
          rw [if_neg enabled]
          exact kept.after (Only.act trivial)
        case pos =>
        rw [if_pos enabled]
        apply Kept.tryCatch
        · apply kept.ragAction
          intro asked documentId admitted named
          simp only [Careful, asked] at careful
          exact careful tenant documentId stored expired enabled admitted named
        · intro exception
          cases exception with
          | _ => exact Only.act trivial

/-- A step that is careful keeps what is kept. -/
theorem Kept.step (kept : Kept table state) {event : RagStep}
    (careful : service.Careful table state event) : Kept table (service.step state event) := by
  cases event with
  | ingest claims body answers => exact kept.ingestDocument careful
  | delete claims documentId answers => exact kept.deleteDocument claims documentId
  | message message answers => exact kept.message careful
  | changeTier tenantId tier answers => exact kept.changeTier tenantId tier

end Steps

section Runs

variable {service} {table : QuotaTable}

end Runs

section Sample

/-- The sample document id is within its bounds. -/
theorem named_sample : 1 ≤ "notes".length ∧ "notes".length ≤ 256 := by decide

end Sample

end RagService

end VelaFlow.Api
