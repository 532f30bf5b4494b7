import Rieko.Lib.Ladder
import Rieko.Lib.SqlConnection
import Rieko.Storage.Tables

namespace Rieko

open StatefulResult

structure SqliteStorage where
  conn : SqlConnection Tables
  inTransaction : Bool := false

namespace SqliteStorage

open SqlConnection

abbrev SqliteM := EStateM StorageError SqliteStorage

def sql {ε α : Type} (failure : String → ε) (program : Sql Tables α) : EStateM ε SqliteStorage α := fun s =>
  match program s.conn with
  | .ok a conn => .ok a { s with conn }
  | .error message conn => .error (failure message) { s with conn }

def setInTransaction (inTransaction : Bool) : SqliteM Unit := modify fun s => { s with inTransaction }

def beginTransaction : SqliteM Unit := do
  if (← get).inTransaction then throw (.backend "nested transaction attempted")
  sql (fun e => .backend s!"beginning transaction: {e}") beginImmediate
  setInTransaction true

def commitTransaction : SqliteM Unit := do
  if !(← get).inTransaction then throw (.backend "commit with no open transaction")
  sql (fun e => .backend s!"committing transaction: {e}") commit
  setInTransaction false

def rollbackTransaction : SqliteM Unit := do
  if !(← get).inTransaction then throw (.backend "rollback with no open transaction")
  sql (fun e => .backend s!"rolling back transaction: {e}") rollback
  setInTransaction false

def saveFinding (finding : Finding) : SqliteM Unit := do
  match validateFindingSchema finding.schemaVersion with
  | .error e => throw e
  | .ok () => sql .backend (execute (Tables.insertFinding finding))

def resolveFindingsForScope (scope : FindingCycleScope) : SqliteM Unit := do
  if scope.complete then
    sql .backend (execute (Tables.resolveAbsentFindings scope))
    sql .backend (execute (Tables.countAbsentFindings scope))

def findingById (findingId : String) : SqliteM (Option Finding) :=
  sql .backend (query fun tables => (Rows.lookup FindingRow.id tables.findings findingId).map (·.finding))

def saveRecommendation (recommendation : Recommendation) : SqliteM Unit :=
  sql .backend (execute (Tables.replaceRecommendation recommendation))

def recommendationForAction (actionId : String) : SqliteM (Option Recommendation) :=
  sql .backend (query fun tables => Rows.lookup (·.action.id) tables.recommendations actionId)

def setActionStage (actionId : String) (stage : ActionStage) (now : DateTime) : SqliteM Unit :=
  sql .backend (execute (Tables.setStage actionId stage now))

def syncRecommendationLifecycles (now : DateTime) : SqliteM Unit :=
  sql .backend (execute (Tables.resolveRecommendations now))

def appendAudit (entry : AuditEntry) : SqliteM Unit :=
  sql .backend (statement (Tables.insertAudit entry))

def saveChannelSnapshot (snapshot : ChannelSnapshot) : SqliteM Unit :=
  sql .backend (execute (Tables.replaceChannelSnapshot snapshot))

def isWebhookDeliveryProcessed (deliveryId : String) : SqliteM Bool :=
  sql (fun e => .backend s!"querying webhook delivery: {e}")
    (query fun tables => tables.webhookDeliveries.any (·.deliveryId = deliveryId))

def insertWebhookEvent (deliveryId : String) (webhookId eventType : Option String) (event : NodeEvent)
    (acceptedAt : DateTime) : SqliteM Unit := do
  sql (fun e => .backend s!"recording webhook delivery: {e}")
    (execute (Tables.insertNewDelivery ⟨deliveryId, webhookId, eventType, acceptedAt⟩))
  sql (fun e => .backend s!"enqueueing webhook event: {e}")
    (execute (Tables.insertNewEvent ⟨deliveryId, event, acceptedAt, none⟩))

/-- The event text is computed before the transaction and is always defined. -/
def enqueueWebhookEvent (deliveryId : String) (webhookId eventType : Option String) (event : NodeEvent)
    (acceptedAt : DateTime) : SqliteM Unit :=
  ladder beginTransaction commitTransaction rollbackTransaction
    (insertWebhookEvent deliveryId webhookId eventType event acceptedAt)

def pendingWebhookEvents (limit : Nat) : SqliteM (List WebhookEventRecord) :=
  sql (fun e => .backend s!"querying pending webhook events: {e}")
    (query fun tables => (tables.acceptedEvents (·.processedAt.isNone)).take (webhookLimit limit))

def recentProcessedWebhookEvents (limit : Nat) : SqliteM (List WebhookEventRecord) :=
  sql (fun e => .backend s!"querying processed webhook history: {e}") (query fun tables =>
    let events := tables.acceptedEvents (·.processedAt.isSome)
    events.drop (events.length - webhookLimit limit))

def markWebhookEventProcessed (deliveryId : String) (processedAt : DateTime) : SqliteM Unit := do
  let changed ← sql (fun e => .backend s!"marking webhook event processed: {e}")
    (statement fun tables => .ok (tables.markProcessed deliveryId processedAt))
  if changed = 0 then
    throw (.backend s!"unknown or already processed webhook event {deliveryId}")

def readOperationalState : EStateM OperationalStateError SqliteStorage (Option OperationalState) :=
  sql .store (query (·.operationalState))

def writeOperationalState (state : OperationalState) : EStateM OperationalStateError SqliteStorage Unit :=
  sql .store (execute fun tables => { tables with operationalState := some state })

def rewriteOperationalState (f : OperationalState → OperationalState) :
    EStateM OperationalStateError SqliteStorage Unit := do
  let state ← readOperationalState
  writeOperationalState (f (state.getD {}))

/-- Joins a transaction that the storage has open, and runs in one of its own otherwise. -/
def updateOperationalState (f : OperationalState → OperationalState) :
    EStateM OperationalStateError SqliteStorage Unit := do
  let joined := (← get).inTransaction
  if !joined then sql .store beginImmediate
  let result ← attempt (rewriteOperationalState f)
  if !joined then
    match result with
    | .ok () => sql .store commit
    | .error _ => discard (attempt (sql OperationalStateError.store rollback))
  match result with
  | .ok () => pure ()
  | .error e => throw e

end SqliteStorage

open SqliteStorage in
instance : Storage SqliteStorage where
  beginTransaction := beginTransaction
  commitTransaction := commitTransaction
  rollbackTransaction := rollbackTransaction
  saveFinding := saveFinding
  resolveFindingsForScope := resolveFindingsForScope
  saveRecommendation := saveRecommendation
  recommendationForAction := recommendationForAction
  syncRecommendationLifecycles := syncRecommendationLifecycles
  appendAudit := appendAudit
  saveChannelSnapshot := saveChannelSnapshot
  isWebhookDeliveryProcessed := isWebhookDeliveryProcessed
  enqueueWebhookEvent := enqueueWebhookEvent
  pendingWebhookEvents := pendingWebhookEvents
  recentProcessedWebhookEvents := recentProcessedWebhookEvents
  markWebhookEventProcessed := markWebhookEventProcessed
  updateOperationalState := updateOperationalState

end Rieko
