import Rieko.Lib.Observation
import Rieko.Storage.TextStatements

namespace Rieko

open StatefulResult

structure TextStorage where
  conn : SqlConnection TextTables
  inTransaction : Bool := false

/-- A row that does not hold what its table should is corrupt. Other errors are those of the backend. -/
def RowText.rowError (text : RowText) : ColumnError → StorageError
  | .fromSqlConversionFailure index message => .corrupt (text.columnError (.fromSqlConversionFailure index message))
  | .integralValueOutOfRange index n => .corrupt (text.columnError (.integralValueOutOfRange index n))
  | e => .backend (text.columnError e)

def readRows {α : Type} (columns : List String) (read : List SqlValue → Except ColumnError α) (rows : List SqlRow) :
    Except ColumnError (List α) := rows.mapM fun row => read (row.select columns)

namespace TextStorage

open SqlConnection

variable (text : RowText)

abbrev TextM := EStateM StorageError TextStorage

def sql {ε α : Type} (failure : String → ε) (program : Sql TextTables α) : EStateM ε TextStorage α := fun s =>
  match program s.conn with
  | .ok a conn => .ok a { s with conn }
  | .error message conn => .error (failure message) { s with conn }

def setInTransaction (inTransaction : Bool) : TextM Unit := modify fun s => { s with inTransaction }

def beginTransaction : TextM Unit := do
  if (← get).inTransaction then throw (.backend "nested transaction attempted")
  sql (fun e => .backend s!"beginning transaction: {e}") beginImmediate
  setInTransaction true

def commitTransaction : TextM Unit := do
  if !(← get).inTransaction then throw (.backend "commit with no open transaction")
  sql (fun e => .backend s!"committing transaction: {e}") commit
  setInTransaction false

def rollbackTransaction : TextM Unit := do
  if !(← get).inTransaction then throw (.backend "rollback with no open transaction")
  sql (fun e => .backend s!"rolling back transaction: {e}") rollback
  setInTransaction false

section Queries

variable {α : Type} (columns : List String) (read : List SqlValue → Except ColumnError α)

def select (rows : TextTables → List SqlRow) : TextM (List α) := do
  let found ← sql .backend (query rows)
  ofExcept ((readRows columns read found).mapError text.rowError)

def selectOne (row : TextTables → Option SqlRow) : TextM (Option α) := do
  let found ← sql .backend (query fun tables => (row tables).toList)
  let records ← ofExcept ((readRows columns read found).mapError text.rowError)
  return records.head?

end Queries

section Findings

def saveFinding (finding : Finding) : TextM Unit := do
  match validateFindingSchema finding.schemaVersion with
  | .error e => throw e
  | .ok () => sql .backend (statement (TextTables.insertFinding text finding))

def resolveFindingsForScope (scope : FindingCycleScope) : TextM Unit := do
  if scope.complete then
    sql .backend (statement (TextTables.resolveAbsentFindings text scope))
    sql .backend (statement (TextTables.countAbsentFindings text scope))

def findingById (findingId : String) : TextM (Option Finding) :=
  selectOne text RowText.findingColumns text.rowToFinding fun tables =>
    tables.findings.find? fun row => (row "id").equals (.text findingId)

def selectLatest (condition : SqlRow → Bool) (limit : Nat) : TextM (List Finding) :=
  select text RowText.findingColumns text.rowToFinding fun tables =>
    (TextTables.descending "ts" (tables.findings.filter condition)).take limit

def latestFindings (limit : Nat) : TextM (List Finding) := selectLatest text (fun _ => true) limit

def latestFindingsByLifecycle (limit : Nat) : FindingLifecycleFilter → TextM (List Finding)
  | .active => selectLatest text (fun row => (row "lifecycle").equals (.text "active")) limit
  | .resolved => selectLatest text (fun row => (row "lifecycle").equals (.text "resolved")) limit
  | .all => latestFindings text limit

def findingsForChannel (channelId : String) (limit : Nat) : TextM (List Finding) :=
  selectLatest text (fun row => (row "channel_id").equals (.text channelId)) limit

def findingsForChannelByLifecycle (channelId : String) (limit : Nat) : FindingLifecycleFilter → TextM (List Finding)
  | .active =>
    selectLatest text (fun row =>
      (row "channel_id").equals (.text channelId) && (row "lifecycle").equals (.text "active")) limit
  | .resolved =>
    selectLatest text (fun row =>
      (row "channel_id").equals (.text channelId) && (row "lifecycle").equals (.text "resolved")) limit
  | .all => findingsForChannel text channelId limit

end Findings

section Recommendations

def saveRecommendation (recommendation : Recommendation) : TextM Unit :=
  sql .backend (execute (TextTables.replaceRecommendation text recommendation))

def latestRecommendations (limit : Nat) : TextM (List Recommendation) :=
  select text RowText.recommendationColumns text.rowToRecommendation fun tables =>
    (TextTables.descending "created_at" tables.recommendations).take limit

def latestActiveRecommendations (limit : Nat) : TextM (List Recommendation) :=
  select text RowText.recommendationColumns text.rowToRecommendation fun tables =>
    (TextTables.descending "created_at" (tables.recommendations.filter TextTables.isActive)).take limit

def resolveRecommendationsForFinding (findingId : String) (now : DateTime) : TextM Unit :=
  sql .backend (execute (TextTables.resolveForFinding findingId now))

def recommendationForAction (actionId : String) : TextM (Option Recommendation) :=
  selectOne text RowText.recommendationColumns text.rowToRecommendation fun tables =>
    tables.recommendations.find? fun row => (row "action_id").equals (.text actionId)

def setActionStage (actionId : String) (stage : ActionStage) (now : DateTime) : TextM Unit :=
  sql .backend (execute (TextTables.setStage actionId stage now))

def syncRecommendationLifecycles (now : DateTime) : TextM Unit :=
  sql .backend (execute (TextTables.resolveRecommendations now))

def appendAudit (entry : AuditEntry) : TextM Unit := sql .backend (statement (TextTables.insertAudit text entry))

def recentAudit (limit : Nat) : TextM (List AuditEntry) :=
  select text RowText.auditColumns text.rowToAudit fun tables => (TextTables.descending "ts" tables.audit).take limit

end Recommendations

section Snapshots

def saveChannelSnapshot (snapshot : ChannelSnapshot) : TextM Unit :=
  sql .backend (statement (TextTables.replaceChannelSnapshot snapshot))

def recentChannelSnapshots (channelId : String) (limit : Nat) : TextM (List ChannelSnapshot) :=
  select text RowText.snapshotColumns text.rowToSnapshot (TextTables.recentSnapshots channelId limit)

def recentChannelSnapshotsForNode (nodeId channelId : String) (limit : Nat) : TextM (List ChannelSnapshot) :=
  select text RowText.snapshotColumns text.rowToSnapshot (TextTables.recentSnapshotsForNode nodeId channelId limit)

def recentChannelSnapshotsForNetwork (network : BitcoinNetwork) (nodeId : Option String) (channelId : String)
    (limit : Nat) : TextM (List ChannelSnapshot) :=
  select text RowText.snapshotColumns text.rowToSnapshot
    (TextTables.recentSnapshotsForNetwork network nodeId channelId limit)

def channelSnapshotAt (network : BitcoinNetwork) (nodeId channelId : String) (observedAt : DateTime) :
    TextM (Option ChannelSnapshot) :=
  selectOne text RowText.snapshotColumns text.rowToSnapshot (TextTables.snapshotAt network nodeId channelId observedAt)

end Snapshots

section Queue

def isWebhookDeliveryProcessed (deliveryId : String) : TextM Bool :=
  sql (fun e => .backend s!"querying webhook delivery: {e}")
    (query fun tables => tables.webhookDeliveries.any fun row => (row "delivery_id").equals (.text deliveryId))

def insertWebhookEvent (deliveryId : String) (webhookId eventType : Option String) (event : NodeEvent)
    (acceptedAt : DateTime) : TextM Unit := do
  sql (fun e => .backend s!"recording webhook delivery: {e}")
    (execute (TextTables.insertNewDelivery deliveryId webhookId eventType acceptedAt))
  sql (fun e => .backend s!"enqueueing webhook event: {e}")
    (execute (TextTables.insertNewEvent text deliveryId event acceptedAt))

def enqueueWebhookEvent (deliveryId : String) (webhookId eventType : Option String) (event : NodeEvent)
    (acceptedAt : DateTime) : TextM Unit :=
  ladder beginTransaction commitTransaction rollbackTransaction
    (insertWebhookEvent text deliveryId webhookId eventType event acceptedAt)

def selectEvents (querying reading : String) (rows : TextTables → List SqlRow) : TextM (List WebhookEventRecord) := do
  let found ← sql (fun e => .backend s!"querying {querying}: {e}") (query rows)
  ofExcept ((readRows RowText.eventColumns text.rowToEvent found).mapError fun e =>
    StorageError.corrupt s!"reading {reading}: {text.columnError e}")

def pendingWebhookEvents (limit : Nat) : TextM (List WebhookEventRecord) :=
  selectEvents text "pending webhook events" "pending webhook event" fun tables =>
    (tables.acceptedEvents fun row => row "processed_at" = .null).take (webhookLimit limit)

def recentProcessedWebhookEvents (limit : Nat) : TextM (List WebhookEventRecord) :=
  selectEvents text "processed webhook history" "processed webhook history" fun tables =>
    let events := tables.acceptedEvents fun row => row "processed_at" ≠ .null
    events.drop (events.length - webhookLimit limit)

def markWebhookEventProcessed (deliveryId : String) (processedAt : DateTime) : TextM Unit := do
  let changed ← sql (fun e => .backend s!"marking webhook event processed: {e}")
    (statement fun tables => .ok (tables.markProcessed deliveryId processedAt))
  if changed = 0 then
    throw (.backend s!"unknown or already processed webhook event {deliveryId}")

end Queue

section Simulations

variable (ext : SimulationExternal) (displayRead : String → String)

def saveSimulationV2 (record : SimulationRecord) : TextM Unit := do
  match validateSimulationRecord ext displayRead record with
  | .error e => throw e
  | .ok () => sql .backend (statement (TextTables.insertSimulation text record))

def simulationV2ById (simulationId : String) : TextM (Option SimulationRecord) :=
  selectOne text RowText.simulationColumns (text.rowToSimulationV2 ext displayRead) fun tables =>
    tables.simulations.find? fun row => (row "id").equals (.text simulationId)

end Simulations

section Operational

def readOperationalState : EStateM OperationalStateError TextStorage (Option OperationalState) := do
  let found ← sql .store (query fun tables => tables.currentState.toList)
  let read ← ofExcept ((found.mapM fun row =>
    text.rowToOperationalState (row.select RowText.operationalColumns)).mapError OperationalStateError.store)
  return read.head?

def writeOperationalState (state : OperationalState) : EStateM OperationalStateError TextStorage Unit :=
  sql .store (execute (TextTables.writeOperationalState text state))

def rewriteOperationalState (f : OperationalState → OperationalState) :
    EStateM OperationalStateError TextStorage Unit := do
  let state ← readOperationalState text
  writeOperationalState text (f (state.getD {}))

def updateOperationalState (f : OperationalState → OperationalState) :
    EStateM OperationalStateError TextStorage Unit := do
  let joined := (← get).inTransaction
  if !joined then sql .store beginImmediate
  let result ← attempt (rewriteOperationalState text f)
  if !joined then
    match result with
    | .ok () => sql .store commit
    | .error _ => discard (attempt (sql OperationalStateError.store rollback))
  match result with
  | .ok () => pure ()
  | .error e => throw e

end Operational

end TextStorage

end Rieko
