import Rieko.Lib.RelatedRows
import Rieko.Storage.RowText
import Rieko.Storage.Snapshots

/-! The statements of the storage over the rows that the database file holds. -/

namespace Rieko

open SqlValue

structure TextTables where
  findings : List SqlRow := []
  recommendations : List SqlRow := []
  audit : List SqlRow := []
  channelSnapshots : List SqlRow := []
  webhookDeliveries : List SqlRow := []
  webhookEvents : List SqlRow := []
  operationalState : List SqlRow := []
  simulations : List SqlRow := []

def instantText (t : DateTime) : SqlValue := .text t.toRfc3339

def networkText (network : Option BitcoinNetwork) : SqlValue := ofOption (fun network => .text network.toString) network

def u64Value (n : Nat) : Except String SqlValue :=
  if n < 2^63 then .ok (.integer n) else .error "out of range integral type conversion attempted"

/-- Not a number is stored as null, and negative zero as zero. -/
def f64Value (x : Binary64) : SqlValue :=
  if x.isNaN then .null else if x.key = 0 then .real (.ofNat 0) else .real x

namespace TextTables

def nullRow : SqlRow := fun _ => .null

section Findings

variable (text : RowText)

def findingDefaults : SqlRow := nullRow.set [("detector_version", .text "1"), ("schema_version", .integer 1),
  ("lifecycle", .text "active"), ("consecutive_absent", .integer 0)]

def provenanceText (provenance : Option FindingProvenance) : SqlValue :=
  ofOption (fun provenance => .text (text.provenance.write provenance)) provenance

/-- The condition of the subquery for the first time that a finding was seen. -/
def sameSubject (finding : Finding) (row : SqlRow) : Except String Bool := do
  if (row "detector").equals (.text finding.detector) && (row "detector_version").equals (.text finding.detectorVersion) &&
      (row "node_id").is (ofOption .text finding.node) && (row "channel_id").is (ofOption .text finding.channel) then
    return (← text.extractNetwork (row "provenance")).is (← text.extractNetwork (provenanceText text finding.provenance))
  else
    return false

def findingValues (finding : Finding) (firstSeenAt : SqlValue) : List (String × SqlValue) := [
  ("id", .text finding.id), ("detector", .text finding.detector), ("detector_version", .text finding.detectorVersion),
  ("severity", .integer finding.severity.rank), ("node_id", ofOption .text finding.node),
  ("channel_id", ofOption .text finding.channel), ("evidence", .text (text.evidence.write finding.evidence)),
  ("provenance", provenanceText text finding.provenance), ("explanation", ofOption .text finding.explanation),
  ("ts", instantText finding.timestamp), ("first_seen_at", firstSeenAt),
  ("last_seen_at", instantText finding.lastSeenAt), ("lifecycle", .text "active"),
  ("schema_version", .integer finding.schemaVersion), ("consecutive_absent", .integer 0)]

def onConflict (row excluded : SqlRow) : SqlRow :=
  let newer := (excluded "last_seen_at").atLeast (row "last_seen_at")
  let fresh (column : String) := if newer then excluded column else row column
  row.set [
    ("first_seen_at", (row "first_seen_at").least (excluded "first_seen_at")), ("severity", fresh "severity"),
    ("evidence", fresh "evidence"), ("provenance", fresh "provenance"), ("explanation", fresh "explanation"),
    ("schema_version", fresh "schema_version"), ("ts", fresh "ts"),
    ("last_seen_at", (row "last_seen_at").greatest (excluded "last_seen_at")),
    ("lifecycle", if newer then .text "active" else row "lifecycle"),
    ("consecutive_absent", if newer then .integer 0 else row "consecutive_absent")]

def insertFinding (finding : Finding) (tables : TextTables) : Except String (TextTables × Unit) := do
  let same ← Rows.filterM (sameSubject text finding) tables.findings
  let earliest := minimum (same.map (· "first_seen_at"))
  let firstSeenAt := instantText finding.firstSeenAt
  let excluded := findingDefaults.set (findingValues text finding (firstSeenAt.least (coalesce earliest firstSeenAt)))
  return ({ tables with
    findings := Rows.upsert (· "id") excluded (fun row => onConflict row excluded) tables.findings }, ())

def inScope (scope : FindingCycleScope) (row : SqlRow) : Except String Bool := do
  if (row "detector").equals (.text scope.detector) && (row "node_id").is (ofOption .text scope.node) then
    return (← text.extractNetwork (row "provenance")).is (networkText scope.network) &&
      (row "lifecycle").equals (.text "active")
  else
    return false

def resolveAbsentFindings (scope : FindingCycleScope) (tables : TextTables) : Except String (TextTables × Unit) := do
  let findings ← Rows.updateWhereM
    (fun row => do return (← inScope text scope row) && (row "consecutive_absent").atLeast (.integer 2))
    (fun row => row.set [("lifecycle", .text "resolved"), ("consecutive_absent", .integer 0)]) tables.findings
  return ({ tables with findings }, ())

def countAbsentFindings (scope : FindingCycleScope) (tables : TextTables) : Except String (TextTables × Unit) := do
  let findings ← Rows.updateWhereM
    (fun row => do return (← inScope text scope row) && (row "consecutive_absent").below (.integer 2))
    (fun row => row.set [("consecutive_absent", (row "consecutive_absent").plusOne)]) tables.findings
  return ({ tables with findings }, ())

def descending (column : String) (rows : List SqlRow) : List SqlRow :=
  rows.insertionSort fun a b => (b column).le (a column)

end Findings

section Recommendations

variable (text : RowText)

def recommendationDefaults : SqlRow := nullRow.set [("rationale", .text "\x7b\x7d"), ("lifecycle", .text "active")]

def recommendationValues (recommendation : Recommendation) : List (String × SqlValue) := [
  ("finding_id", .text recommendation.findingId), ("action_id", .text recommendation.action.id),
  ("action_type", .text recommendation.action.actionType.asStr), ("stage", .text recommendation.action.stage.debugName),
  ("target", ofOption .text recommendation.action.target), ("params", .text (text.json.write recommendation.action.params)),
  ("summary", .text recommendation.action.summary), ("rationale", .text (text.rationale.write recommendation.rationale)),
  ("created_at", instantText recommendation.action.createdAt), ("updated_at", instantText recommendation.action.updatedAt)]

def replaceRecommendation (recommendation : Recommendation) (tables : TextTables) : TextTables :=
  { tables with
    recommendations :=
      tables.recommendations.filter (fun row => !(row "action_id").equals (.text recommendation.action.id)) ++
        [recommendationDefaults.set (recommendationValues text recommendation)] }

def isActive (row : SqlRow) : Bool := row "lifecycle" = .null || (row "lifecycle").equals (.text "active")

def resolveRecommendations (now : DateTime) (tables : TextTables) : TextTables :=
  let resolved := (tables.findings.filter fun row => (row "lifecycle").equals (.text "resolved")).map (· "id")
  { tables with
    recommendations := Rows.updateWhere
      (fun row => isActive row && resolved.any fun id => (row "finding_id").equals id)
      (fun row => row.set [("lifecycle", .text "resolved"), ("updated_at", instantText now)]) tables.recommendations }

def resolveForFinding (findingId : String) (now : DateTime) (tables : TextTables) : TextTables :=
  { tables with
    recommendations := Rows.updateWhere (fun row => (row "finding_id").equals (.text findingId))
      (fun row => row.set [("lifecycle", .text "resolved"), ("updated_at", instantText now)]) tables.recommendations }

def setStage (actionId : String) (stage : ActionStage) (now : DateTime) (tables : TextTables) : TextTables :=
  { tables with
    recommendations := Rows.updateWhere (fun row => (row "action_id").equals (.text actionId))
      (fun row => row.set [("stage", .text stage.debugName), ("updated_at", instantText now)]) tables.recommendations }

def auditValues (entry : AuditEntry) : List (String × SqlValue) := [
  ("id", .text entry.id), ("action_id", .text entry.actionId), ("action_type", .text entry.actionType.asStr),
  ("previous_stage", ofOption (fun stage => .text stage.debugName) entry.previousStage),
  ("stage", .text entry.stage.debugName), ("actor", .text entry.actor), ("details", .text (text.json.write entry.details)),
  ("ts", instantText entry.timestamp)]

def insertAudit (entry : AuditEntry) (tables : TextTables) : Except String (TextTables × Unit) :=
  if tables.audit.any fun row => (row "id").equals (.text entry.id) then .error "UNIQUE constraint failed: audit.id"
  else .ok ({ tables with audit := tables.audit ++ [nullRow.set (auditValues text entry)] }, ())

end Recommendations

section Snapshots

def snapshotKey : List String := ["network_id", "node_id", "channel_id", "ts"]

/-- A row whose key has no null is replaced by the row with an equal one. -/
def replaceChannelSnapshot (snapshot : ChannelSnapshot) (tables : TextTables) : Except String (TextTables × Unit) := do
  let localBalance ← u64Value snapshot.localBalanceMsat
  let remoteBalance ← u64Value snapshot.remoteBalanceMsat
  let capacity ← u64Value snapshot.capacityMsat
  let outbound ← u64Value snapshot.spendableOutboundMsat
  let inbound ← u64Value snapshot.spendableInboundMsat
  let row := nullRow.set [
    ("channel_id", .text snapshot.channelId), ("ts", instantText snapshot.ts),
    ("local_ratio", f64Value snapshot.localRatio),
    ("local_balance_msat", localBalance), ("remote_balance_msat", remoteBalance), ("capacity_msat", capacity),
    ("status_int", .integer (Tables.statusInt snapshot.status)), ("spendable_outbound_msat", outbound),
    ("spendable_inbound_msat", inbound), ("node_id", ofOption .text snapshot.nodeId),
    ("network_id", networkText snapshot.network), ("state_digest", ofOption .text snapshot.stateDigest)]
  if row "local_ratio" = .null then throw "NOT NULL constraint failed: channel_snapshots.local_ratio"
  return ({ tables with
    channelSnapshots := tables.channelSnapshots.filter
      (fun other => !snapshotKey.all fun column => (other column).equals (row column)) ++ [row] }, ())

def recentSnapshotsForNetwork (network : BitcoinNetwork) (nodeId : Option String) (channelId : String) (limit : Nat)
    (tables : TextTables) : List SqlRow :=
  (descending "ts" (tables.channelSnapshots.filter fun row => (row "network_id").equals (.text network.toString) &&
    (nodeId.isNone || (row "node_id").equals (ofOption .text nodeId)) &&
    (row "channel_id").equals (.text channelId))).take limit

def recentSnapshots (channelId : String) (limit : Nat) (tables : TextTables) : List SqlRow :=
  (descending "ts" (tables.channelSnapshots.filter fun row => (row "channel_id").equals (.text channelId))).take limit

def recentSnapshotsForNode (nodeId channelId : String) (limit : Nat) (tables : TextTables) : List SqlRow :=
  (descending "ts" (tables.channelSnapshots.filter fun row =>
    (row "node_id").equals (.text nodeId) && (row "channel_id").equals (.text channelId))).take limit

def snapshotAt (network : BitcoinNetwork) (nodeId channelId : String) (observedAt : DateTime) (tables : TextTables) :
    Option SqlRow :=
  tables.channelSnapshots.find? fun row => (row "network_id").equals (.text network.toString) &&
    (row "node_id").equals (.text nodeId) && (row "channel_id").equals (.text channelId) &&
    (row "ts").equals (instantText observedAt)

end Snapshots

section Queue

variable (text : RowText)

def insertNewDelivery (deliveryId : String) (webhookId eventType : Option String) (processedAt : DateTime)
    (tables : TextTables) : TextTables :=
  let row := nullRow.set [("delivery_id", .text deliveryId), ("webhook_id", ofOption .text webhookId),
    ("event_type", ofOption .text eventType), ("processed_at", instantText processedAt)]
  { tables with
    webhookDeliveries := Rows.upsert (· "delivery_id") row (fun stored => stored) tables.webhookDeliveries }

def insertNewEvent (deliveryId : String) (event : NodeEvent) (acceptedAt : DateTime) (tables : TextTables) :
    TextTables :=
  let row := nullRow.set [("delivery_id", .text deliveryId), ("event_json", .text (text.event.write event)),
    ("accepted_at", instantText acceptedAt), ("processed_at", .null)]
  { tables with webhookEvents := Rows.upsert (· "delivery_id") row (fun stored => stored) tables.webhookEvents }

def markProcessed (deliveryId : String) (processedAt : DateTime) (tables : TextTables) : TextTables × Nat :=
  let pending (row : SqlRow) : Bool := (row "delivery_id").equals (.text deliveryId) && row "processed_at" = .null
  ({ tables with
      webhookEvents := Rows.updateWhere pending (fun row => row.set [("processed_at", instantText processedAt)])
        tables.webhookEvents },
    tables.webhookEvents.countP pending)

def acceptedBefore (a b : SqlRow) : Bool :=
  !(b "accepted_at").le (a "accepted_at") ||
    (a "accepted_at").is (b "accepted_at") && (a "delivery_id").le (b "delivery_id")

def acceptedEvents (condition : SqlRow → Bool) (tables : TextTables) : List SqlRow :=
  (tables.webhookEvents.filter condition).insertionSort fun a b => acceptedBefore a b

def operationalValues (state : OperationalState) : List (String × SqlValue) := [
  ("source", .text state.source.asStr), ("source_connected", ofOption .integer state.source.connectedColumn),
  ("last_ingestion_attempt", ofOption instantText state.lastIngestionAttempt),
  ("last_ingestion_success", ofOption instantText state.lastIngestionSuccess),
  ("last_cycle_attempt", ofOption instantText state.lastCycleAttempt),
  ("last_cycle_success", ofOption instantText state.lastCycleSuccess),
  ("last_persist_success", ofOption instantText state.lastPersistSuccess),
  ("source_data_at", ofOption instantText state.sourceDataAt),
  ("bitcoin_core", ofOption (fun core => .text (text.bitcoinCore.write core)) state.bitcoinCore),
  ("lightning", ofOption (fun lightning => .text (text.lightning.write lightning)) state.lightning),
  ("llm", .text state.llm.asStr), ("alert_sink", .text state.alertSink.asStr), ("cleanup", .text state.cleanup.asStr),
  ("last_cleanup_attempt", ofOption instantText state.lastCleanupAttempt),
  ("last_cleanup_success", ofOption instantText state.lastCleanupSuccess)]

def newState : SqlRow := nullRow.set [("id", .text "current"), ("cleanup", .text "not_configured")]

def writeOperationalState (state : OperationalState) (tables : TextTables) : TextTables :=
  { tables with
    operationalState := Rows.upsert (· "id") (newState.set (operationalValues text state))
      (fun row => row.set (operationalValues text state)) tables.operationalState }

def currentState (tables : TextTables) : Option SqlRow :=
  tables.operationalState.find? fun row => (row "id").equals (.text "current")

end Queue

section Simulations

variable (text : RowText)

def simulationValues (record : SimulationRecord) : List (String × SqlValue) := [
  ("id", .text record.id), ("action_id", .text record.actionId), ("finding_id", .text record.findingId),
  ("action_type", .text record.actionType), ("status", .text record.status), ("model_id", .text record.modelId),
  ("model_version", .text record.modelVersion), ("input_hash", .text record.inputHash),
  ("confidence", .text record.confidence), ("assumptions", .text (text.json.write record.assumptions)),
  ("warnings", .text (text.json.write record.warnings)), ("explanation", .text record.explanation),
  ("projection", .text (text.json.write record.projection)), ("created_at", .text record.createdAt),
  ("canonical_input", if record.canonicalInput.isNull then .null else .text (text.json.write record.canonicalInput)),
  ("source_observed_at", ofOption .text record.sourceObservedAt), ("requested_at", .text record.requestedAt),
  ("completed_at", ofOption .text record.completedAt), ("error_code", ofOption .text record.errorCode)]

/-- The condition of the unique index over the inputs. -/
def simulationIndexed (row : SqlRow) : Bool :=
  row "input_hash" ≠ .null && !(row "input_hash").equals (.text "") && row "canonical_input" ≠ .null &&
    row "projection" ≠ .null && !(row "projection").equals (.text "null")

def insertSimulation (record : SimulationRecord) (tables : TextTables) : Except String (TextTables × Unit) :=
  let row := nullRow.set (simulationValues text record)
  if tables.simulations.any fun other => (other "id").equals (row "id") then
    .error "UNIQUE constraint failed: simulations.id"
  else if simulationIndexed row && tables.simulations.any fun other =>
      simulationIndexed other && (other "input_hash").equals (row "input_hash") then
    .error "UNIQUE constraint failed: simulations.input_hash"
  else .ok ({ tables with simulations := tables.simulations ++ [row] }, ())

end Simulations

end TextTables

end Rieko
