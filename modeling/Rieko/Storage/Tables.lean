import Rieko.Lib.Rows
import Rieko.Storage.Types
import Mathlib.Data.List.Sort

namespace Rieko

structure FindingRow where
  finding : Finding
  consecutiveAbsent : Nat

structure WebhookDeliveryRow where
  deliveryId : String
  webhookId : Option String
  eventType : Option String
  processedAt : DateTime
deriving DecidableEq, Repr

/-- The tables that the storage operations of this development touch. -/
structure Tables where
  findings : List FindingRow := []
  recommendations : List Recommendation := []
  audit : List AuditEntry := []
  channelSnapshots : List ChannelSnapshot := []
  webhookDeliveries : List WebhookDeliveryRow := []
  webhookEvents : List WebhookEventRecord := []
  operationalState : Option OperationalState := none
  simulations : List SimulationRecord := []
  simulationEvents : List SimulationEvent := []

namespace FindingRow

def id (row : FindingRow) : String := row.finding.id

def onConflict (row excluded : FindingRow) : FindingRow :=
  let fresh : Bool := row.finding.lastSeenAt ≤ excluded.finding.lastSeenAt
  { finding :=
      { row.finding with
        firstSeenAt := min row.finding.firstSeenAt excluded.finding.firstSeenAt
        severity := if fresh then excluded.finding.severity else row.finding.severity
        evidence := if fresh then excluded.finding.evidence else row.finding.evidence
        provenance := if fresh then excluded.finding.provenance else row.finding.provenance
        explanation := if fresh then excluded.finding.explanation else row.finding.explanation
        schemaVersion := if fresh then excluded.finding.schemaVersion else row.finding.schemaVersion
        timestamp := if fresh then excluded.finding.timestamp else row.finding.timestamp
        lastSeenAt := max row.finding.lastSeenAt excluded.finding.lastSeenAt
        lifecycle := if fresh then .active else row.finding.lifecycle }
    consecutiveAbsent := if fresh then 0 else row.consecutiveAbsent }

def inScope (scope : FindingCycleScope) (row : FindingRow) : Bool :=
  row.finding.detector = scope.detector ∧ row.finding.node = scope.node ∧
    row.finding.network = scope.network ∧ row.finding.lifecycle = .active

end FindingRow

namespace Tables

def insertFinding (finding : Finding) (tables : Tables) : Tables :=
  let earliest := ((tables.findings.filter fun row =>
    row.finding.detector = finding.detector ∧ row.finding.detectorVersion = finding.detectorVersion ∧
      row.finding.node = finding.node ∧ row.finding.channel = finding.channel ∧
      row.finding.network = finding.network).map (·.finding.firstSeenAt)).min?
  let excluded : FindingRow :=
    { finding :=
        { finding with
          firstSeenAt := min finding.firstSeenAt (earliest.getD finding.firstSeenAt)
          lifecycle := .active }
      consecutiveAbsent := 0 }
  { tables with
    findings := Rows.upsert FindingRow.id excluded (fun row => row.onConflict excluded) tables.findings }

def resolveAbsentFindings (scope : FindingCycleScope) (tables : Tables) : Tables :=
  { tables with
    findings := Rows.updateWhere (fun row => row.inScope scope && decide (2 ≤ row.consecutiveAbsent))
      (fun row => { finding := { row.finding with lifecycle := .resolved }, consecutiveAbsent := 0 })
      tables.findings }

def countAbsentFindings (scope : FindingCycleScope) (tables : Tables) : Tables :=
  { tables with
    findings := Rows.updateWhere (fun row => row.inScope scope && decide (row.consecutiveAbsent < 2))
      (fun row => { row with consecutiveAbsent := row.consecutiveAbsent + 1 }) tables.findings }

/-- `INSERT OR REPLACE`. A replaced row loses the lifecycle it had. -/
def replaceRecommendation (recommendation : Recommendation) (tables : Tables) : Tables :=
  { tables with
    recommendations := tables.recommendations.filter (·.action.id ≠ recommendation.action.id) ++
      [{ recommendation with lifecycle := some "active" }] }

def resolveRecommendations (now : DateTime) (tables : Tables) : Tables :=
  let resolved := (tables.findings.filter (·.finding.lifecycle = .resolved)).map FindingRow.id
  { tables with
    recommendations := Rows.updateWhere (fun row => row.isActive && decide (row.findingId ∈ resolved))
      (fun row => { row with lifecycle := some "resolved", action := { row.action with updatedAt := now } })
      tables.recommendations }

def setStage (actionId : String) (stage : ActionStage) (now : DateTime) (tables : Tables) : Tables :=
  { tables with
    recommendations := Rows.updateWhere (·.action.id = actionId)
      (fun row => { row with action := { row.action with stage, updatedAt := now } })
      tables.recommendations }

def insertAudit (entry : AuditEntry) (tables : Tables) : Except String (Tables × Unit) :=
  if tables.audit.any (·.id = entry.id) then .error "UNIQUE constraint failed: audit.id"
  else .ok ({ tables with audit := tables.audit ++ [entry] }, ())

/-- The key of a snapshot. A key with a missing part equals no other key. -/
def sameSnapshotKey (a b : ChannelSnapshot) : Bool :=
  a.network.isSome ∧ a.nodeId.isSome ∧ a.network = b.network ∧ a.nodeId = b.nodeId ∧
    a.channelId = b.channelId ∧ a.ts = b.ts

def replaceChannelSnapshot (snapshot : ChannelSnapshot) (tables : Tables) : Tables :=
  { tables with
    channelSnapshots := tables.channelSnapshots.filter (!sameSnapshotKey · snapshot) ++ [snapshot] }

def insertNewDelivery (row : WebhookDeliveryRow) (tables : Tables) : Tables :=
  { tables with
    webhookDeliveries := Rows.upsert (·.deliveryId) row (fun stored => stored) tables.webhookDeliveries }

/-- `INSERT OR IGNORE` into the event queue. -/
def insertNewEvent (record : WebhookEventRecord) (tables : Tables) : Tables :=
  { tables with
    webhookEvents := Rows.upsert (·.deliveryId) record (fun stored => stored) tables.webhookEvents }

def markProcessed (deliveryId : String) (processedAt : DateTime) (tables : Tables) : Tables × Nat :=
  let pending := fun (record : WebhookEventRecord) =>
    decide (record.deliveryId = deliveryId) && record.processedAt.isNone
  ({ tables with
      webhookEvents := Rows.updateWhere pending
        (fun record => { record with processedAt := some processedAt }) tables.webhookEvents },
    tables.webhookEvents.countP pending)

def acceptedEvents (condition : WebhookEventRecord → Bool) (tables : Tables) : List WebhookEventRecord :=
  (tables.webhookEvents.filter condition).insertionSort WebhookEventRecord.acceptedBefore

end Tables

end Rieko
