import Rieko.Lib.Rows
import Rieko.Storage.Types

namespace Rieko

structure MemoryStorageState where
  findings : List Finding
  recommendations : List Recommendation
  audit : List AuditEntry
  channelSnapshots : List ChannelSnapshot
  simulations : List Simulation
  simulationRecords : List SimulationRecord
  simulationEvents : List SimulationEvent
  alertState : HashMap AlertState
  operationalState : Option OperationalState
  webhookDeliveries : HashMap WebhookDeliveryRecord
  webhookEvents : HashMap WebhookEventRecord

/-- In-memory storage. `findingAbsent` counts the consecutive complete cycles that missed a finding. -/
structure MemoryStorage where
  findings : List Finding := []
  recommendations : List Recommendation := []
  audit : List AuditEntry := []
  channelSnapshots : List ChannelSnapshot := []
  simulations : List Simulation := []
  simulationRecords : List SimulationRecord := []
  simulationEvents : List SimulationEvent := []
  alertState : HashMap AlertState := ∅
  operationalState : Option OperationalState := none
  transactionSnapshot : Option MemoryStorageState := none
  findingAbsent : HashMap Nat := ∅
  webhookDeliveries : HashMap WebhookDeliveryRecord := ∅
  webhookEvents : HashMap WebhookEventRecord := ∅

abbrev StorageM := EStateM StorageError MemoryStorage

def Finding.sameIdentity (existing finding : Finding) : Bool :=
  existing.detector = finding.detector ∧ existing.detectorVersion = finding.detectorVersion ∧
    existing.network = finding.network ∧ existing.node = finding.node ∧
    existing.channel = finding.channel

def earliestFirstSeen (findings : List Finding) (finding : Finding) : DateTime :=
  ((findings.filter (·.sameIdentity finding)).map (·.firstSeenAt)).foldl min finding.firstSeenAt

/-- The stored finding after a re-observation. An observation older than the stored one only moves
    the first sighting. -/
def Finding.reobserve (existing finding : Finding) (firstSeenAt : DateTime) : Finding :=
  if existing.lastSeenAt ≤ finding.lastSeenAt then
    { existing with
      firstSeenAt := min existing.firstSeenAt firstSeenAt
      severity := finding.severity
      evidence := finding.evidence
      provenance := finding.provenance
      explanation := finding.explanation
      schemaVersion := finding.schemaVersion
      timestamp := finding.timestamp
      lastSeenAt := finding.lastSeenAt
      lifecycle := .active }
  else { existing with firstSeenAt := min existing.firstSeenAt firstSeenAt }

/-- One finding of a resolving cycle, with the absence counts before and after it. -/
def resolveFinding (scope : FindingCycleScope) (absent : HashMap Nat) (finding : Finding) :
    Finding × HashMap Nat :=
  if scope.covers finding ∧ finding.lifecycle = .active then
    let count := (absent.lookup finding.id).getD 0 + 1
    if 3 ≤ count then ({ finding with lifecycle := .resolved }, absent.erase finding.id)
    else (finding, absent.insert finding.id count)
  else (finding, absent)

def resolveFindings (scope : FindingCycleScope) : List Finding → HashMap Nat → List Finding × HashMap Nat
  | [], absent => ([], absent)
  | finding :: findings, absent =>
    let head := resolveFinding scope absent finding
    let tail := resolveFindings scope findings head.2
    (head.1 :: tail.1, tail.2)

def lifecycleMatches (finding : Finding) : FindingLifecycleFilter → Bool
  | .active => finding.lifecycle = .active
  | .resolved => finding.lifecycle = .resolved
  | .all => true

namespace MemoryStorage

def new : MemoryStorage := {}

def snapshot (s : MemoryStorage) : MemoryStorageState where
  findings := s.findings
  recommendations := s.recommendations
  audit := s.audit
  channelSnapshots := s.channelSnapshots
  simulations := s.simulations
  simulationRecords := s.simulationRecords
  simulationEvents := s.simulationEvents
  alertState := s.alertState
  operationalState := s.operationalState
  webhookDeliveries := s.webhookDeliveries
  webhookEvents := s.webhookEvents

def restore (s : MemoryStorage) (snapshot : MemoryStorageState) : MemoryStorage :=
  { s with
    findings := snapshot.findings
    recommendations := snapshot.recommendations
    audit := snapshot.audit
    channelSnapshots := snapshot.channelSnapshots
    simulations := snapshot.simulations
    simulationRecords := snapshot.simulationRecords
    simulationEvents := snapshot.simulationEvents
    alertState := snapshot.alertState
    operationalState := snapshot.operationalState
    webhookDeliveries := snapshot.webhookDeliveries
    webhookEvents := snapshot.webhookEvents
    transactionSnapshot := none }

def beginTransaction : StorageM Unit := fun s =>
  match s.transactionSnapshot with
  | some _ => .error (.backend "nested transaction attempted") s
  | none => .ok () { s with transactionSnapshot := some s.snapshot }

def commitTransaction : StorageM Unit := fun s =>
  match s.transactionSnapshot with
  | none => .error (.backend "commit with no open transaction") s
  | some _ => .ok () { s with transactionSnapshot := none }

def rollbackTransaction : StorageM Unit := fun s =>
  match s.transactionSnapshot with
  | none => .error (.backend "rollback with no open transaction") s
  | some snapshot => .ok () (s.restore snapshot)

theorem beginTransaction_ok {s s' : MemoryStorage} {u : Unit} :
    beginTransaction s = .ok u s' ↔
      s.transactionSnapshot = none ∧ s' = { s with transactionSnapshot := some s.snapshot } := by
  unfold beginTransaction
  cases s.transactionSnapshot <;> simp [eq_comm]

theorem commitTransaction_ok {s s' : MemoryStorage} {u : Unit} :
    commitTransaction s = .ok u s' ↔
      s.transactionSnapshot ≠ none ∧ s' = { s with transactionSnapshot := none } := by
  unfold commitTransaction
  cases s.transactionSnapshot <;> simp [eq_comm]

theorem rollbackTransaction_of_begun {s : MemoryStorage} {saved : MemoryStorageState}
    (begun : s.transactionSnapshot = some saved) : rollbackTransaction s = .ok () (s.restore saved) := by
  unfold rollbackTransaction
  rw [begun]

def putFinding (s : MemoryStorage) (finding : Finding) : MemoryStorage :=
  let firstSeenAt := earliestFirstSeen s.findings finding
  { s with
    findings := Rows.upsert Finding.id { finding with firstSeenAt, lifecycle := .active }
      (fun existing => existing.reobserve finding firstSeenAt) s.findings
    findingAbsent :=
      if finding.id ∈ s.findings.map Finding.id then s.findingAbsent.erase finding.id
      else s.findingAbsent }

def saveFinding (finding : Finding) : StorageM Unit := fun s =>
  match validateFindingSchema finding.schemaVersion with
  | .error e => .error e s
  | .ok () => .ok () (s.putFinding finding)

def resolveScope (s : MemoryStorage) (scope : FindingCycleScope) : MemoryStorage :=
  if scope.complete then
    let resolved := resolveFindings scope s.findings s.findingAbsent
    { s with findings := resolved.1, findingAbsent := resolved.2 }
  else s

def resolveFindingsForScope (scope : FindingCycleScope) : StorageM Unit :=
  modify fun s => s.resolveScope scope

def latestFindings (limit : Nat) : StorageM (List Finding) := fun s =>
  .ok (s.findings.reverse.take limit) s

def findingById (findingId : String) : StorageM (Option Finding) := fun s =>
  .ok (Rows.lookup Finding.id s.findings findingId) s

def latestFindingsByLifecycle (limit : Nat) (lifecycle : FindingLifecycleFilter) :
    StorageM (List Finding) := fun s =>
  .ok ((s.findings.reverse.filter fun finding => lifecycleMatches finding lifecycle).take limit) s

def findingsForChannel (channelId : String) (limit : Nat) : StorageM (List Finding) := fun s =>
  .ok ((s.findings.reverse.filter fun finding => finding.channel = some channelId).take limit) s

def findingsForChannelByLifecycle (channelId : String) (limit : Nat)
    (lifecycle : FindingLifecycleFilter) : StorageM (List Finding) := fun s =>
  .ok (((s.findings.reverse.filter fun finding => finding.channel = some channelId).filter
    fun finding => lifecycleMatches finding lifecycle).take limit) s

def saveRecommendation (recommendation : Recommendation) : StorageM Unit := modify fun s =>
  { s with
    recommendations := Rows.upsert (·.action.id) recommendation
      (fun existing =>
        { existing with action := { existing.action with updatedAt := recommendation.action.updatedAt } })
      s.recommendations }

def latestRecommendations (limit : Nat) : StorageM (List Recommendation) := fun s =>
  .ok (s.recommendations.reverse.take limit) s

def latestActiveRecommendations (limit : Nat) : StorageM (List Recommendation) := fun s =>
  .ok ((s.recommendations.filter (·.isActive)).reverse.take limit) s

def resolveRecommendationsForFinding (findingId : String) : StorageM Unit := modify fun s =>
  { s with
    recommendations := Rows.updateWhere (·.findingId = findingId)
      (fun recommendation => { recommendation with lifecycle := some "resolved" }) s.recommendations }

def recommendationForAction (actionId : String) : StorageM (Option Recommendation) := fun s =>
  .ok (Rows.lookup (·.action.id) s.recommendations actionId) s

def setActionStage (actionId : String) (stage : ActionStage) (now : DateTime) : StorageM Unit :=
  modify fun s =>
    { s with
      recommendations := Rows.updateFirst (·.action.id = actionId)
        (fun recommendation =>
          { recommendation with action := { recommendation.action with stage, updatedAt := now } })
        s.recommendations }

def resolvedIds (s : MemoryStorage) : List String :=
  (s.findings.filter (·.lifecycle = .resolved)).map Finding.id

def syncLifecycles (s : MemoryStorage) : MemoryStorage :=
  { s with
    recommendations := Rows.updateWhere (·.findingId ∈ s.resolvedIds)
      (fun recommendation => { recommendation with lifecycle := some "resolved" }) s.recommendations }

def syncRecommendationLifecycles : StorageM Unit := modify syncLifecycles

def appendAudit (entry : AuditEntry) : StorageM Unit := modify fun s =>
  { s with audit := s.audit ++ [entry] }

def recentAudit (limit : Nat) : StorageM (List AuditEntry) := fun s =>
  .ok (s.audit.reverse.take limit) s

def saveChannelSnapshot (snapshot : ChannelSnapshot) : StorageM Unit := modify fun s =>
  { s with channelSnapshots := s.channelSnapshots ++ [snapshot] }

def recentSnapshotsWhere (condition : ChannelSnapshot → Bool) (limit : Nat) :
    StorageM (List ChannelSnapshot) := fun s =>
  .ok ((s.channelSnapshots.reverse.filter condition).take limit) s

def recentChannelSnapshots (channelId : String) (limit : Nat) : StorageM (List ChannelSnapshot) :=
  recentSnapshotsWhere (·.channelId = channelId) limit

def recentChannelSnapshotsForNode (nodeId channelId : String) (limit : Nat) :
    StorageM (List ChannelSnapshot) :=
  recentSnapshotsWhere (fun snapshot => snapshot.nodeId = some nodeId ∧ snapshot.channelId = channelId) limit

def recentChannelSnapshotsForNetwork (network : BitcoinNetwork) (nodeId : Option String)
    (channelId : String) (limit : Nat) : StorageM (List ChannelSnapshot) :=
  recentSnapshotsWhere
    (fun snapshot => snapshot.network = some network ∧ (∀ node ∈ nodeId, snapshot.nodeId = some node) ∧
      snapshot.channelId = channelId) limit

def channelSnapshotAt (network : BitcoinNetwork) (nodeId channelId : String) (observedAt : DateTime) :
    StorageM (Option ChannelSnapshot) := fun s =>
  .ok (s.channelSnapshots.find? fun snapshot => snapshot.network = some network ∧
    snapshot.nodeId = some nodeId ∧ snapshot.channelId = channelId ∧ snapshot.ts = observedAt) s

def recentSnapshotsAll (limit : Nat) : StorageM (List ChannelSnapshot) :=
  recentSnapshotsWhere (fun _ => true) limit

end MemoryStorage

end Rieko
