import Rieko.Lib.Observation
import Rieko.Lib.StatefulResult
import Rieko.Storage.MemoryRecords

namespace Rieko

open StatefulResult

def countCap : Nat := 100000

structure SimulationCounts where
  completed : Nat
  failed : Nat
  stale : Nat
  other : Nat
deriving DecidableEq, Repr

structure StorageCounts where
  findings : Nat
  recommendations : Nat
  simulations : Nat
  audit : Nat
  channelSnapshots : Nat
  simulationCounts : SimulationCounts
deriving DecidableEq, Repr

/-- Every operation of the in-memory storage. Where an operation reads the clock, the time is an argument. -/
inductive StorageOp where
  | schemaVersion
  | integrityCheck
  | beginTransaction
  | commitTransaction
  | rollbackTransaction
  | saveFinding (finding : Finding)
  | resolveFindingsForScope (scope : FindingCycleScope)
  | latestFindings (limit : Nat)
  | findingById (findingId : String)
  | latestFindingsByLifecycle (limit : Nat) (lifecycle : FindingLifecycleFilter)
  | findingsForChannel (channelId : String) (limit : Nat)
  | findingsForChannelByLifecycle (channelId : String) (limit : Nat) (lifecycle : FindingLifecycleFilter)
  | saveRecommendation (recommendation : Recommendation)
  | latestRecommendations (limit : Nat)
  | latestActiveRecommendations (limit : Nat)
  | resolveRecommendationsForFinding (findingId : String)
  | recommendationForAction (actionId : String)
  | setActionStage (actionId : String) (stage : ActionStage) (now : DateTime)
  | syncRecommendationLifecycles
  | appendAudit (entry : AuditEntry)
  | recentAudit (limit : Nat)
  | saveChannelSnapshot (snapshot : ChannelSnapshot)
  | recentChannelSnapshots (channelId : String) (limit : Nat)
  | recentChannelSnapshotsForNode (nodeId channelId : String) (limit : Nat)
  | recentChannelSnapshotsForNetwork (network : BitcoinNetwork) (nodeId : Option String) (channelId : String)
      (limit : Nat)
  | channelSnapshotAt (network : BitcoinNetwork) (nodeId channelId : String) (observedAt : DateTime)
  | recentSnapshotsAll (limit : Nat)
  | pruneChannelSnapshots (policy : RetentionPolicy) (now : DateTime)
  | saveSimulation (simulation : Simulation)
  | recentSimulations (limit : Nat)
  | simulationsForAction (actionId : String)
  | saveSimulationV2 (record : SimulationRecord)
  | recentSimulationsV2 (limit : Nat)
  | recentReplayableSimulationsV2 (limit : Nat)
  | simulationsV2ForAction (actionId : String)
  | simulationV2ById (simulationId : String)
  | replayableSimulationV2ById (simulationId : String)
  | simulationV2ByInputHash (inputHash : String)
  | appendSimulationEvent (event : SimulationEvent)
  | simulationEvents (simulationId : String)
  | isWebhookDeliveryProcessed (deliveryId : String)
  | recordWebhookDelivery (deliveryId : String) (webhookId eventType : Option String) (processedAt : DateTime)
  | enqueueWebhookEvent (deliveryId : String) (webhookId eventType : Option String) (event : NodeEvent)
      (acceptedAt : DateTime)
  | pendingWebhookEvents (limit : Nat)
  | recentProcessedWebhookEvents (limit : Nat)
  | markWebhookEventProcessed (deliveryId : String) (processedAt : DateTime)
  | counts
  | readAlertState (key : String)
  | writeAlertState (key : String) (state : AlertState)
  | readOperationalState
  | writeOperationalState (state : OperationalState)
  | updateOperationalState (f : OperationalState → OperationalState)

inductive StorageValue where
  | unit
  | version (version : Int)
  | findings (findings : List Finding)
  | finding (finding : Option Finding)
  | recommendations (recommendations : List Recommendation)
  | recommendation (recommendation : Option Recommendation)
  | audit (entries : List AuditEntry)
  | channelSnapshots (snapshots : List ChannelSnapshot)
  | channelSnapshot (snapshot : Option ChannelSnapshot)
  | pruned (summary : Option PruneSummary)
  | simulations (simulations : List Simulation)
  | simulationRecords (records : List SimulationRecord)
  | simulationRecord (record : Option SimulationRecord)
  | simulationEvents (events : List SimulationEvent)
  | known (known : Bool)
  | webhookEvents (events : List WebhookEventRecord)
  | counts (counts : StorageCounts)
  | alertState (state : Option AlertState)
  | operationalState (state : Option OperationalState)

inductive StorageAnswer where
  | returned (value : StorageValue)
  | failed (error : StorageError)
  | operationalFailed (error : OperationalStateError)

namespace MemoryStorage

def schemaVersion : StorageM Int := pure currentSchemaVersion

def integrityCheck : StorageM Unit := pure ()

/-- The storage tells no statuses of its simulations apart. -/
def counts : StorageM StorageCounts := do
  let findings ← latestFindings countCap
  let recommendations ← latestRecommendations countCap
  let simulations ← recentSimulations countCap
  let records ← recentSimulationsV2 countCap
  let audit ← recentAudit countCap
  let snapshots ← recentSnapshotsAll countCap
  return {
    findings := findings.length
    recommendations := recommendations.length
    simulations := simulations.length + records.length
    audit := audit.length
    channelSnapshots := snapshots.length
    simulationCounts := ⟨0, 0, 0, 0⟩ }

end MemoryStorage

def answering {ε α : Type} (failure : ε → StorageAnswer) (wrap : α → StorageValue)
    (program : EStateM ε MemoryStorage α) (s : MemoryStorage) : StorageAnswer × MemoryStorage :=
  match program s with
  | .ok a s' => (.returned (wrap a), s')
  | .error e s' => (failure e, s')

def StorageOp.apply : StorageOp → MemoryStorage → StorageAnswer × MemoryStorage
  | schemaVersion => answering .failed .version MemoryStorage.schemaVersion
  | integrityCheck => answering .failed (fun _ => .unit) MemoryStorage.integrityCheck
  | beginTransaction => answering .failed (fun _ => .unit) MemoryStorage.beginTransaction
  | commitTransaction => answering .failed (fun _ => .unit) MemoryStorage.commitTransaction
  | rollbackTransaction => answering .failed (fun _ => .unit) MemoryStorage.rollbackTransaction
  | saveFinding finding => answering .failed (fun _ => .unit) (MemoryStorage.saveFinding finding)
  | resolveFindingsForScope scope =>
    answering .failed (fun _ => .unit) (MemoryStorage.resolveFindingsForScope scope)
  | latestFindings limit => answering .failed .findings (MemoryStorage.latestFindings limit)
  | findingById findingId => answering .failed .finding (MemoryStorage.findingById findingId)
  | latestFindingsByLifecycle limit lifecycle =>
    answering .failed .findings (MemoryStorage.latestFindingsByLifecycle limit lifecycle)
  | findingsForChannel channelId limit =>
    answering .failed .findings (MemoryStorage.findingsForChannel channelId limit)
  | findingsForChannelByLifecycle channelId limit lifecycle =>
    answering .failed .findings (MemoryStorage.findingsForChannelByLifecycle channelId limit lifecycle)
  | saveRecommendation recommendation =>
    answering .failed (fun _ => .unit) (MemoryStorage.saveRecommendation recommendation)
  | latestRecommendations limit =>
    answering .failed .recommendations (MemoryStorage.latestRecommendations limit)
  | latestActiveRecommendations limit =>
    answering .failed .recommendations (MemoryStorage.latestActiveRecommendations limit)
  | resolveRecommendationsForFinding findingId =>
    answering .failed (fun _ => .unit) (MemoryStorage.resolveRecommendationsForFinding findingId)
  | recommendationForAction actionId =>
    answering .failed .recommendation (MemoryStorage.recommendationForAction actionId)
  | setActionStage actionId stage now =>
    answering .failed (fun _ => .unit) (MemoryStorage.setActionStage actionId stage now)
  | syncRecommendationLifecycles =>
    answering .failed (fun _ => .unit) MemoryStorage.syncRecommendationLifecycles
  | appendAudit entry => answering .failed (fun _ => .unit) (MemoryStorage.appendAudit entry)
  | recentAudit limit => answering .failed .audit (MemoryStorage.recentAudit limit)
  | saveChannelSnapshot snapshot =>
    answering .failed (fun _ => .unit) (MemoryStorage.saveChannelSnapshot snapshot)
  | recentChannelSnapshots channelId limit =>
    answering .failed .channelSnapshots (MemoryStorage.recentChannelSnapshots channelId limit)
  | recentChannelSnapshotsForNode nodeId channelId limit =>
    answering .failed .channelSnapshots (MemoryStorage.recentChannelSnapshotsForNode nodeId channelId limit)
  | recentChannelSnapshotsForNetwork network nodeId channelId limit =>
    answering .failed .channelSnapshots
      (MemoryStorage.recentChannelSnapshotsForNetwork network nodeId channelId limit)
  | channelSnapshotAt network nodeId channelId observedAt =>
    answering .failed .channelSnapshot (MemoryStorage.channelSnapshotAt network nodeId channelId observedAt)
  | recentSnapshotsAll limit => answering .failed .channelSnapshots (MemoryStorage.recentSnapshotsAll limit)
  | pruneChannelSnapshots policy now =>
    answering .failed .pruned (MemoryStorage.pruneChannelSnapshots policy now)
  | saveSimulation simulation =>
    answering .failed (fun _ => .unit) (MemoryStorage.saveSimulation simulation)
  | recentSimulations limit => answering .failed .simulations (MemoryStorage.recentSimulations limit)
  | simulationsForAction actionId =>
    answering .failed .simulations (MemoryStorage.simulationsForAction actionId)
  | saveSimulationV2 record => answering .failed (fun _ => .unit) (MemoryStorage.saveSimulationV2 record)
  | recentSimulationsV2 limit =>
    answering .failed .simulationRecords (MemoryStorage.recentSimulationsV2 limit)
  | recentReplayableSimulationsV2 limit =>
    answering .failed .simulationRecords (MemoryStorage.recentReplayableSimulationsV2 limit)
  | simulationsV2ForAction actionId =>
    answering .failed .simulationRecords (MemoryStorage.simulationsV2ForAction actionId)
  | simulationV2ById simulationId =>
    answering .failed .simulationRecord (MemoryStorage.simulationV2ById simulationId)
  | replayableSimulationV2ById simulationId =>
    answering .failed .simulationRecord (MemoryStorage.replayableSimulationV2ById simulationId)
  | simulationV2ByInputHash inputHash =>
    answering .failed .simulationRecord (MemoryStorage.simulationV2ByInputHash inputHash)
  | appendSimulationEvent event =>
    answering .failed (fun _ => .unit) (MemoryStorage.appendSimulationEvent event)
  | simulationEvents simulationId =>
    answering .failed .simulationEvents (MemoryStorage.simulationEventsFor simulationId)
  | isWebhookDeliveryProcessed deliveryId =>
    answering .failed .known (MemoryStorage.isWebhookDeliveryProcessed deliveryId)
  | recordWebhookDelivery deliveryId webhookId eventType processedAt =>
    answering .failed (fun _ => .unit)
      (MemoryStorage.recordWebhookDelivery deliveryId webhookId eventType processedAt)
  | enqueueWebhookEvent deliveryId webhookId eventType event acceptedAt =>
    answering .failed (fun _ => .unit)
      (MemoryStorage.enqueueWebhookEvent deliveryId webhookId eventType event acceptedAt)
  | pendingWebhookEvents limit =>
    answering .failed .webhookEvents (MemoryStorage.pendingWebhookEvents limit)
  | recentProcessedWebhookEvents limit =>
    answering .failed .webhookEvents (MemoryStorage.recentProcessedWebhookEvents limit)
  | markWebhookEventProcessed deliveryId processedAt =>
    answering .failed (fun _ => .unit) (MemoryStorage.markWebhookEventProcessed deliveryId processedAt)
  | counts => answering .failed .counts MemoryStorage.counts
  | readAlertState key => answering .failed .alertState (MemoryStorage.readAlertState key)
  | writeAlertState key state =>
    answering .failed (fun _ => .unit) (MemoryStorage.writeAlertState key state)
  | readOperationalState =>
    answering .operationalFailed .operationalState MemoryStorage.readOperationalState
  | writeOperationalState state =>
    answering .operationalFailed (fun _ => .unit) (MemoryStorage.writeOperationalState state)
  | updateOperationalState f =>
    answering .operationalFailed (fun _ => .unit) (MemoryStorage.updateOperationalState f)

def StorageOp.leavesFindings : StorageOp → Bool
  | beginTransaction | commitTransaction | rollbackTransaction | saveFinding _
  | resolveFindingsForScope _ => false
  | _ => true

theorem StorageOp.apply_leaves {op : StorageOp} (leaves : op.leavesFindings = true) (s : MemoryStorage)
    (absent : HashMap Nat) :
    op.apply { s with findingAbsent := absent } =
        ((op.apply s).1, { (op.apply s).2 with findingAbsent := absent }) ∧
      (op.apply s).2.findings = s.findings ∧ (op.apply s).2.findingAbsent = s.findingAbsent ∧
      (op.apply s).2.transactionSnapshot = s.transactionSnapshot := by
  cases op with
  | beginTransaction | commitTransaction | rollbackTransaction | saveFinding _ | resolveFindingsForScope _ =>
    cases leaves
  | pruneChannelSnapshots policy now =>
    simp only [apply, answering, MemoryStorage.pruneChannelSnapshots]
    cases now.checkedSub ((TimeDelta.fromStd policy.snapshotMaxAge).getD 0) <;>
      cases now.checkedSub ((TimeDelta.fromStd policy.closedChannelMaxAge).getD 0) <;> exact ⟨rfl, rfl, rfl, rfl⟩
  | saveSimulationV2 record =>
    simp only [apply, answering, MemoryStorage.saveSimulationV2]
    cases Rows.lookup SimulationRecord.id s.simulationRecords record.id with
    | some existing => by_cases same : (existing == record) = true <;> simp [same]
    | none =>
      by_cases taken : record.inputHash ≠ "" ∧ record.replayable = true ∧ (s.simulationRecords.any fun existing =>
          existing.inputHash = record.inputHash ∧ existing.replayable) = true
      · simp only [if_pos taken, and_self]
      · simp only [if_neg taken, and_self]
  | appendSimulationEvent event =>
    simp only [apply, answering, MemoryStorage.appendSimulationEvent]
    by_cases known : (s.simulationEvents.any fun existing => decide (existing.id = event.id)) = true
    · simp only [if_pos known, and_self]
    · simp only [if_neg known, and_self]
  | markWebhookEventProcessed deliveryId processedAt =>
    simp only [apply, answering, MemoryStorage.markWebhookEventProcessed]
    cases s.webhookEvents.lookup deliveryId <;> exact ⟨rfl, rfl, rfl, rfl⟩
  | _ => exact ⟨rfl, rfl, rfl, rfl⟩

theorem StorageOp.apply_absent {op : StorageOp} (leaves : op.leavesFindings = true) (s : MemoryStorage)
    (absent : HashMap Nat) :
    op.apply { s with findingAbsent := absent } =
      ((op.apply s).1, { (op.apply s).2 with findingAbsent := absent }) := (apply_leaves leaves s absent).1

theorem StorageOp.apply_frame {op : StorageOp} (leaves : op.leavesFindings = true) (s : MemoryStorage) :
    (op.apply s).2.findings = s.findings ∧ (op.apply s).2.findingAbsent = s.findingAbsent ∧
      (op.apply s).2.transactionSnapshot = s.transactionSnapshot := (apply_leaves leaves s s.findingAbsent).2

end Rieko
