import Rieko.Storage.Memory
import Mathlib.Data.List.Induction
import Mathlib.Data.List.Sort

namespace Rieko

structure ChannelKey where
  network : Option BitcoinNetwork
  nodeId : Option String
  channelId : String
deriving DecidableEq, Repr

namespace ChannelKey

def of (snapshot : ChannelSnapshot) : ChannelKey :=
  ⟨snapshot.network, snapshot.nodeId, snapshot.channelId⟩

def compare (a b : ChannelKey) : Ordering :=
  (Ord.compare (a.network.map BitcoinNetwork.rank) (b.network.map BitcoinNetwork.rank)).then
    ((Ord.compare a.nodeId b.nodeId).then (Ord.compare a.channelId b.channelId))

end ChannelKey

def newestFirst (snapshots : List ChannelSnapshot) : List ChannelSnapshot :=
  snapshots.insertionSort fun a b => b.ts ≤ a.ts

def byChannel (snapshots : List ChannelSnapshot) : List (List ChannelSnapshot) :=
  let keys := (snapshots.map ChannelKey.of).dedup.insertionSort fun a b => (a.compare b).isLE
  keys.map fun key => snapshots.filter fun snapshot => ChannelKey.of snapshot = key

def retained (policy : RetentionPolicy) (activeCutoff closedCutoff : DateTime)
    (snapshots : List ChannelSnapshot) : List ChannelSnapshot :=
  let young := (byChannel snapshots).flatMap fun group => (newestFirst group).filter fun snapshot =>
    (if snapshot.status.isClosed then closedCutoff else activeCutoff) ≤ snapshot.ts
  let capped := match policy.maxSnapshotsPerChannel with
    | some cap => (byChannel young).flatMap fun group => (newestFirst group).take cap
    | none => young
  match policy.maxTotalSnapshots with
  | some total => (newestFirst capped).take total
  | none => capped

def SimulationRecord.replayable (record : SimulationRecord) : Bool :=
  !record.canonicalInput.isNull && !record.projection.isNull

def latestCreated : List SimulationRecord → Option SimulationRecord :=
  List.foldl (fun best record => match best with
    | some held => if held.createdAt ≤ record.createdAt then some record else some held
    | none => some record) none

theorem mem_of_latestCreated {records : List SimulationRecord} {record : SimulationRecord}
    (latest : latestCreated records = some record) : record ∈ records := by
  induction records using List.reverseRec with
  | nil => cases latest
  | append_singleton records last ih =>
    unfold latestCreated at latest ih
    rw [List.foldl_append] at latest
    simp only [List.foldl_cons, List.foldl_nil] at latest
    rw [List.mem_append, List.mem_singleton]
    cases held : records.foldl _ none with
    | none => rw [held] at latest; cases latest; exact .inr rfl
    | some best =>
      rw [held] at latest
      dsimp only at latest
      split at latest <;> cases latest
      · exact .inr rfl
      · exact .inl (ih held)

theorem latestCreated_append {records : List SimulationRecord} {record : SimulationRecord}
    (newest : ∀ earlier ∈ records, earlier.createdAt ≤ record.createdAt) :
    latestCreated (records ++ [record]) = some record := by
  cases held : latestCreated records with
  | none =>
    unfold latestCreated at held ⊢
    rw [List.foldl_append, held]
    rfl
  | some best =>
    have later := newest best (mem_of_latestCreated held)
    unfold latestCreated at held ⊢
    rw [List.foldl_append, held]
    exact if_pos later

namespace MemoryStorage

/-- Nothing is returned where the age reaches beyond the calendar, on which the source panics. -/
def pruneChannelSnapshots (policy : RetentionPolicy) (now : DateTime) :
    StorageM (Option PruneSummary) := fun s =>
  match now.checkedSub ((TimeDelta.fromStd policy.snapshotMaxAge).getD 0),
      now.checkedSub ((TimeDelta.fromStd policy.closedChannelMaxAge).getD 0) with
  | some activeCutoff, some closedCutoff =>
    let kept := retained policy activeCutoff closedCutoff s.channelSnapshots
    .ok (some ⟨s.channelSnapshots.length - kept.length, true⟩) { s with channelSnapshots := kept }
  | _, _ => .ok none s

def saveSimulation (simulation : Simulation) : StorageM Unit := modify fun s =>
  { s with simulations := s.simulations ++ [simulation] }

def recentSimulations (limit : Nat) : StorageM (List Simulation) := fun s =>
  .ok (s.simulations.reverse.take limit) s

def simulationsForAction (actionId : String) : StorageM (List Simulation) := fun s =>
  .ok (s.simulations.filter (·.actionId = actionId)).reverse s

def saveSimulationV2 (record : SimulationRecord) : StorageM Unit := fun s =>
  match Rows.lookup SimulationRecord.id s.simulationRecords record.id with
  | some existing =>
    if existing == record then .ok () s
    else .error (.backend s!"simulation {record.id} is immutable") s
  | none =>
    if record.inputHash ≠ "" ∧ record.replayable ∧ s.simulationRecords.any fun existing =>
        existing.inputHash = record.inputHash ∧ existing.replayable then
      .error (.backend s!"simulation input {record.inputHash} already exists") s
    else .ok () { s with simulationRecords := s.simulationRecords ++ [record] }

def recentSimulationsV2 (limit : Nat) : StorageM (List SimulationRecord) := fun s =>
  .ok (s.simulationRecords.reverse.take limit) s

def recentReplayableSimulationsV2 (limit : Nat) : StorageM (List SimulationRecord) := fun s =>
  .ok ((s.simulationRecords.reverse.filter fun record => !record.canonicalInput.isNull).take limit) s

def simulationsV2ForAction (actionId : String) : StorageM (List SimulationRecord) := fun s =>
  .ok (s.simulationRecords.filter (·.actionId = actionId)).reverse s

def simulationV2ById (simulationId : String) : StorageM (Option SimulationRecord) := fun s =>
  .ok (Rows.lookup SimulationRecord.id s.simulationRecords simulationId) s

def replayableSimulationV2ById (simulationId : String) : StorageM (Option SimulationRecord) := fun s =>
  .ok (s.simulationRecords.find? fun record => record.id = simulationId ∧ !record.canonicalInput.isNull) s

def simulationV2ByInputHash (inputHash : String) : StorageM (Option SimulationRecord) := fun s =>
  .ok (latestCreated (s.simulationRecords.filter fun record =>
    inputHash ≠ "" ∧ record.inputHash = inputHash ∧ !record.canonicalInput.isNull)) s

def appendSimulationEvent (event : SimulationEvent) : StorageM Unit := fun s =>
  if s.simulationEvents.any (·.id = event.id) then
    .error (.backend s!"duplicate simulation event {event.id}") s
  else .ok () { s with simulationEvents := s.simulationEvents ++ [event] }

def simulationEventsFor (simulationId : String) : StorageM (List SimulationEvent) := fun s =>
  .ok (s.simulationEvents.filter (·.simulationId = simulationId)) s

def isWebhookDeliveryProcessed (deliveryId : String) : StorageM Bool := fun s =>
  .ok (s.webhookDeliveries.lookup deliveryId).isSome s

def recordWebhookDelivery (deliveryId : String) (webhookId eventType : Option String)
    (processedAt : DateTime) : StorageM Unit := modify fun s =>
  { s with webhookDeliveries := s.webhookDeliveries.insert deliveryId ⟨webhookId, eventType, processedAt⟩ }

def enqueueWebhookEvent (deliveryId : String) (webhookId eventType : Option String) (event : NodeEvent)
    (acceptedAt : DateTime) : StorageM Unit := modify fun s =>
  { s with
    webhookDeliveries :=
      if deliveryId ∈ s.webhookDeliveries then s.webhookDeliveries
      else s.webhookDeliveries.insert deliveryId ⟨webhookId, eventType, acceptedAt⟩
    webhookEvents :=
      if deliveryId ∈ s.webhookEvents then s.webhookEvents
      else s.webhookEvents.insert deliveryId ⟨deliveryId, event, acceptedAt, none⟩ }

def acceptedEvents (s : MemoryStorage) (condition : WebhookEventRecord → Bool) : List WebhookEventRecord :=
  ((s.webhookEvents.entries.map (·.2)).filter condition).insertionSort WebhookEventRecord.acceptedBefore

def pendingWebhookEvents (limit : Nat) : StorageM (List WebhookEventRecord) := fun s =>
  .ok ((s.acceptedEvents (·.processedAt.isNone)).take (webhookLimit limit)) s

def recentProcessedWebhookEvents (limit : Nat) : StorageM (List WebhookEventRecord) := fun s =>
  let events := s.acceptedEvents (·.processedAt.isSome)
  .ok (events.drop (events.length - webhookLimit limit)) s

def markWebhookEventProcessed (deliveryId : String) (processedAt : DateTime) : StorageM Unit := fun s =>
  match s.webhookEvents.lookup deliveryId with
  | none => .error (.backend s!"unknown webhook event {deliveryId}") s
  | some record =>
    .ok () { s with
      webhookEvents := s.webhookEvents.replace deliveryId { record with processedAt := some processedAt } }

def readAlertState (key : String) : StorageM (Option AlertState) := fun s =>
  .ok (s.alertState.lookup key) s

def writeAlertState (key : String) (state : AlertState) : StorageM Unit := modify fun s =>
  { s with alertState := s.alertState.insert key state }

def readOperationalState : EStateM OperationalStateError MemoryStorage (Option OperationalState) :=
  fun s => .ok s.operationalState s

def writeOperationalState (state : OperationalState) : EStateM OperationalStateError MemoryStorage Unit :=
  modify fun s => { s with operationalState := some state }

def updateOperationalState (f : OperationalState → OperationalState) :
    EStateM OperationalStateError MemoryStorage Unit := do
  let state ← readOperationalState
  writeOperationalState (f (state.getD {}))

end MemoryStorage

open MemoryStorage in
instance : Storage MemoryStorage where
  beginTransaction := beginTransaction
  commitTransaction := commitTransaction
  rollbackTransaction := rollbackTransaction
  saveFinding := saveFinding
  resolveFindingsForScope := resolveFindingsForScope
  saveRecommendation := saveRecommendation
  recommendationForAction := recommendationForAction
  syncRecommendationLifecycles _ := syncRecommendationLifecycles
  appendAudit := appendAudit
  saveChannelSnapshot := saveChannelSnapshot
  isWebhookDeliveryProcessed := isWebhookDeliveryProcessed
  enqueueWebhookEvent := enqueueWebhookEvent
  pendingWebhookEvents := pendingWebhookEvents
  recentProcessedWebhookEvents := recentProcessedWebhookEvents
  markWebhookEventProcessed := markWebhookEventProcessed
  updateOperationalState := updateOperationalState

namespace MemoryStorage

open StatefulResult

structure Undisturbed (s s' : MemoryStorage) : Prop where
  transaction : s'.transactionSnapshot = s.transactionSnapshot
  deliveries : s'.webhookDeliveries = s.webhookDeliveries
  events : s'.webhookEvents = s.webhookEvents

theorem writesKeep_of_stable {property : MemoryStorage → Prop}
    (stable : ∀ s s', Undisturbed s s' → property s → property s') : WritesKeep property where
  saveFinding finding := by
    intro s held
    show property (final (saveFinding finding) s)
    unfold final saveFinding
    cases validateFindingSchema finding.schemaVersion with
    | error e => exact held
    | ok _ => exact stable s _ ⟨rfl, rfl, rfl⟩ held
  resolveFindingsForScope scope := by
    intro s held
    have same : s.Undisturbed (s.resolveScope scope) := by
      unfold resolveScope
      split <;> exact ⟨rfl, rfl, rfl⟩
    exact stable s _ same held
  saveRecommendation _ := fun s held => stable s _ ⟨rfl, rfl, rfl⟩ held
  recommendationForAction _ := fun _ held => held
  syncRecommendationLifecycles _ := fun s held => stable s _ ⟨rfl, rfl, rfl⟩ held
  appendAudit _ := fun s held => stable s _ ⟨rfl, rfl, rfl⟩ held
  saveChannelSnapshot _ := fun s held => stable s _ ⟨rfl, rfl, rfl⟩ held
  updateOperationalState _ := fun s held => stable s _ ⟨rfl, rfl, rfl⟩ held

end MemoryStorage

end Rieko
