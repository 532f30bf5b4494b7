import Rieko.Simulation.Model

namespace Rieko

open Json

/-- The texts of instants inside JSON, with their reading. -/
structure InstantText where
  write : DateTime → String
  read : String → Option DateTime

namespace InstantText

def encode (instants : InstantText) (t : DateTime) : Json := .string (instants.write t)

def decode (instants : InstantText) (value : Json) : Option DateTime := value.asStr.bind instants.read

def ReadsBack (instants : InstantText) : Prop := ∀ t, instants.read (instants.write t) = some t

theorem decode_encode {instants : InstantText} (reads : instants.ReadsBack) (t : DateTime) :
    instants.decode (instants.encode t) = some t := reads t

end InstantText

section Names

def BitcoinNetwork.encode (network : BitcoinNetwork) : Json := .string network.toString

def BitcoinNetwork.decode (value : Json) : Option BitcoinNetwork :=
  match value.asStr with
  | some "mainnet" => some .mainnet
  | some "testnet" => some .testnet
  | some "signet" => some .signet
  | some "regtest" => some .regtest
  | _ => none

def ChannelStatus.encode : ChannelStatus → Json
  | .opening => .string "Opening"
  | .active => .string "Active"
  | .inactive => .string "Inactive"
  | .closing => .string "Closing"
  | .closed => .string "Closed"
  | .pendingOpen => .string "PendingOpen"
  | .waitingClose => .string "WaitingClose"
  | .forceClosing => .string "ForceClosing"
  | .unknown => .string "Unknown"

def ChannelStatus.decode (value : Json) : Option ChannelStatus :=
  match value.asStr with
  | some "Opening" => some .opening
  | some "Active" => some .active
  | some "Inactive" => some .inactive
  | some "Closing" => some .closing
  | some "Closed" => some .closed
  | some "PendingOpen" => some .pendingOpen
  | some "WaitingClose" => some .waitingClose
  | some "ForceClosing" => some .forceClosing
  | some "Unknown" => some .unknown
  | _ => none

def ActionType.encode : ActionType → Json
  | .rebalanceChannel => .string "RebalanceChannel"
  | .updateFeePolicy => .string "UpdateFeePolicy"
  | .restartService => .string "RestartService"
  | .custom => .string "Custom"

def ActionType.decode (value : Json) : Option ActionType :=
  match value.asStr with
  | some "RebalanceChannel" => some .rebalanceChannel
  | some "UpdateFeePolicy" => some .updateFeePolicy
  | some "RestartService" => some .restartService
  | some "Custom" => some .custom
  | _ => none

def FindingDirection.encode : FindingDirection → Json
  | .outbound => .string "outbound"
  | .inbound => .string "inbound"

def FindingDirection.decode (value : Json) : Option FindingDirection :=
  match value.asStr with
  | some "outbound" => some .outbound
  | some "inbound" => some .inbound
  | _ => none

def ProducerRole.encode : ProducerRole → Json
  | .ingest => .string "ingest"
  | .normalizer => .string "normalizer"
  | .detector => .string "detector"

def ProducerRole.decode (value : Json) : Option ProducerRole :=
  match value.asStr with
  | some "ingest" => some .ingest
  | some "normalizer" => some .normalizer
  | some "detector" => some .detector
  | _ => none

def SimulationNoticeSeverity.encode : SimulationNoticeSeverity → Json
  | .info => .string "info"
  | .warning => .string "warning"
  | .critical => .string "critical"

end Names

section Provenance

variable (instants : InstantText)

def ObservationSource.encode : ObservationSource → Json
  | .fixture redactedHash configuredNode =>
    .ofPairs [("kind", .string "fixture"), ("redacted_hash", .string redactedHash),
      ("configured_node", .string configuredNode)]
  | .lnd redactedEndpoint configuredNode =>
    .ofPairs [("kind", .string "lnd"), ("redacted_endpoint", .string redactedEndpoint),
      ("configured_node", .string configuredNode)]
  | .btcPay redactedEndpoint configuredStore underlyingNode =>
    .ofPairs ([("kind", .string "btc_pay"), ("redacted_endpoint", .string redactedEndpoint),
      ("configured_store", .string configuredStore)] ++ present "underlying_node" .string underlyingNode)

def ObservationSource.decode (value : Json) : Option ObservationSource :=
  match value.field "kind" asStr with
  | some "fixture" => do
    return .fixture (← value.field "redacted_hash" asStr) (← value.field "configured_node" asStr)
  | some "lnd" => do
    return .lnd (← value.field "redacted_endpoint" asStr) (← value.field "configured_node" asStr)
  | some "btc_pay" => do
    return .btcPay (← value.field "redacted_endpoint" asStr) (← value.field "configured_store" asStr)
      (← value.optionalField "underlying_node" asStr)
  | _ => none

def ProducerVersion.encode (producer : ProducerVersion) : Json :=
  .ofPairs [("name", .string producer.name), ("version", .string producer.version), ("role", producer.role.encode)]

def ProducerVersion.decode (value : Json) : Option ProducerVersion := do
  return ⟨← value.field "name" asStr, ← value.field "version" asStr, ← value.field "role" ProducerRole.decode⟩

def ChannelSnapshotReference.encode (reference : ChannelSnapshotReference) : Json :=
  .ofPairs (present "network" BitcoinNetwork.encode reference.network ++
    [("observed_at", instants.encode reference.observedAt), ("state_digest", .string reference.stateDigest)])

def ChannelSnapshotReference.decode (value : Json) : Option ChannelSnapshotReference := do
  return ⟨← value.optionalField "network" BitcoinNetwork.decode, ← value.field "observed_at" instants.decode,
    ← value.field "state_digest" asStr⟩

def ObservationReference.encode : ObservationReference → Json
  | .channelState channelId snapshot =>
    .ofPairs [("kind", .string "channel_state"), ("channel_id", .string channelId),
      ("snapshot", snapshot.encode instants)]
  | .channelWindow channelId snapshots =>
    .ofPairs [("kind", .string "channel_window"), ("channel_id", .string channelId),
      ("snapshots", .array (snapshots.map (·.encode instants)))]

def ObservationReference.decode (value : Json) : Option ObservationReference :=
  match value.field "kind" asStr with
  | some "channel_state" => do
    return .channelState (← value.field "channel_id" asStr)
      (← value.field "snapshot" (ChannelSnapshotReference.decode instants))
  | some "channel_window" => do
    return .channelWindow (← value.field "channel_id" asStr)
      (← value.field "snapshots" fun items => items.asArray.bind (·.mapM (ChannelSnapshotReference.decode instants)))
  | _ => none

def FindingProvenance.encode (provenance : FindingProvenance) : Json :=
  .ofPairs (present "network" BitcoinNetwork.encode provenance.network ++
    [("source", provenance.source.encode), ("producers", .array (provenance.producers.map (·.encode))),
      ("observation", provenance.observation.encode instants)])

def FindingProvenance.decode (value : Json) : Option FindingProvenance := do
  return {
    network := ← value.optionalField "network" BitcoinNetwork.decode
    source := ← value.field "source" ObservationSource.decode
    producers := ← value.field "producers" fun items => items.asArray.bind (·.mapM ProducerVersion.decode)
    observation := ← value.field "observation" (ObservationReference.decode instants) }

end Provenance

section Input

variable (instants : InstantText)

def LiquidityRedistributionParameters.encode (parameters : LiquidityRedistributionParameters) : Json :=
  .ofPairs [("source_channel", .string parameters.sourceChannel),
    ("destination_channel", .string parameters.destinationChannel), ("amount_msat", .ofNat parameters.amountMsat)]

def LiquidityRedistributionParameters.decode (value : Json) : Option LiquidityRedistributionParameters := do
  return ⟨← value.field "source_channel" asStr, ← value.field "destination_channel" asStr,
    ← value.field "amount_msat" asU64⟩

def ChannelSnapshot.fields (snapshot : ChannelSnapshot) : List (String × Json) := [
  ("node_id", .ofOption .string snapshot.nodeId),
  ("network", .ofOption BitcoinNetwork.encode snapshot.network),
  ("state_digest", .ofOption .string snapshot.stateDigest),
  ("channel_id", .string snapshot.channelId),
  ("local_ratio", .ofF64 snapshot.localRatio),
  ("local_balance_msat", .ofNat snapshot.localBalanceMsat),
  ("remote_balance_msat", .ofNat snapshot.remoteBalanceMsat),
  ("capacity_msat", .ofNat snapshot.capacityMsat),
  ("status", snapshot.status.encode),
  ("ts", instants.encode snapshot.ts),
  ("spendable_outbound_msat", .ofNat snapshot.spendableOutboundMsat),
  ("spendable_inbound_msat", .ofNat snapshot.spendableInboundMsat)]

def ChannelSnapshot.encode (snapshot : ChannelSnapshot) : Json := .ofPairs (snapshot.fields instants)

/-- The two spendable amounts are zero where they are absent. -/
def ChannelSnapshot.decode (value : Json) : Option ChannelSnapshot := do
  return {
    nodeId := ← value.optionalField "node_id" asStr
    network := ← value.optionalField "network" BitcoinNetwork.decode
    stateDigest := ← value.optionalField "state_digest" asStr
    channelId := ← value.field "channel_id" asStr
    localRatio := ← value.field "local_ratio" asF64
    localBalanceMsat := ← value.field "local_balance_msat" asU64
    remoteBalanceMsat := ← value.field "remote_balance_msat" asU64
    capacityMsat := ← value.field "capacity_msat" asU64
    status := ← value.field "status" ChannelStatus.decode
    ts := ← value.field "ts" instants.decode
    spendableOutboundMsat := ← asU64 ((value.get "spendable_outbound_msat").getD (.ofNat 0))
    spendableInboundMsat := ← asU64 ((value.get "spendable_inbound_msat").getD (.ofNat 0)) }

def SimulationInput.fields (input : SimulationInput) : List (String × Json) := [
  ("recommendation_id", .string input.recommendationId),
  ("recommendation_target", .string input.recommendationTarget),
  ("finding_id", .string input.findingId),
  ("finding_channel", .string input.findingChannel),
  ("finding_direction", .ofOption FindingDirection.encode input.findingDirection),
  ("node_id", .string input.nodeId),
  ("network", .ofOption BitcoinNetwork.encode input.network),
  ("provenance", input.provenance.encode instants),
  ("action_type", input.actionType.encode),
  ("model_id", .string input.modelId),
  ("model_version", .string input.modelVersion),
  ("parameters", input.parameters.encode),
  ("source_snapshot", input.sourceSnapshot.encode instants),
  ("destination_snapshot", input.destinationSnapshot.encode instants)]

def SimulationInput.encode (input : SimulationInput) : Json := .ofPairs (input.fields instants)

def SimulationInput.decode (value : Json) : Option SimulationInput := do
  return {
    recommendationId := ← value.field "recommendation_id" asStr
    recommendationTarget := ← value.field "recommendation_target" asStr
    findingId := ← value.field "finding_id" asStr
    findingChannel := ← value.field "finding_channel" asStr
    findingDirection := ← value.optionalField "finding_direction" FindingDirection.decode
    nodeId := ← value.field "node_id" asStr
    network := ← value.optionalField "network" BitcoinNetwork.decode
    provenance := ← value.field "provenance" (FindingProvenance.decode instants)
    actionType := ← value.field "action_type" ActionType.decode
    modelId := ← value.field "model_id" asStr
    modelVersion := ← value.field "model_version" asStr
    parameters := ← value.field "parameters" LiquidityRedistributionParameters.decode
    sourceSnapshot := ← value.field "source_snapshot" (ChannelSnapshot.decode instants)
    destinationSnapshot := ← value.field "destination_snapshot" (ChannelSnapshot.decode instants) }

end Input

section Result

def Assumption.encode (assumption : Assumption) : Json :=
  .ofPairs [("code", .string assumption.code), ("description", .string assumption.description),
    ("severity", assumption.severity.encode)]

def SimulationWarning.encode (warning : SimulationWarning) : Json :=
  .ofPairs [("code", .string warning.code), ("description", .string warning.description),
    ("severity", warning.severity.encode)]

def ProjectedState.encode (state : ProjectedState) : Json :=
  .ofPairs [("local_ratio", .ofF64 state.localRatio), ("local_balance_msat", .ofNat state.localBalanceMsat),
    ("remote_balance_msat", .ofNat state.remoteBalanceMsat), ("capacity_msat", .ofNat state.capacityMsat)]

def ProjectedDelta.encode (delta : ProjectedDelta) : Json :=
  .ofPairs [("channel_id", .string delta.channelId), ("local_before_msat", .ofNat delta.localBeforeMsat),
    ("local_after_msat", .ofNat delta.localAfterMsat), ("remote_before_msat", .ofNat delta.remoteBeforeMsat),
    ("remote_after_msat", .ofNat delta.remoteAfterMsat), ("delta_msat", .ofNat delta.deltaMsat),
    ("clears_finding", .bool delta.clearsFinding)]

def encodeAssumptions (assumptions : List Assumption) : Json := .array (assumptions.map (·.encode))

def encodeWarnings (warnings : List SimulationWarning) : Json := .array (warnings.map (·.encode))

def SimulationResult.encode (result : SimulationResult) : Json :=
  .ofPairs [
    ("model_id", .string result.modelId),
    ("model_version", .string result.modelVersion),
    ("input_hash", .string result.inputHash),
    ("baseline", result.baseline.encode),
    ("projected", result.projected.encode),
    ("deltas", .array (result.deltas.map (·.encode))),
    ("assumptions", encodeAssumptions result.assumptions),
    ("warnings", encodeWarnings result.warnings),
    ("confidence", .string result.confidence.asStr)]

end Result

section RoundTrip

variable {instants : InstantText}

theorem BitcoinNetwork.decode_encode (network : BitcoinNetwork) : decode network.encode = some network := by
  cases network <;> rfl

theorem ChannelStatus.decode_encode (status : ChannelStatus) : decode status.encode = some status := by
  cases status <;> rfl

theorem ActionType.decode_encode (actionType : ActionType) : decode actionType.encode = some actionType := by
  cases actionType <;> rfl

theorem FindingDirection.decode_encode (direction : FindingDirection) : decode direction.encode = some direction := by
  cases direction <;> rfl

theorem ProducerRole.decode_encode (role : ProducerRole) : decode role.encode = some role := by
  cases role <;> rfl

theorem ObservationSource.decode_encode (source : ObservationSource) : decode source.encode = some source := by
  unfold decode encode
  cases source with
  | fixture redactedHash configuredNode =>
    simp (disch := simp) only [field_ofPairs]
    rfl
  | lnd redactedEndpoint configuredNode =>
    simp (disch := simp) only [field_ofPairs]
    rfl
  | btcPay redactedEndpoint configuredStore underlyingNode =>
    cases underlyingNode with
    | none =>
      simp (disch := simp [present]) only [field_ofPairs, optionalField_ofPairs]
      rfl
    | some node =>
      simp (disch := simp [present]) only [field_ofPairs, optionalField_ofPairs]
      rfl

theorem ProducerVersion.decode_encode (producer : ProducerVersion) : decode producer.encode = some producer := by
  unfold decode encode
  simp (disch := simp) only [field_ofPairs]
  simp [List.lookup_cons, ProducerRole.decode_encode, asStr]

theorem ChannelSnapshotReference.decode_encode (reads : instants.ReadsBack) (reference : ChannelSnapshotReference) :
    decode instants (reference.encode instants) = some reference := by
  obtain ⟨network, observedAt, stateDigest⟩ := reference
  unfold decode encode
  cases network with
  | none =>
    simp (disch := simp [present]) only [optionalField_ofPairs, field_ofPairs]
    simp [present, List.lookup_cons, InstantText.decode_encode reads, nullable, asStr]
  | some network =>
    simp (disch := simp [present]) only [optionalField_ofPairs, field_ofPairs]
    have read : nullable BitcoinNetwork.decode (some network.encode) = some (some network) :=
      nullable_ofOption BitcoinNetwork.decode_encode (fun _ => rfl) (some network)
    simp [present, List.lookup_cons, InstantText.decode_encode reads, read, asStr]

theorem mapM_decode {α : Type} {encode : α → Json} {decode : Json → Option α}
    (reads : ∀ a, decode (encode a) = some a) (items : List α) : (items.map encode).mapM decode = some items := by
  induction items with
  | nil => rfl
  | cons a items ih => simp [List.mapM_cons, reads, ih]

theorem ObservationReference.decode_encode (reads : instants.ReadsBack) (observation : ObservationReference) :
    decode instants (observation.encode instants) = some observation := by
  unfold decode encode
  cases observation with
  | channelState channelId snapshot =>
    simp (disch := simp) only [field_ofPairs]
    show Option.bind (some channelId) _ = _
    simp [List.lookup_cons, ChannelSnapshotReference.decode_encode reads]
  | channelWindow channelId snapshots =>
    simp (disch := simp) only [field_ofPairs]
    show Option.bind (some channelId) _ = _
    simp [List.lookup_cons, asArray, mapM_decode (ChannelSnapshotReference.decode_encode reads)]

theorem FindingProvenance.decode_encode (reads : instants.ReadsBack) (provenance : FindingProvenance) :
    decode instants (provenance.encode instants) = some provenance := by
  obtain ⟨network, source, producers, observation⟩ := provenance
  have producing := mapM_decode ProducerVersion.decode_encode producers
  unfold decode encode
  cases network with
  | none =>
    simp (disch := simp [present]) only [optionalField_ofPairs, field_ofPairs]
    simp [present, List.lookup_cons, ObservationSource.decode_encode, ObservationReference.decode_encode reads,
      nullable, asArray, producing]
  | some network =>
    simp (disch := simp [present]) only [optionalField_ofPairs, field_ofPairs]
    have read : nullable BitcoinNetwork.decode (some network.encode) = some (some network) :=
      nullable_ofOption BitcoinNetwork.decode_encode (fun _ => rfl) (some network)
    simp [present, List.lookup_cons, ObservationSource.decode_encode, ObservationReference.decode_encode reads, read,
      asArray, producing]

theorem LiquidityRedistributionParameters.decode_encode (parameters : LiquidityRedistributionParameters) :
    decode parameters.encode = some parameters := by
  unfold decode encode
  simp (disch := simp) only [field_ofPairs]
  rfl

theorem ChannelSnapshot.fields_nodup (snapshot : ChannelSnapshot) :
    ((snapshot.fields instants).map Prod.fst).Nodup := by simp [fields]

theorem SimulationInput.fields_nodup (input : SimulationInput) : ((input.fields instants).map Prod.fst).Nodup := by
  simp [fields]

theorem ChannelSnapshot.decode_encode (reads : instants.ReadsBack) (snapshot : ChannelSnapshot)
    (finite : snapshot.localRatio.isFinite = true) : decode instants (snapshot.encode instants) = some snapshot := by
  unfold decode encode
  have ratio : asF64 (ofF64 snapshot.localRatio) = some snapshot.localRatio := by
    unfold ofF64
    rw [if_pos finite]
    rfl
  have number (n : Nat) : asU64 (ofNat n) = some n := rfl
  have network := nullable_ofOption BitcoinNetwork.decode_encode (fun _ => rfl) snapshot.network
  have text (value : Option String) : nullable asStr (some (ofOption .string value)) = some value := by
    cases value <;> rfl
  simp only [field_ofPairs snapshot.fields_nodup, optionalField_ofPairs snapshot.fields_nodup,
    get_ofPairs snapshot.fields_nodup]
  simp [fields, List.lookup_cons, InstantText.decode_encode reads, ChannelStatus.decode_encode, ratio, number,
    network, text,
    asStr]

theorem SimulationInput.decode_encode (reads : instants.ReadsBack) (input : SimulationInput)
    (source : input.sourceSnapshot.localRatio.isFinite = true)
    (destination : input.destinationSnapshot.localRatio.isFinite = true) :
    decode instants (input.encode instants) = some input := by
  unfold decode encode
  have network := nullable_ofOption BitcoinNetwork.decode_encode (fun _ => rfl) input.network
  have direction := nullable_ofOption FindingDirection.decode_encode (fun direction => by cases direction <;> rfl)
    input.findingDirection
  simp only [field_ofPairs input.fields_nodup, optionalField_ofPairs input.fields_nodup]
  simp [fields, List.lookup_cons, network, direction, FindingProvenance.decode_encode reads, ActionType.decode_encode,
    LiquidityRedistributionParameters.decode_encode, ChannelSnapshot.decode_encode reads _ source,
    ChannelSnapshot.decode_encode reads _ destination, asStr]

end RoundTrip

end Rieko
