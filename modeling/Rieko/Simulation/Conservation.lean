import Rieko.Detectors.Liquidity
import Rieko.Simulation.Model

namespace Rieko

namespace LiquidityRedistributionModel

section Checks

variable {α β : Type}

theorem bind_ok {program : Except ModelError α} {next : α → Except ModelError β} {b : β} :
    (program >>= next) = .ok b ↔ ∃ a, program = .ok a ∧ next a = .ok b := by
  cases program with
  | error e => simp [bind, Except.bind]
  | ok a => simp [bind, Except.bind]

theorem ensure_ok {condition : Bool} {message : String} {u : Unit} :
    ensure condition message = .ok u ↔ condition = true := by
  unfold ensure
  cases condition <;> simp

theorem require_ok {value : Option α} {message : String} {a : α} : require value message = .ok a ↔ value = some a := by
  unfold require
  cases value <;> simp

theorem checkedAdd_any_le {a b c : Nat} : (checkedAdd a b).any (· ≤ c) = true ↔ a + b < 2^64 ∧ a + b ≤ c := by
  unfold checkedAdd
  split
  next fits => exact ⟨fun le => ⟨fits, of_decide_eq_true le⟩, fun both => decide_eq_true both.2⟩
  next overflows => exact ⟨fun none => (by cases none), fun both => absurd both.1 overflows⟩

end Checks

structure Coherent (snapshot : ChannelSnapshot) : Prop where
  active : snapshot.status = .active
  capacity : snapshot.capacityMsat ≠ 0
  fits : snapshot.localBalanceMsat + snapshot.remoteBalanceMsat < 2^64
  within : snapshot.localBalanceMsat + snapshot.remoteBalanceMsat ≤ snapshot.capacityMsat

theorem validateSnapshot_ok {label : String} {snapshot : ChannelSnapshot} {u : Unit}
    (valid : validateSnapshot label snapshot = .ok u) : Coherent snapshot := by
  unfold validateSnapshot at valid
  simp only [bind_ok, ensure_ok] at valid
  obtain ⟨-, active, -, capacity, -, balances, -⟩ := valid
  rw [Bool.and_eq_true, checkedAdd_any_le] at balances
  exact ⟨by simpa using active, by simpa using capacity, balances.2.1, balances.2.2⟩

/-- What the calculation relies on in an input that the model accepts. -/
structure Accepted (input : SimulationInput) (direction : FindingDirection) : Prop where
  source : Coherent input.sourceSnapshot
  destination : Coherent input.destinationSnapshot
  apart : input.sourceSnapshot.channelId ≠ input.destinationSnapshot.channelId
  side : input.findingDirection = some direction
  outbound : direction = .outbound → input.findingChannel = input.destinationSnapshot.channelId
  inbound : direction = .inbound → input.findingChannel = input.sourceSnapshot.channelId
  leaves : input.parameters.amountMsat ≤ input.sourceSnapshot.localBalanceMsat
  arrives : input.parameters.amountMsat ≤ input.destinationSnapshot.remoteBalanceMsat
  fits : input.destinationSnapshot.localBalanceMsat + input.parameters.amountMsat < 2^64
  within : input.destinationSnapshot.localBalanceMsat + input.parameters.amountMsat ≤
    input.destinationSnapshot.capacityMsat

theorem validateObservation_ok {ext : External} {network : BitcoinNetwork} {input : SimulationInput}
    {direction : FindingDirection} (valid : validateObservation ext network input = .ok direction) :
    input.findingDirection = some direction ∧
      (direction = .outbound → input.findingChannel = input.parameters.destinationChannel) ∧
      (direction = .inbound → input.findingChannel = input.parameters.sourceChannel) := by
  unfold validateObservation at valid
  simp only [bind_ok, ensure_ok, require_ok] at valid
  obtain ⟨newest, -, -, -, -, -, judged, side, checks⟩ := valid
  cases judged with
  | outbound =>
    simp only [bind_ok, ensure_ok] at checks
    obtain ⟨-, named, -, -, -, -, returned⟩ := checks
    cases returned
    exact ⟨side, fun _ => of_decide_eq_true named, fun other => by cases other⟩
  | inbound =>
    simp only [bind_ok, ensure_ok] at checks
    obtain ⟨-, named, -, -, -, -, returned⟩ := checks
    cases returned
    exact ⟨side, fun other => (by cases other), fun _ => of_decide_eq_true named⟩

theorem validate_ok {ext : External} {input : SimulationInput} {u : Unit} (valid : validate ext input = .ok u) :
    ∃ direction, Accepted input direction := by
  unfold validate at valid
  simp only [bind_ok, ensure_ok] at valid
  obtain ⟨network, -, direction, observation, _, snapshots, -, -, amount⟩ := valid
  obtain ⟨side, outbound, inbound⟩ := validateObservation_ok observation
  unfold validateSnapshots at snapshots
  simp only [bind_ok, ensure_ok] at snapshots
  obtain ⟨-, differ, -, -, -, named, -, -, -, -, -, -, -, -, _, source, destination⟩ := snapshots
  obtain ⟨sourceNamed, destinationNamed⟩ := of_decide_eq_true named
  unfold validateAmount at amount
  simp only [bind_ok, ensure_ok] at amount
  obtain ⟨-, -, -, -, -, moves, fits⟩ := amount
  obtain ⟨leaves, arrives⟩ := of_decide_eq_true moves
  obtain ⟨fits, within⟩ := checkedAdd_any_le.mp fits
  exact ⟨direction, {
    source := validateSnapshot_ok source
    destination := validateSnapshot_ok destination
    apart := by rw [sourceNamed, destinationNamed]; simpa using differ
    side
    outbound := fun out => destinationNamed ▸ outbound out
    inbound := fun in_ => sourceNamed ▸ inbound in_
    leaves, arrives, fits, within }⟩

structure Moves (snapshot : ChannelSnapshot) (delta : ProjectedDelta) : Prop where
  channel : delta.channelId = snapshot.channelId
  localBefore : delta.localBeforeMsat = snapshot.localBalanceMsat
  remoteBefore : delta.remoteBeforeMsat = snapshot.remoteBalanceMsat
  conserved : delta.localAfterMsat + delta.remoteAfterMsat = delta.localBeforeMsat + delta.remoteBeforeMsat
  localWithin : delta.localAfterMsat ≤ snapshot.capacityMsat
  remoteWithin : delta.remoteAfterMsat ≤ snapshot.capacityMsat

def projectedProfile (snapshot : ChannelSnapshot) (delta : ProjectedDelta) : LiquidityProfile :=
  .compute snapshot.capacityMsat delta.localAfterMsat delta.remoteAfterMsat

/-- The finding is cleared on its own channel, where the move leaves the channel balanced, which is where the
    liquidity detector has nothing to say of a channel in that state. -/
structure Clears (input : SimulationInput) (snapshot : ChannelSnapshot) (delta : ProjectedDelta) : Prop where
  flag : delta.clearsFinding = true ↔
    snapshot.channelId = input.findingChannel ∧ (projectedProfile snapshot delta).imbalance = .balanced
  quiet : ∀ (ext : External) (ctx : DetectorContext) (self : LiquidityDetector) (channel : Channel),
    channel.status = snapshot.status → channel.liquidity.localRatio = (projectedProfile snapshot delta).localRatio →
      channel.liquidity.imbalance = (projectedProfile snapshot delta).imbalance →
        (self.judge ext ctx channel = none ↔ (projectedProfile snapshot delta).imbalance = .balanced)

structure Conserves (input : SimulationInput) (result : SimulationResult) (source destination : ProjectedDelta) :
    Prop where
  deltas : result.deltas = [source, destination]
  sourceMoves : Moves input.sourceSnapshot source
  destinationMoves : Moves input.destinationSnapshot destination
  total : source.localAfterMsat + destination.localAfterMsat = source.localBeforeMsat + destination.localBeforeMsat
  baseline : result.baseline = state input.findingSnapshot.localBalanceMsat input.findingSnapshot.remoteBalanceMsat
    input.findingSnapshot.capacityMsat
  projected : let moved := if input.findingChannel = source.channelId then source else destination
    result.projected = state moved.localAfterMsat moved.remoteAfterMsat input.findingSnapshot.capacityMsat
  outbound : input.findingDirection = some .outbound →
    result.projected.localBalanceMsat = result.baseline.localBalanceMsat + input.parameters.amountMsat
  inbound : input.findingDirection = some .inbound →
    result.projected.localBalanceMsat + input.parameters.amountMsat = result.baseline.localBalanceMsat
  sourceClears : Clears input input.sourceSnapshot source
  destinationClears : Clears input input.destinationSnapshot destination

theorem direction_none_iff {profile : LiquidityProfile} (known : profile.imbalance ≠ .unknown) :
    LiquidityDetector.direction profile = none ↔ profile.imbalance = .balanced := by
  unfold LiquidityDetector.direction
  cases class_ : profile.imbalance with
  | unknown => exact absurd class_ known
  | balanced => simp
  | severelyDrained => simp
  | outboundDrained => simp
  | inboundDrained => simp

theorem compute_known {capacity local_ remote : Nat} (positive : capacity ≠ 0) (localWithin : local_ ≤ capacity)
    (remoteWithin : remote ≤ capacity) : (LiquidityProfile.compute capacity local_ remote).imbalance ≠ .unknown := by
  unfold LiquidityProfile.compute
  dsimp only
  rw [if_neg (by omega)]
  unfold LiquidityProfile.classify
  split
  · decide
  split
  · decide
  split
  · decide
  split <;> decide

theorem delta_moves {input : SimulationInput} {snapshot : ChannelSnapshot} {localAfter remoteAfter : Nat}
    (coherent : Coherent snapshot)
    (conserved : localAfter + remoteAfter = snapshot.localBalanceMsat + snapshot.remoteBalanceMsat) :
    Moves snapshot (delta input snapshot localAfter remoteAfter) := by
  have within := coherent.within
  constructor
  · rfl
  · rfl
  · rfl
  · exact conserved
  · show localAfter ≤ snapshot.capacityMsat
    omega
  · show remoteAfter ≤ snapshot.capacityMsat
    omega

theorem delta_clears {input : SimulationInput} {snapshot : ChannelSnapshot} {localAfter remoteAfter : Nat}
    (coherent : Coherent snapshot) (moves : Moves snapshot (delta input snapshot localAfter remoteAfter)) :
    Clears input snapshot (delta input snapshot localAfter remoteAfter) where
  flag := by
    show decide (_ ∧ _) = true ↔ _
    rw [decide_eq_true_iff]
    exact ⟨fun both => ⟨both.1.symm, both.2⟩, fun both => ⟨both.1.symm, both.2⟩⟩
  quiet ext ctx self channel status ratio class_ := by
    have known : (projectedProfile snapshot (delta input snapshot localAfter remoteAfter)).imbalance ≠ .unknown :=
      compute_known coherent.capacity moves.localWithin moves.remoteWithin
    have isOpen : channel.status.isOpen = true := by rw [status, coherent.active]; rfl
    unfold LiquidityDetector.judge
    rw [if_pos isOpen, Option.map_eq_none_iff, direction_none_iff (class_ ▸ known), class_]

theorem Accepted.findingSnapshot {input : SimulationInput} {direction : FindingDirection}
    (accepted : Accepted input direction) :
    input.findingSnapshot = match direction with
      | .outbound => input.destinationSnapshot
      | .inbound => input.sourceSnapshot := by
  unfold SimulationInput.findingSnapshot
  cases direction with
  | outbound => rw [if_pos (accepted.outbound rfl).symm]
  | inbound => rw [if_neg fun same => accepted.apart ((accepted.inbound rfl).symm.trans same.symm)]

theorem Accepted.calculations {input : SimulationInput} {direction : FindingDirection}
    (accepted : Accepted input direction) :
    let amount := input.parameters.amountMsat
    let source := input.sourceSnapshot
    let destination := input.destinationSnapshot
    checkedSub source.localBalanceMsat amount = some (source.localBalanceMsat - amount) ∧
      checkedAdd source.remoteBalanceMsat amount = some (source.remoteBalanceMsat + amount) ∧
      checkedAdd destination.localBalanceMsat amount = some (destination.localBalanceMsat + amount) ∧
      checkedSub destination.remoteBalanceMsat amount = some (destination.remoteBalanceMsat - amount) := by
  have leaves := accepted.leaves
  have sourceFits := accepted.source.fits
  have sourceWithin := accepted.source.within
  exact ⟨if_pos leaves, if_pos (by omega), if_pos accepted.fits, if_pos accepted.arrives⟩

/-- Every input that the model accepts is simulated: no calculation fails, the unchecked sum of the warnings does not
    wrap around, and no balance is gained or lost. -/
theorem simulate_conserves (ext : External) (codec : SimulationCodec) (input : SimulationInput)
    (valid : validate ext input = .ok ()) :
    ∃ result source destination, simulate ext codec input = .ok result ∧ Conserves input result source destination ∧
      input.destinationSnapshot.localBalanceMsat + input.parameters.amountMsat < 2^64 := by
  obtain ⟨direction, accepted⟩ := validate_ok valid
  have leaves := accepted.leaves
  have arrives := accepted.arrives
  have sourceFits := accepted.source.fits
  have sourceWithin := accepted.source.within
  have destinationWithin := accepted.destination.within
  have arrivesWithin := accepted.within
  let amount := input.parameters.amountMsat
  let source := delta input input.sourceSnapshot (input.sourceSnapshot.localBalanceMsat - amount)
    (input.sourceSnapshot.remoteBalanceMsat + amount)
  let destination := delta input input.destinationSnapshot (input.destinationSnapshot.localBalanceMsat + amount)
    (input.destinationSnapshot.remoteBalanceMsat - amount)
  obtain ⟨sourceLocal, sourceRemote, destinationLocal, destinationRemote⟩ := accepted.calculations
  let states : ProjectedState × ProjectedState :=
    if input.findingChannel = input.sourceSnapshot.channelId then
      (state source.localBeforeMsat source.remoteBeforeMsat input.sourceSnapshot.capacityMsat,
        state source.localAfterMsat source.remoteAfterMsat input.sourceSnapshot.capacityMsat)
    else
      (state destination.localBeforeMsat destination.remoteBeforeMsat input.destinationSnapshot.capacityMsat,
        state destination.localAfterMsat destination.remoteAfterMsat input.destinationSnapshot.capacityMsat)
  let result : SimulationResult := {
    modelId, modelVersion, assumptions
    baseline := states.1
    projected := states.2
    inputHash := computeInputHash ext codec input
    deltas := [source, destination]
    warnings := buildWarnings input.sourceSnapshot input.destinationSnapshot amount
    confidence := .medium }
  have ran : simulate ext codec input = .ok result := by
    unfold simulate
    refine bind_ok.mpr ⟨(), valid, ?_⟩
    refine bind_ok.mpr ⟨_, congrArg (calculate · "source local underflow") sourceLocal, ?_⟩
    refine bind_ok.mpr ⟨_, congrArg (calculate · "source remote overflow") sourceRemote, ?_⟩
    refine bind_ok.mpr ⟨_, congrArg (calculate · "destination local overflow") destinationLocal, ?_⟩
    refine bind_ok.mpr ⟨_, congrArg (calculate · "destination remote underflow") destinationRemote, ?_⟩
    rfl
  have sourceMoves : Moves input.sourceSnapshot source :=
    delta_moves accepted.source (by omega)
  have destinationMoves : Moves input.destinationSnapshot destination :=
    delta_moves accepted.destination (by omega)
  refine ⟨result, source, destination, ran, ?_, accepted.fits⟩
  have total : source.localAfterMsat + destination.localAfterMsat =
      source.localBeforeMsat + destination.localBeforeMsat := by
    show input.sourceSnapshot.localBalanceMsat - amount + (input.destinationSnapshot.localBalanceMsat + amount) =
      input.sourceSnapshot.localBalanceMsat + input.destinationSnapshot.localBalanceMsat
    omega
  have findingSnapshot := accepted.findingSnapshot
  cases direction with
  | outbound =>
    have named : input.findingChannel ≠ source.channelId := fun same =>
      accepted.apart (same.symm.trans (accepted.outbound rfl))
    have states_eq : states = (state destination.localBeforeMsat destination.remoteBeforeMsat
      input.destinationSnapshot.capacityMsat, state destination.localAfterMsat destination.remoteAfterMsat
        input.destinationSnapshot.capacityMsat) := if_neg named
    exact {
      deltas := rfl
      sourceMoves, destinationMoves, total
      baseline := by rw [findingSnapshot]; exact congrArg Prod.fst states_eq
      projected := by
        dsimp only
        rw [findingSnapshot, if_neg named]
        exact congrArg Prod.snd states_eq
      outbound := fun _ => by
        show states.2.localBalanceMsat = states.1.localBalanceMsat + amount
        rw [states_eq]
        rfl
      inbound := fun side => by rw [accepted.side] at side; cases side
      sourceClears := delta_clears accepted.source sourceMoves
      destinationClears := delta_clears accepted.destination destinationMoves }
  | inbound =>
    have named : input.findingChannel = source.channelId := accepted.inbound rfl
    have states_eq : states = (state source.localBeforeMsat source.remoteBeforeMsat
      input.sourceSnapshot.capacityMsat, state source.localAfterMsat source.remoteAfterMsat
        input.sourceSnapshot.capacityMsat) := if_pos named
    exact {
      deltas := rfl
      sourceMoves, destinationMoves, total
      baseline := by rw [findingSnapshot]; exact congrArg Prod.fst states_eq
      projected := by
        dsimp only
        rw [findingSnapshot, if_pos named]
        exact congrArg Prod.snd states_eq
      outbound := fun side => by rw [accepted.side] at side; cases side
      inbound := fun _ => by
        show states.2.localBalanceMsat + amount = states.1.localBalanceMsat
        rw [states_eq]
        exact Nat.sub_add_cancel leaves
      sourceClears := delta_clears accepted.source sourceMoves
      destinationClears := delta_clears accepted.destination destinationMoves }

/-- Forty percent of a channel's capacity moved to an outbound drained one of the same node. -/
theorem simulate_conserves_rebalance :
    let ext : External := ⟨fun _ => "digest", fun _ => "json", fun _ => "instant", fun _ => "instant"⟩
    let codec : SimulationCodec := ⟨fun _ => .null, fun _ => .null, fun _ => .null, fun _ => .null,
      fun _ => .error "not decoded", fun _ => .error "not decoded"⟩
    let snapshot (channel : String) (local_ remote : Nat) : ChannelSnapshot := {
      nodeId := some "node", network := some .mainnet, stateDigest := some "digest", channelId := channel
      localRatio := (Binary64.ofNat local_).div (.ofNat 1000000)
      localBalanceMsat := local_, remoteBalanceMsat := remote, capacityMsat := 1000000, status := .active, ts := 7
      spendableOutboundMsat := local_, spendableInboundMsat := remote }
    let input : SimulationInput := {
      recommendationId := "recommendation", recommendationTarget := "drained", findingId := "finding"
      findingChannel := "drained", findingDirection := some .outbound, nodeId := "node", network := some .mainnet
      provenance := {
        network := some .mainnet, source := .lnd "node" "node", producers := []
        observation := .channelState "drained" ⟨some .mainnet, 7, "digest"⟩ }
      actionType := .rebalanceChannel, modelId, modelVersion
      parameters := ⟨"full", "drained", 400000⟩
      sourceSnapshot := snapshot "full" 900000 100000, destinationSnapshot := snapshot "drained" 50000 950000 }
    ∃ result source destination, simulate ext codec input = .ok result ∧ Conserves input result source destination ∧
      input.destinationSnapshot.localBalanceMsat + input.parameters.amountMsat < 2^64 := by
  intro ext codec snapshot input
  have valid : validate ext input = .ok () := by decide +kernel
  exact simulate_conserves ext codec input valid

end LiquidityRedistributionModel

end Rieko
