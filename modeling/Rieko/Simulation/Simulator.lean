import Rieko.Findings.Action

namespace Rieko

inductive SimulationError where
  | channelNotFound (channelId : ChannelId)
  | missingDesiredRatio (actionType : String)
  | unsupportedActionType (actionType : String)
  | zeroCapacity (channelId : String)
deriving DecidableEq, Repr

def SimulationError.toString : SimulationError → String
  | channelNotFound channelId => s!"cannot simulate action for channel {channelId}: not found in graph"
  | missingDesiredRatio actionType => s!"cannot simulate {actionType}: no desired ratio in params"
  | unsupportedActionType actionType => s!"cannot simulate action type {actionType}"
  | zeroCapacity channelId => s!"cannot simulate: channel {channelId} has zero capacity"

def Action.desiredRatio (action : Action) : Option Binary64 := (action.params.get "desired_ratio").bind Json.asF64

structure SimulatorDraw where
  id : String
  createdAt : DateTime

namespace Simulator

def absDiff (a b : Nat) : Nat := if a ≤ b then b - a else a - b

def saturatingAdd (a b : Nat) : Nat := min (a + b) (2^64 - 1)

/-- The share of a capacity that a ratio asks for, rounded to whole millisatoshi. -/
def roundedShare (ratio : Binary64) (capacityMsat : Nat) : Nat := (ratio.mul (.ofNat capacityMsat)).round.toU64

def balancedText (clearsFinding : Bool) : String := if clearsFinding then "balanced" else "still unbalanced"

section Projections

-- The rounding is `roundedShare` in the code.
variable (share : Binary64 → Nat → Nat)

def projectRebalance (channel : Channel) (action : Action) : Except SimulationError SimulationProjection :=
  if channel.capacityMsat = 0 then .error (.zeroCapacity channel.id)
  else
    match action.desiredRatio with
    | none => .ok {
        localRatioBefore := channel.liquidity.localRatio
        localRatioAfter := channel.liquidity.localRatio
        localBalanceMsatAfter := channel.liquidity.localBalanceMsat
        remoteBalanceMsatAfter := channel.liquidity.remoteBalanceMsat
        deltaMsat := 0
        clearsFinding := false
        summary := s!"Channel {channel.id} rebalance review carries no numeric target; no liquidity movement is " ++
          "projected." }
    | some desiredRatio =>
      let desired := desiredRatio.clamp (.ofNat 0) (.ofNat 1)
      let localAfter := share desired channel.capacityMsat
      let remoteAfter := channel.capacityMsat - localAfter
      let projected := LiquidityProfile.compute channel.capacityMsat localAfter remoteAfter
      let clearsFinding := projected.imbalance = .balanced
      let moved := absDiff localAfter channel.liquidity.localBalanceMsat
      .ok {
        localRatioBefore := channel.liquidity.localRatio
        localRatioAfter := projected.localRatio
        localBalanceMsatAfter := localAfter
        remoteBalanceMsatAfter := remoteAfter
        deltaMsat := moved
        clearsFinding
        summary := s!"Rebalancing {channel.id} to a {(desired.mul (.ofNat 100)).toFixed 0}% local ratio moves " ++
          s!"{moved} msat, leaving the channel {balancedText clearsFinding}." }

def project (draw : SimulatorDraw) (channel : Channel) (action : Action) (findingId : String) :
    Except SimulationError Simulation := do
  let projection ← match action.actionType with
    | .rebalanceChannel => projectRebalance share channel action
    | .updateFeePolicy => .ok {
        localRatioBefore := channel.liquidity.localRatio
        localRatioAfter := channel.liquidity.localRatio
        localBalanceMsatAfter := channel.liquidity.localBalanceMsat
        remoteBalanceMsatAfter := channel.liquidity.remoteBalanceMsat
        deltaMsat := 0
        clearsFinding := false
        summary := "Fee policy changes do not move existing liquidity; the imbalance remains until flows shift" }
    | .restartService | .custom => .error (.unsupportedActionType action.actionType.asStr)
  return {
    id := draw.id
    actionId := action.id
    findingId
    actionType := action.actionType
    projection
    createdAt := draw.createdAt }

/-- Local and remote balance of a hop after the route. The source channel is set to the desired ratio; at the later
    hops the same delta moves through, out of every second one and into the others. -/
def hopBalances (desired : Binary64) (delta i : Nat) (hop : Channel) : Nat × Nat :=
  if i = 0 then
    let localAfter := share desired hop.capacityMsat
    (localAfter, hop.capacityMsat - localAfter)
  else
    let direction := if i % 2 = 0 then delta else 0
    let localAfter :=
      if 0 < direction then hop.liquidity.localBalanceMsat - delta
      else saturatingAdd hop.liquidity.localBalanceMsat delta
    (localAfter, hop.capacityMsat - localAfter)

def hopProjection (desired : Binary64) (delta i : Nat) (channelId : ChannelId) (hop : Channel) :
    SimulationProjection :=
  let (localAfter, remoteAfter) := hopBalances share desired delta i hop
  let projected := LiquidityProfile.compute hop.capacityMsat localAfter remoteAfter
  let clearsFinding := projected.imbalance = .balanced
  { localRatioBefore := hop.liquidity.localRatio
    localRatioAfter := projected.localRatio
    localBalanceMsatAfter := localAfter
    remoteBalanceMsatAfter := remoteAfter
    deltaMsat := delta
    clearsFinding
    summary := s!"Hop {i} ({channelId}): {delta} msat routed → local={localAfter}, {balancedText clearsFinding}" }

def projectHops (draws : Nat → SimulatorDraw) (desired : Binary64) (delta : Nat)
    (channels : ChannelId → Option Channel) (findingId : String) :
    Nat → List ChannelId → Except SimulationError (List Simulation)
  | _, [] => .ok []
  | i, channelId :: route =>
    match channels channelId with
    | none => .error (.channelNotFound channelId)
    | some hop => do
      let simulations ← projectHops draws desired delta channels findingId (i + 1) route
      return {
        id := (draws i).id
        actionId := s!"route-{findingId}"
        findingId
        actionType := .rebalanceChannel
        projection := hopProjection share desired delta i channelId hop
        createdAt := (draws i).createdAt } :: simulations

def projectRebalanceRoute (draws : Nat → SimulatorDraw) (sourceChannel : Channel) (desiredRatio : Binary64)
    (route : List ChannelId) (channels : ChannelId → Option Channel) (findingId : String) :
    Except SimulationError (List Simulation) :=
  if route.isEmpty then .error (.unsupportedActionType "empty route")
  else if sourceChannel.capacityMsat = 0 then .error (.zeroCapacity sourceChannel.id)
  else
    let desired := desiredRatio.clamp (.ofNat 0) (.ofNat 1)
    let localAfter := share desired sourceChannel.capacityMsat
    let delta := absDiff localAfter sourceChannel.liquidity.localBalanceMsat
    projectHops share draws desired delta channels findingId 0 route

end Projections

def figures (simulation : Simulation) : SimulationProjection := { simulation.projection with summary := "" }

/-- A route of one hop projects what a rebalance of its channel projects, or fails with the same error. -/
theorem single_hop_eq_rebalance (share : Binary64 → Nat → Nat) (draws : Nat → SimulatorDraw) (draw : SimulatorDraw)
    (channel : Channel) (desiredRatio : Binary64) (channels : ChannelId → Option Channel) (action : Action)
    (findingId : String) (found : channels channel.id = some channel)
    (rebalances : action.actionType = .rebalanceChannel) (asks : action.desiredRatio = some desiredRatio) :
    (projectRebalanceRoute share draws channel desiredRatio [channel.id] channels findingId).map (·.map figures) =
      (project share draw channel action findingId).map fun simulation => [figures simulation] := by
  unfold projectRebalanceRoute project projectRebalance
  rw [rebalances, asks]
  by_cases empty : channel.capacityMsat = 0
  · simp only [empty, List.isEmpty_cons]
    rfl
  · simp only [empty, List.isEmpty_cons, projectHops, found]
    rfl

theorem drained_hop_eq_rebalance :
    let channel : Channel := {
      id := "drained", node := "node", peer := "peer", channelPoint := "tx:0", capacityMsat := 100000, feePolicy := {}
      status := .active, liquidity := LiquidityProfile.compute 100000 10000 90000, lastSeen := 0, openingHeight := none
      localReserveMsat := none, remoteReserveMsat := none, isPrivate := false, isInitiator := true
      totalSentMsat := none, totalReceivedMsat := none }
    let action : Action := {
      id := "action", actionType := .rebalanceChannel, stage := .recommended, target := some "drained"
      params := .ofPairs [("desired_ratio", .ofF64 (.ofRat (1/2)))], summary := "", createdAt := 0, updatedAt := 0 }
    let channels (id : ChannelId) := if id = "drained" then some channel else none
    let routed := (projectRebalanceRoute roundedShare (fun _ => ⟨"hop", 0⟩) channel (.ofRat (1/2)) ["drained"] channels
      "finding").map (·.map figures)
    let direct := (project roundedShare ⟨"simulation", 0⟩ channel action "finding").map fun simulation =>
      [figures simulation]
    routed = direct ∧ direct.toOption.map (·.map (·.deltaMsat)) = some [40000] := by
  intro channel action channels routed direct
  have asks : action.desiredRatio = some (.ofRat (1/2)) := by decide +kernel
  exact ⟨single_hop_eq_rebalance roundedShare _ _ channel _ channels action "finding" rfl rfl asks, by decide +kernel⟩

end Simulator

end Rieko
