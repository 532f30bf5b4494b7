import Rieko.Detectors.Registry

namespace Rieko

structure LiquidityThresholds where
  criticalRatio : Binary64 := .ofRat (5/100)
deriving DecidableEq, Repr

structure LiquidityDetector where
  thresholds : LiquidityThresholds := {}
  localNode : NodeId
deriving DecidableEq, Repr

namespace LiquidityDetector

def id : String := "channel_liquidity"

def version : String := "2"

def direction (profile : LiquidityProfile) : Option String :=
  match profile.imbalance with
  | .severelyDrained => some (if profile.localRatio.lt (.ofRat (1/2)) then "outbound" else "inbound")
  | .outboundDrained => some "outbound"
  | .inboundDrained => some "inbound"
  | .balanced | .unknown => none

def severity (self : LiquidityDetector) (profile : LiquidityProfile) : Severity :=
  if profile.localRatio.lt self.thresholds.criticalRatio ||
      ((Binary64.ofNat 1).sub self.thresholds.criticalRatio).lt profile.localRatio then .critical
  else .warning

def evidence (self : LiquidityDetector) (channel : Channel) (direction : String) : List Evidence :=
  [.text "direction" direction,
    .number "local_ratio" (round4 channel.liquidity.localRatio),
    .number "local_balance_msat" (.ofNat channel.liquidity.localBalanceMsat),
    .number "remote_balance_msat" (.ofNat channel.liquidity.remoteBalanceMsat),
    .number "capacity_msat" (.ofNat channel.capacityMsat),
    .text "peer" channel.peer,
    .number "severity_threshold" self.thresholds.criticalRatio]

def provenance (ext : External) (channel : Channel) (ctx : DetectorContext) : Option FindingProvenance :=
  let snapshot := ChannelSnapshot.fromChannel channel channel.lastSeen ctx.network
  ctx.source.map fun source =>
    { network := some ctx.network
      source
      producers := provenanceProducers ctx.normalizer id version
      observation := .channelState channel.id
        { network := snapshot.network
          observedAt := channel.lastSeen
          stateDigest := channelSnapshotStateDigest ext snapshot } }

def explanation (channel : Channel) (direction : String) : String :=
  s!"Liquidity on channel {channel.id} is one-sided ({direction} capacity drained, local ratio " ++
    s!"{channel.liquidity.localRatio.toFixed 4}). This is a risk signal, not proof of a fault; " ++
    "confirm the expected role and forwarding demand before acting."

def finding (ext : External) (self : LiquidityDetector) (ctx : DetectorContext) (channel : Channel)
    (direction : String) (now : DateTime) : Finding where
  id := findingIdentity ext id version (some ctx.network) (some self.localNode) (some channel.id)
  detector := id
  detectorVersion := version
  schemaVersion := findingSchemaVersion
  severity := self.severity channel.liquidity
  node := some self.localNode
  channel := some channel.id
  evidence := self.evidence channel direction
  provenance := provenance ext channel ctx
  explanation := some (explanation channel direction)
  timestamp := now
  firstSeenAt := now
  lastSeenAt := now
  lifecycle := .active

def judge (ext : External) (self : LiquidityDetector) (ctx : DetectorContext) (channel : Channel) :
    Option (DateTime → Finding) :=
  if channel.status.isOpen then (direction channel.liquidity).map (self.finding ext ctx channel) else none

def run (ext : External) (clock : Nat → DateTime) (self : LiquidityDetector) (view : GraphView)
    (ctx : DetectorContext) : List Finding :=
  bySeverity (stamp clock (view.channels.filterMap (self.judge ext ctx)))

def isComplete (view : GraphView) : Bool :=
  view.channels.all fun channel => !channel.status.isOpen || channel.liquidity.imbalance ≠ .unknown

def detector (ext : External) (clock : Nat → DateTime) (self : LiquidityDetector) : Detector where
  id := id
  version := version
  run := self.run ext clock
  isComplete view _ := isComplete view

section Reported

variable {ext : External} {clock : Nat → DateTime} {self : LiquidityDetector} {view : GraphView}
  {ctx : DetectorContext} {channel : Channel} {drained : String}

theorem mem_run {finding : Finding} (member : finding ∈ self.run ext clock view ctx) :
    ∃ channel ∈ view.channels, channel.status.isOpen = true ∧ ∃ drained,
      direction channel.liquidity = some drained ∧ ∃ now, finding = self.finding ext ctx channel drained now := by
  obtain ⟨channel, listed, build, judged, now, rfl⟩ := mem_reported member
  unfold judge at judged
  split at judged
  next isOpen =>
    obtain ⟨drained, side, rfl⟩ := Option.map_eq_some_iff.mp judged
    exact ⟨channel, listed, isOpen, drained, side, now, rfl⟩
  · cases judged

theorem run_mem (listed : channel ∈ view.channels) (isOpen : channel.status.isOpen = true)
    (side : direction channel.liquidity = some drained) :
    ∃ now, self.finding ext ctx channel drained now ∈ self.run ext clock view ctx := by
  have judged : self.judge ext ctx channel = some (self.finding ext ctx channel drained) := by
    unfold judge
    rw [if_pos isOpen, side]
    rfl
  exact reported_mem listed judged

end Reported

end LiquidityDetector

end Rieko
