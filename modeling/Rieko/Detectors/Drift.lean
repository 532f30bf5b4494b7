import Rieko.Detectors.Registry

namespace Rieko

structure DriftThresholds where
  window : Nat := 12
  minHistory : Nat := 4
  warnDecline : Binary64 := .ofRat (5/100)
  criticalDecline : Binary64 := .ofRat (15/100)
  warnRatioBar : Binary64 := .ofRat (25/100)
deriving DecidableEq, Repr

structure DriftDetector where
  thresholds : DriftThresholds := {}
  localNode : NodeId
deriving DecidableEq, Repr

namespace DriftDetector

def id : String := "liquidity_trend"

def version : String := "2"

def evidence (channel : Channel) (snaps : List ChannelSnapshot) (start decline : Binary64) : List Evidence :=
  let minInWindow := (snaps.map (·.localRatio)).foldl Binary64.min (.infinity false)
  [.text "direction" "draining",
    .number "start_ratio" (round4 start),
    .number "current_ratio" (round4 channel.liquidity.localRatio),
    .number "decline" (round4 decline),
    .number "min_in_window" (round4 minInWindow),
    .number "window" (.ofNat snaps.length),
    .text "peer" channel.peer]

def provenance (ext : External) (channel : Channel) (snaps : List ChannelSnapshot) (ctx : DetectorContext) :
    Option FindingProvenance :=
  ctx.source.map fun source =>
    { network := some ctx.network
      source
      producers := provenanceProducers ctx.normalizer id version
      observation := .channelWindow channel.id (snaps.reverse.map fun snapshot =>
        { network := snapshot.network
          observedAt := snapshot.ts
          stateDigest := channelSnapshotStateDigest ext snapshot }) }

def finding (ext : External) (self : DriftDetector) (ctx : DetectorContext) (channel : Channel)
    (snaps : List ChannelSnapshot) (start decline : Binary64) (now : DateTime) : Finding where
  id := findingIdentity ext id version (some ctx.network) (some self.localNode) (some channel.id)
  detector := id
  detectorVersion := version
  schemaVersion := findingSchemaVersion
  severity := if self.thresholds.criticalDecline.le decline then .critical else .warning
  node := some self.localNode
  channel := some channel.id
  evidence := evidence channel snaps start decline
  provenance := provenance ext channel snaps ctx
  explanation := none
  timestamp := now
  firstSeenAt := now
  lastSeenAt := now
  lifecycle := .active

/-- A history that is too short, or empty while none is asked for, is not judged. The source panics on
    the latter. -/
def judge (ext : External) (self : DriftDetector) (history : HistoryView) (ctx : DetectorContext)
    (channel : Channel) : Option (DateTime → Finding) :=
  if !channel.status.isOpen then none
  else if channel.liquidity.imbalance = .unknown then none
  else
    let snaps := history channel.id self.thresholds.window
    if snaps.length < self.thresholds.minHistory then none
    else
      snaps.getLast?.bind fun oldest =>
        let current := channel.liquidity.localRatio
        let decline := oldest.localRatio.sub current
        if decline.lt self.thresholds.warnDecline || self.thresholds.warnRatioBar.le current then none
        else some (self.finding ext ctx channel snaps oldest.localRatio decline)

def run (ext : External) (clock : Nat → DateTime) (self : DriftDetector) (view : GraphView)
    (ctx : DetectorContext) : List Finding :=
  match ctx.history with
  | none => []
  | some history => bySeverity (stamp clock (view.channels.filterMap (self.judge ext history ctx)))

def isComplete (self : DriftDetector) (view : GraphView) (ctx : DetectorContext) : Bool :=
  match ctx.history with
  | none => false
  | some history => view.channels.all fun channel =>
      !channel.status.isOpen || (channel.liquidity.imbalance ≠ .unknown &&
        decide (self.thresholds.minHistory ≤ (history channel.id self.thresholds.window).length))

def detector (ext : External) (clock : Nat → DateTime) (self : DriftDetector) : Detector where
  id := id
  version := version
  run := self.run ext clock
  isComplete := self.isComplete

structure Draining (snaps : List ChannelSnapshot) (channel : Channel) (start : Binary64) : Prop where
  isOpen : channel.status.isOpen = true
  known : channel.liquidity.imbalance ≠ .unknown
  enough : 4 ≤ snaps.length
  oldest : snaps.getLast?.map (·.localRatio) = some start
  declined : (start.sub channel.liquidity.localRatio).lt (.ofRat (5/100)) = false
  low : (Binary64.ofRat (25/100)).le channel.liquidity.localRatio = false

section Reported

variable {ext : External} {clock : Nat → DateTime} {localNode : NodeId} {view : GraphView} {ctx : DetectorContext}
  {history : HistoryView} {channel : Channel} {start : Binary64}

theorem judge_iff {build : DateTime → Finding} :
    ({ localNode } : DriftDetector).judge ext history ctx channel = some build ↔
      ∃ start, Draining (history channel.id 12) channel start ∧
        build = ({ localNode } : DriftDetector).finding ext ctx channel (history channel.id 12) start
          (start.sub channel.liquidity.localRatio) := by
  unfold judge
  dsimp only
  constructor
  · intro judged
    split at judged
    · cases judged
    next isOpen =>
      split at judged
      · cases judged
      next known =>
        split at judged
        · cases judged
        next enough =>
          obtain ⟨oldest, last, raised⟩ := Option.bind_eq_some_iff.mp judged
          split at raised
          · cases raised
          next warned =>
            have quiet := Bool.or_eq_false_iff.mp (Bool.not_eq_true _ ▸ warned)
            refine ⟨oldest.localRatio, ⟨by simpa using isOpen, known, not_lt.mp enough, ?_, quiet.1, quiet.2⟩,
              (Option.some_inj.mp raised).symm⟩
            rw [last]
            rfl
  · rintro ⟨start, draining, rfl⟩
    obtain ⟨oldest, last, rfl⟩ := Option.map_eq_some_iff.mp draining.oldest
    rw [if_neg (by simp [draining.isOpen]), if_neg draining.known, if_neg (not_lt.mpr draining.enough), last,
      Option.bind_some, draining.declined, draining.low]
    rfl

theorem mem_run (remembered : ctx.history = some history) {finding : Finding}
    (member : finding ∈ ({ localNode } : DriftDetector).run ext clock view ctx) :
    ∃ channel ∈ view.channels, ∃ start, Draining (history channel.id 12) channel start ∧ ∃ now,
      finding = ({ localNode } : DriftDetector).finding ext ctx channel (history channel.id 12) start
        (start.sub channel.liquidity.localRatio) now := by
  unfold run at member
  rw [remembered] at member
  obtain ⟨channel, listed, build, judged, now, rfl⟩ := mem_reported member
  obtain ⟨start, draining, rfl⟩ := judge_iff.mp judged
  exact ⟨channel, listed, start, draining, now, rfl⟩

theorem run_mem (remembered : ctx.history = some history) (listed : channel ∈ view.channels)
    (draining : Draining (history channel.id 12) channel start) :
    ∃ now, ({ localNode } : DriftDetector).finding ext ctx channel (history channel.id 12) start
      (start.sub channel.liquidity.localRatio) now ∈ ({ localNode } : DriftDetector).run ext clock view ctx := by
  unfold run
  rw [remembered]
  exact reported_mem listed (judge_iff.mpr ⟨start, draining, rfl⟩)

end Reported

end DriftDetector

end Rieko
