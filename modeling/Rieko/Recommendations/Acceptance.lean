import Rieko.Detectors.Drift
import Rieko.Detectors.Liquidity
import Rieko.Detectors.Ratio
import Rieko.Detectors.Settlement
import Rieko.Graph.History
import Rieko.IngestLnd.Normalize
import Rieko.Recommendations.Engine
import Rieko.Recommendations.Parsing

namespace Rieko

open Binary64 RecommendationEngine

def Normalized (channel : Channel) : Prop :=
  ∃ lnd localNode seenAt, Normalizer.channel lnd localNode seenAt = .ok channel

/-- What the engine relies on in a channel that is reported to it. -/
structure Channel.Measured (channel : Channel) : Prop where
  named : Text.isBlank channel.id = false
  capacity : channel.capacityMsat < 2^64
  localBalance : channel.liquidity.localBalanceMsat < 2^64
  remoteBalance : channel.liquidity.remoteBalanceMsat < 2^64
  ratio : IsRatio balanceCode channel.liquidity.localRatio
  classified : channel.liquidity.imbalance ≠ .unknown →
    channel.capacityMsat ≠ 0 ∧ IsRatio oneCode channel.liquidity.localRatio

theorem Normalized.measured {channel : Channel} (normalized : Normalized channel) : channel.Measured := by
  obtain ⟨lnd, localNode, seenAt, built⟩ := normalized
  obtain ⟨named, -, -, -, -, capacity, localMsat, remoteMsat, outbound, inbound, below, below', liquidity⟩ :=
    Normalizer.channel_ok built
  have ratio := compute_ratio remoteMsat capacity.le below.le
  have classified := compute_classified localMsat remoteMsat capacity.le
  exact { named, capacity
          localBalance := by rw [liquidity]; exact below
          remoteBalance := by rw [liquidity]; exact below'
          ratio := by rw [liquidity]; exact ratio
          classified := by rw [liquidity]; exact classified }

section Ranges

variable {c : Nat}

theorem ofNat_zero : Binary64.ofNat 0 = ofCode 0 := by decide

theorem isFinite_ofCode (small : c ≤ balanceCode) : (ofCode c).isFinite = true := by
  have limit : balanceCode < 2047 * 2^52 := by decide
  exact isFinite_signed false (by omega)

theorem ratio_range (small : c ≤ balanceCode) :
    ((Binary64.ofNat 0).le (ofCode c) && (ofCode c).le (.ofNat 1)) = decide (c ≤ oneCode) := by
  have limit : balanceCode < 2047 * 2^52 := by decide
  rw [ofNat_zero, ofNat_one, le_ofCode (by omega) (by omega), le_ofCode (by omega) (by decide)]
  simp

theorem not_lt_zero (small : c ≤ balanceCode) : (!(ofCode c).lt (.ofNat 0)) = true := by
  have limit : balanceCode < 2047 * 2^52 := by decide
  rw [ofNat_zero, lt_ofCode (by omega) (by omega)]
  simp

theorem not_le_zero (small : c ≤ balanceCode) (positive : c ≠ 0) : (!(ofCode c).le (.ofNat 0)) = true := by
  have limit : balanceCode < 2047 * 2^52 := by decide
  rw [ofNat_zero, le_ofCode (by omega) (by omega)]
  simpa using positive

end Ranges

section Values

variable (finding : Finding) (key : String) {n : Nat}

theorem requiredRatio_round4 {x : Binary64} (found : finding.evidenceValue key = some (.ofF64 (round4 x)))
    (ratio : IsRatio balanceCode x) :
    requiredRatio finding key =
      if x.lt (.ofRat (100005/100000)) then .ok (round4 x)
      else .error (.invalidEvidence finding.id key "a finite number in 0..=1") := by
  obtain ⟨c, small, rfl⟩ := ratio
  have limit : balanceCode < 2047 * 2^52 := by decide
  have room : round4Code c ≤ balanceCode := by
    have top : round4Code balanceCode ≤ balanceCode := by decide +kernel
    exact (round4Code_mono small (le_refl _)).trans top
  have finite : (round4 (ofCode c)).isFinite = true := by
    rw [round4_ofCode small]
    exact isFinite_ofCode room
  unfold requiredRatio
  rw [requiredNumberIn_eq found finite]
  rw [round4_ofCode small, ratio_range room, aboveOneCode_eq, lt_ofCode (by omega) (by decide)]
  simp [round4Code_le_one small]

theorem requiredNonnegativeNumber_ofNat (found : finding.evidenceValue key = some (.ofF64 (.ofNat n)))
    (bounded : n ≤ 2^64) : requiredNonnegativeNumber finding key = .ok (.ofNat n) := by
  have small := packCode_balance_le bounded
  rw [ofNat_eq] at *
  unfold requiredNonnegativeNumber
  rw [requiredNumberIn_eq found (isFinite_ofCode small)]
  rw [not_lt_zero small, if_pos rfl]

theorem requiredPositiveNumber_ofNat (found : finding.evidenceValue key = some (.ofF64 (.ofNat n)))
    (bounded : n ≤ 2^64) (positive : 0 < n) : requiredPositiveNumber finding key = .ok (.ofNat n) := by
  have small := packCode_balance_le bounded
  have least := one_le_packCode positive
  rw [ofNat_eq] at *
  have nonzero : packCode n ≠ 0 := by
    unfold oneCode at least
    omega
  unfold requiredPositiveNumber
  rw [requiredNumberIn_eq found (isFinite_ofCode small)]
  rw [not_le_zero small nonzero, if_pos rfl]

end Values

namespace LiquidityDetector

variable {ext : External} {ctx : DetectorContext} {channel : Channel} {localNode : NodeId} {drained : String}
  {now : DateTime}

theorem direction_cases {profile : LiquidityProfile} (judged : direction profile = some drained) :
    (drained = "outbound" ∨ drained = "inbound") ∧ profile.imbalance ≠ .unknown := by
  unfold direction at judged
  split at judged
  next severe =>
    rw [Option.some_inj] at judged
    subst judged
    exact ⟨by split <;> simp, by simp [severe]⟩
  next outbound =>
    rw [Option.some_inj] at judged
    exact ⟨.inl judged.symm, by simp [outbound]⟩
  next inbound =>
    rw [Option.some_inj] at judged
    exact ⟨.inr judged.symm, by simp [inbound]⟩
  · cases judged
  · cases judged

theorem finding_wellFormed :
    WellFormed (({ localNode } : LiquidityDetector).finding ext ctx channel drained now) 2 where
  versioned := .inr ⟨rfl, rfl⟩
  schema := rfl
  active := rfl
  severe := by
    show LiquidityDetector.severity _ _ ≠ _
    unfold severity
    split <;> decide
  named := by simp [finding, evidence, Evidence.text, Evidence.string, Evidence.number]; decide
  distinct := by simp [finding, evidence, Evidence.text, Evidence.string, Evidence.number]

theorem parse_finding (measured : channel.Measured) (judged : direction channel.liquidity = some drained) :
    let finding := ({ localNode } : LiquidityDetector).finding ext ctx channel drained now
    ChannelLiquidityInput.parse finding =
      if Text.isBlank channel.peer then .error (.invalidEvidence finding.id "peer" "a non-empty string")
      else .ok ⟨channel.id, if drained = "outbound" then .outbound else .inbound⟩ := by
  intro finding
  obtain ⟨side, known⟩ := direction_cases judged
  obtain ⟨capacity, c, small, ratio⟩ := measured.classified known
  have below : channel.liquidity.localRatio.lt (.ofRat (100005/100000)) = true := by
    rw [ratio, aboveOneCode_eq, lt_ofCode (by unfold oneCode at small; omega) (by decide)]
    exact decide_eq_true (small.trans_lt (by decide))
  have common : validateCommon finding = .ok 2 := validateCommon_ok finding_wellFormed
  have named : RecommendationEngine.channel finding = .ok channel.id := by
    show (if Text.isBlank channel.id then _ else _) = _
    rw [measured.named, if_neg (by decide)]
  have direction : requiredText finding "direction" = .ok drained := requiredText_ok rfl
  have localRatio : requiredRatio finding "local_ratio" = .ok (round4 channel.liquidity.localRatio) := by
    rw [requiredRatio_round4 _ _ rfl measured.ratio, if_pos below]
  have localBalance := requiredNonnegativeNumber_ofNat finding "local_balance_msat" rfl
    measured.localBalance.le
  have remoteBalance := requiredNonnegativeNumber_ofNat finding "remote_balance_msat" rfl
    measured.remoteBalance.le
  have capacity_ := requiredPositiveNumber_ofNat finding "capacity_msat" rfl
    measured.capacity.le (Nat.pos_of_ne_zero capacity)
  have peer := requiredNonemptyText_eq finding "peer" channel.peer rfl
  have threshold : requiredRatio finding "severity_threshold" = .ok (.ofRat (5/100)) := by
    unfold requiredRatio
    rw [requiredNumberIn_eq (x := .ofRat (5/100)) rfl (by decide +kernel), if_pos (by decide +kernel)]
  unfold ChannelLiquidityInput.parse
  rw [common, named, direction, localRatio, localBalance, remoteBalance, capacity_, peer, threshold]
  rcases side with rfl | rfl <;> split <;> rfl

end LiquidityDetector

namespace DriftDetector

variable {ext : External} {ctx : DetectorContext} {channel : Channel} {localNode : NodeId} {now : DateTime}
  {snaps : List ChannelSnapshot} {start : Binary64}

theorem finding_wellFormed {decline : Binary64} :
    WellFormed (({ localNode } : DriftDetector).finding ext ctx channel snaps start decline now) 2 where
  versioned := .inr ⟨rfl, rfl⟩
  schema := rfl
  active := rfl
  severe := by
    unfold finding
    dsimp only
    split <;> decide
  named := by simp [finding, evidence, Evidence.text, Evidence.string, Evidence.number]; decide
  distinct := by simp [finding, evidence, Evidence.text, Evidence.string, Evidence.number]

theorem decline_ratio {a : Nat} (finite : a < 2047 * 2^52) (ratio : IsRatio oneCode channel.liquidity.localRatio)
    (draining : Draining snaps channel (ofCode a)) : IsRatio a ((ofCode a).sub channel.liquidity.localRatio) := by
  obtain ⟨b, small, current⟩ := ratio
  have finite' : b < 2047 * 2^52 := small.trans_lt (by decide)
  have declined := draining.declined
  rw [current] at declined ⊢
  rw [sub_ofCode finite finite'] at *
  by_cases le : b ≤ a
  · rw [if_pos le]
    refine ⟨_, packCode_le_of_le ?_ finite (sub_le_self _ (codeValue_nonneg b)), rfl⟩
    exact sub_nonneg.mpr ((codeValue_le_iff finite' finite).mpr le)
  · have bar : ∃ d, Binary64.ofRat (5/100) = ofCode d ∧ 0 < d ∧ d ≤ 2047 * 2^52 :=
      ⟨(Binary64.ofRat (5/100)).code, by decide +kernel⟩
    obtain ⟨d, bar, positive, number⟩ := bar
    rw [if_neg le, bar, lt_of_negative (packCode_le _) number positive] at declined
    cases declined

theorem window_accepted {n : Nat} (enough : 4 ≤ n) (bounded : n ≤ 12) :
    (Binary64.ofNat n).isFinite = true ∧ (!((Binary64.ofNat n).le (.ofNat 0) ||
      !(Binary64.ofNat n).fract.beq (.ofNat 0) || (Binary64.ofNat (2^64 - 1)).le (.ofNat n))) = true := by
  have all : ∀ n ≤ 12, 4 ≤ n → (Binary64.ofNat n).isFinite = true ∧ (!((Binary64.ofNat n).le (.ofNat 0) ||
      !(Binary64.ofNat n).fract.beq (.ofNat 0) || (Binary64.ofNat (2^64 - 1)).le (.ofNat n))) = true := by
    decide +kernel
  exact all n bounded enough

variable (ext ctx localNode now) in
theorem parse_finding (measured : channel.Measured) (past : ∀ snapshot ∈ snaps, IsRatio balanceCode snapshot.localRatio)
    (bounded : snaps.length ≤ 12) (draining : Draining snaps channel start) :
    let decline := start.sub channel.liquidity.localRatio
    let finding := ({ localNode } : DriftDetector).finding ext ctx channel snaps start decline now
    LiquidityTrendInput.parse finding =
      if !start.lt (.ofRat (100005/100000)) then
        .error (.invalidEvidence finding.id "start_ratio" "a finite number in 0..=1")
      else if Text.isBlank channel.peer then .error (.invalidEvidence finding.id "peer" "a non-empty string")
      else .ok ⟨channel.id, round4 start, round4 channel.liquidity.localRatio, round4 decline,
        (Binary64.ofNat snaps.length).toU64⟩ := by
  intro decline finding
  have limit : balanceCode < 2047 * 2^52 := by decide
  obtain ⟨oldest, last, first⟩ := Option.map_eq_some_iff.mp draining.oldest
  have member : oldest ∈ snaps := List.mem_of_getLast? last
  obtain ⟨a, small, ratio⟩ := past oldest member
  have starts : start = ofCode a := first ▸ ratio
  have common : validateCommon finding = .ok 2 := validateCommon_ok finding_wellFormed
  have named : RecommendationEngine.channel finding = .ok channel.id := by
    show (if Text.isBlank channel.id then _ else _) = _
    rw [measured.named, if_neg (by decide)]
  have direction : requiredText finding "direction" = .ok "draining" := requiredText_ok rfl
  have startRatio := requiredRatio_round4 finding "start_ratio" (x := start) rfl
    ⟨a, small, starts⟩
  unfold LiquidityTrendInput.parse
  rw [common, named, direction, startRatio]
  by_cases below : start.lt (.ofRat (100005/100000)) = true
  · have room : a < aboveOneCode := by
      rw [starts, aboveOneCode_eq, lt_ofCode (by omega) (by decide)] at below
      simpa using below
    -- The current ratio, the decline and the least ratio are all at most what the window starts at or 1.
    have ranged {x : Binary64} (ratio : ∃ c < aboveOneCode, x = ofCode c) :
        IsRatio balanceCode x ∧ x.lt (.ofRat (100005/100000)) = true := by
      obtain ⟨c, less, rfl⟩ := ratio
      have top : aboveOneCode ≤ balanceCode := by decide
      refine ⟨⟨c, by omega, rfl⟩, ?_⟩
      rw [aboveOneCode_eq, lt_ofCode (by omega) (by decide)]
      exact decide_eq_true less
    obtain ⟨-, c, currentLe, current⟩ := measured.classified draining.known
    obtain ⟨d, declineLe, declined⟩ := decline_ratio (by omega) ⟨c, currentLe, current⟩ (starts ▸ draining)
    obtain ⟨least, -, folded, below_⟩ := foldl_min (snaps.map (·.localRatio))
      (by simpa using past) limit.le (le_refl (2047 * 2^52))
    have leastLe : least ≤ a := below_ a (by omega) (List.mem_map.mpr ⟨oldest, member, ratio⟩)
    have currentOk := ranged ⟨c, currentLe.trans_lt (by decide), current⟩
    have declineOk := ranged (x := decline) ⟨d, by omega, by rw [← declined, ← starts]⟩
    have smallest : (snaps.map (·.localRatio)).foldl Binary64.min (.infinity false) = ofCode least := folded
    have leastOk := ranged ⟨least, by omega, smallest⟩
    have currentRatio := requiredRatio_round4 finding "current_ratio" rfl currentOk.1
    have declineRatio := requiredRatio_round4 finding "decline" rfl declineOk.1
    have leastRatio := requiredRatio_round4 finding "min_in_window" rfl leastOk.1
    have peer := requiredNonemptyText_eq finding "peer" channel.peer rfl
    have window := window_accepted draining.enough bounded
    rw [currentRatio, declineRatio, leastRatio, currentOk.2, declineOk.2, leastOk.2, below, peer,
      requiredNumberIn_eq (x := .ofNat snaps.length) rfl window.1, if_pos window.2]
    simp only [if_true, Bool.not_true, Bool.false_eq_true, if_false]
    split <;> rfl
  · rw [if_neg below, Bool.eq_false_of_not_eq_true below]
    rfl

end DriftDetector

namespace SettlementReliabilityDetector

variable {ext : External} {ctx : DetectorContext} {localNode : NodeId} {counts : SettlementCounts}
  {health : ChannelHealth} {now : DateTime}

theorem record_total (counts : SettlementCounts) (event : NodeEvent) :
    (counts.record event).total ≤ counts.total + 1 := by
  unfold SettlementCounts.record SettlementCounts.total
  split <;> simp [SettlementCounts.invoice] <;> omega

theorem of_total (events : List NodeEvent) : (SettlementCounts.of events).total ≤ events.length := by
  have counted (counts : SettlementCounts) : (events.foldl SettlementCounts.record counts).total ≤
      counts.total + events.length := by
    induction events generalizing counts with
    | nil => exact le_refl _
    | cons event rest ih =>
      have step := record_total counts event
      have later := ih (counts.record event)
      rw [List.foldl_cons, List.length_cons]
      omega
  have start := counted {}
  rwa [show ({} : SettlementCounts).total = 0 from rfl, Nat.zero_add] at start

theorem window_keys (ext : External) (observedAt : List DateTime) :
    (window ext observedAt).map Evidence.key = [] ∨
      (window ext observedAt).map Evidence.key = ["window_started_at", "window_ended_at"] := by
  unfold window
  dsimp only
  split
  · exact .inr rfl
  · exact .inl rfl

theorem finding_keys : let finding := ({ localNode } : SettlementReliabilityDetector).finding ext counts health ctx now
    (∀ entry ∈ finding.evidence, Text.isBlank entry.key = false) ∧ (finding.evidence.map Evidence.key).Nodup := by
  intro finding
  have blank : (∀ entry ∈ finding.evidence, Text.isBlank entry.key = false) ↔
      ∀ key ∈ finding.evidence.map Evidence.key, Text.isBlank key = false := by simp
  have keys : finding.evidence.map Evidence.key =
      ["expired_invoices", "settled_invoices", "total_invoices", "failure_rate", "drained_channels_count",
        "inactive_channels_count", "chain_synchronized", "diagnosis", "root_cause", "invoice_ids", "store_ids"] ++
      (window ext counts.observedAt).map Evidence.key ++
      (health.bottleneck.map fun _ => "bottleneck_channel").toList := by
    show (evidence ext counts health ctx).map Evidence.key = _
    unfold evidence
    rw [List.map_append, List.map_append]
    cases health.bottleneck <;> rfl
  rw [blank, keys]
  rcases window_keys ext counts.observedAt with window | window <;> cases health.bottleneck <;>
    simp only [window, Option.map_none, Option.map_some, Option.toList_none, Option.toList_some] <;> decide

theorem finding_wellFormed :
    WellFormed (({ localNode } : SettlementReliabilityDetector).finding ext counts health ctx now) 1 where
  versioned := .inl ⟨rfl, rfl⟩
  schema := rfl
  active := rfl
  severe := by
    show SettlementReliabilityDetector.severity _ _ _ ≠ _
    unfold severity
    split <;> decide
  named := finding_keys.1
  distinct := finding_keys.2

theorem parse_finding (bounded : counts.total ≤ 2^64) (counted : counts.total ≠ 0) :
    ∃ input, SettlementReliabilityInput.parse
      (({ localNode } : SettlementReliabilityDetector).finding ext counts health ctx now) = .ok input := by
  have total : counts.total = counts.expired + counts.settled := rfl
  generalize held : ({ localNode } : SettlementReliabilityDetector).finding ext counts health ctx now = finding
  have common : validateCommon finding = .ok 1 := held ▸ validateCommon_ok finding_wellFormed
  have expired : requiredNonnegativeNumber finding "expired_invoices" = .ok (.ofNat counts.expired) :=
    requiredNonnegativeNumber_ofNat _ _ (held ▸ rfl) (by omega)
  have settled : requiredNonnegativeNumber finding "settled_invoices" = .ok (.ofNat counts.settled) :=
    requiredNonnegativeNumber_ofNat _ _ (held ▸ rfl) (by omega)
  have failureRate : requiredRatio finding "failure_rate" = .ok counts.failureRate := by
    obtain ⟨c, small, share, rate⟩ :=
      div_balance (n := counts.expired) (m := counts.total) (by omega) bounded (by omega)
    have ratio : counts.failureRate = ofCode c := rate
    unfold requiredRatio
    rw [requiredNumberIn_eq (x := counts.failureRate) (held ▸ rfl) (ratio ▸ isFinite_ofCode small), ratio,
      ratio_range small, decide_eq_true (share (by omega)), if_pos rfl]
  have chain : ∃ text, requiredNonemptyText finding "chain_synchronized" = .ok text := by
    have recorded : ∃ text, finding.evidenceValue "chain_synchronized" = some (.string text) ∧
        Text.isBlank text = false := by
      rw [← held]
      refine ⟨_, rfl, ?_⟩
      rcases ctx.chainSynchronized with _ | _ | _ <;> decide
    obtain ⟨text, found, visible⟩ := recorded
    exact ⟨text, requiredNonemptyText_ok _ _ text found visible⟩
  have cause : ∃ text, requiredNonemptyText finding "root_cause" = .ok text := by
    refine ⟨_, requiredNonemptyText_ok _ _ (rootCause ctx.chainSynchronized health.degraded) (held ▸ rfl) ?_⟩
    unfold rootCause
    split <;> decide
  obtain ⟨chainText, chain⟩ := chain
  obtain ⟨causeText, cause⟩ := cause
  unfold SettlementReliabilityInput.parse
  rw [common, expired, settled, failureRate, chain, cause]
  exact ⟨_, rfl⟩

end SettlementReliabilityDetector

namespace RecommendationEngine

def Accepts (ext : External) (finding : Finding) : Prop :=
  ∀ clock, ∃ recommendations, recommend ext clock finding = .ok recommendations

theorem accepts_liquidity {ext : External} {finding : Finding} (named : finding.detector = "channel_liquidity") :
    Accepts ext finding ↔ ∃ input, ChannelLiquidityInput.parse finding = .ok input := by
  unfold Accepts recommend
  rw [named]
  cases ChannelLiquidityInput.parse finding <;> simp [Except.map]

theorem accepts_liquidityTrend {ext : External} {finding : Finding} (named : finding.detector = "liquidity_trend") :
    Accepts ext finding ↔ ∃ input, LiquidityTrendInput.parse finding = .ok input := by
  unfold Accepts recommend
  rw [named]
  cases LiquidityTrendInput.parse finding <;> simp [Except.map]

theorem accepts_settlement {ext : External} {finding : Finding} (named : finding.detector = "settlement_reliability") :
    Accepts ext finding ↔ ∃ input, SettlementReliabilityInput.parse finding = .ok input := by
  unfold Accepts recommend
  rw [named]
  cases SettlementReliabilityInput.parse finding <;> simp [Except.map]

def FromNormalized (snapshot : ChannelSnapshot) : Prop :=
  ∃ channel ts network stateDigest, Normalized channel ∧
    snapshot = { ChannelSnapshot.fromChannel channel ts network with stateDigest }

/-- A channel of which nothing is reported that the engine refuses. -/
structure Acceptable (history : Option InMemoryHistory) (channel : Channel) : Prop where
  drained : channel.status.isOpen = true → LiquidityDetector.direction channel.liquidity ≠ none →
    Text.isBlank channel.peer = false
  draining : ∀ held, history = some held → ∀ start,
    DriftDetector.Draining (held.recentChannelSnapshots channel.id 12) channel start →
      Text.isBlank channel.peer = false ∧ start.lt (.ofRat (100005/100000)) = true

section Detectors

variable (ext : External) (clock : Nat → DateTime) (localNode : NodeId) {view : GraphView} {ctx : DetectorContext}

theorem liquidity_accepted (ctx : DetectorContext) (live : ∀ channel ∈ view.channels, Normalized channel) :
    (∀ finding ∈ ({ localNode } : LiquidityDetector).run ext clock view ctx, Accepts ext finding) ↔
      ∀ channel ∈ view.channels, channel.status.isOpen = true → LiquidityDetector.direction channel.liquidity ≠ none →
        Text.isBlank channel.peer = false := by
  constructor
  · intro accepted channel member isOpen drained
    obtain ⟨side, judged⟩ := Option.ne_none_iff_exists'.mp drained
    obtain ⟨now, reported⟩ := LiquidityDetector.run_mem member isOpen judged
    obtain ⟨input, parsed⟩ := (accepts_liquidity rfl).mp (accepted _ reported)
    rw [LiquidityDetector.parse_finding (live channel member).measured judged] at parsed
    split at parsed
    · cases parsed
    next visible => exact Bool.eq_false_of_not_eq_true visible
  · intro peers finding member
    obtain ⟨channel, listed, isOpen, side, drained, now, rfl⟩ := LiquidityDetector.mem_run member
    refine (accepts_liquidity rfl).mpr ?_
    rw [LiquidityDetector.parse_finding (live channel listed).measured drained,
      peers channel listed isOpen (by simp [drained])]
    exact ⟨_, rfl⟩

theorem snapshot_ratio {snapshot : ChannelSnapshot} (built : FromNormalized snapshot) :
    IsRatio balanceCode snapshot.localRatio := by
  obtain ⟨channel, ts, network, stateDigest, normalized, rfl⟩ := built
  exact normalized.measured.ratio

theorem drift_accepted (history : Option InMemoryHistory) (live : ∀ channel ∈ view.channels, Normalized channel)
    (past : ∀ held, history = some held → ∀ id, ∀ snapshot ∈ held.bucket id, FromNormalized snapshot)
    (remembered : ctx.history = history.map InMemoryHistory.view) :
    (∀ finding ∈ ({ localNode } : DriftDetector).run ext clock view ctx, Accepts ext finding) ↔
      ∀ channel ∈ view.channels, ∀ held, history = some held → ∀ start,
        DriftDetector.Draining (held.recentChannelSnapshots channel.id 12) channel start →
          Text.isBlank channel.peer = false ∧ start.lt (.ofRat (100005/100000)) = true := by
  cases history with
  | none =>
    unfold DriftDetector.run
    simp [remembered]
  | some held =>
    have ratios (id : ChannelId) : ∀ snapshot ∈ held.recentChannelSnapshots id 12,
        IsRatio balanceCode snapshot.localRatio := by
      intro snapshot recent
      unfold InMemoryHistory.recentChannelSnapshots at recent
      have stored : snapshot ∈ held.bucket id := List.mem_reverse.mp (List.mem_of_mem_take recent)
      exact snapshot_ratio (past held rfl id snapshot stored)
    constructor
    · rintro accepted channel member _ ⟨⟩ start draining
      obtain ⟨now, reported⟩ := DriftDetector.run_mem remembered member draining
      obtain ⟨input, parsed⟩ := (accepts_liquidityTrend rfl).mp (accepted _ reported)
      have parses := DriftDetector.parse_finding ext ctx localNode now
        (live channel member).measured (ratios channel.id) (held.recentChannelSnapshots_length channel.id 12) draining
      have decided := parses.symm.trans parsed
      split at decided
      · cases decided
      next below =>
        split at decided
        · cases decided
        next visible => exact ⟨Bool.eq_false_of_not_eq_true visible, by simpa using below⟩
    · intro demanded finding member
      obtain ⟨channel, listed, start, draining, now, rfl⟩ := DriftDetector.mem_run remembered member
      obtain ⟨visible, below⟩ := demanded channel listed held rfl start draining
      refine (accepts_liquidityTrend rfl).mpr ?_
      have parses := DriftDetector.parse_finding ext ctx localNode now
        (live channel listed).measured (ratios channel.id) (held.recentChannelSnapshots_length channel.id 12) draining
      rw [below, visible] at parses
      exact ⟨_, parses⟩

theorem settlement_accepted (view : GraphView) (bounded : ∀ events, ctx.events = some events → events.length < 2^63) :
    ∀ finding ∈ ({ localNode } : SettlementReliabilityDetector).run ext clock view ctx, Accepts ext finding := by
  intro finding member
  unfold SettlementReliabilityDetector.run at member
  split at member
  · cases member
  next events received =>
    dsimp only at member
    split at member
    next raised =>
      rw [List.mem_singleton.mp member]
      have counted : (SettlementCounts.of events).total ≠ 0 := by
        unfold SettlementReliabilityDetector.raises at raised
        simp only [Bool.and_eq_true, decide_eq_true_eq] at raised
        exact raised.1.1
      have total := SettlementReliabilityDetector.of_total events
      have slice := bounded events received
      exact (accepts_settlement rfl).mpr (SettlementReliabilityDetector.parse_finding (by omega) counted)
    · cases member

end Detectors

/-- The engine accepts everything that the three detectors report of normalized channels exactly where each channel
    is acceptable. A slice of events never holds more than `isize::MAX` bytes. -/
theorem findings_accepted_iff (ext : External) (liquidityClock driftClock settlementClock : Nat → DateTime)
    (localNode : NodeId) (view : GraphView) (ctx : DetectorContext) (history : Option InMemoryHistory)
    (live : ∀ channel ∈ view.channels, Normalized channel)
    (past : ∀ held, history = some held → ∀ id, ∀ snapshot ∈ held.bucket id, FromNormalized snapshot)
    (remembered : ctx.history = history.map InMemoryHistory.view)
    (bounded : ∀ events, ctx.events = some events → events.length < 2^63) :
    (∀ finding ∈ ({ localNode } : LiquidityDetector).run ext liquidityClock view ctx ++
        ({ localNode } : DriftDetector).run ext driftClock view ctx ++
        ({ localNode } : SettlementReliabilityDetector).run ext settlementClock view ctx, Accepts ext finding) ↔
      ∀ channel ∈ view.channels, Acceptable history channel := by
  have liquidity := liquidity_accepted ext liquidityClock localNode ctx live
  have drift := drift_accepted ext driftClock localNode history live past remembered
  have settlement := settlement_accepted ext settlementClock localNode view bounded
  constructor
  · intro accepted channel member
    refine ⟨liquidity.mp (fun finding reported => accepted finding ?_) channel member,
      drift.mp (fun finding reported => accepted finding ?_) channel member⟩
    · exact List.mem_append_left _ (List.mem_append_left _ reported)
    · exact List.mem_append_left _ (List.mem_append_right _ reported)
  · intro acceptable finding reported
    rcases List.mem_append.mp reported with channels | settled
    · rcases List.mem_append.mp channels with one | other
      · exact liquidity.mpr (fun channel member => (acceptable channel member).drained) finding one
      · exact drift.mpr (fun channel member => (acceptable channel member).draining) finding other
    · exact settlement finding settled

section Runs

def listedChannel (localBalance : Int64) : LndChannel where
  channelPoint := "tx:0"
  remotePubkey := "peer"
  capacity := 100
  localBalance
  remoteBalance := 0
  chanStatusFlags := "0"

def seenChannels (localBalance : Int64) : List Channel :=
  match Normalizer.channel (listedChannel localBalance) "node" 5 with
  | .ok channel => [channel]
  | .error _ => []

theorem seenChannels_normalized (localBalance : Int64) : ∀ channel ∈ seenChannels localBalance, Normalized channel := by
  intro channel member
  unfold seenChannels at member
  split at member
  next built =>
    rw [List.mem_singleton.mp member]
    exact ⟨_, _, _, built⟩
  · cases member

def historyOf (localBalances : List Int64) : InMemoryHistory :=
  (localBalances.flatMap fun localBalance =>
    (seenChannels localBalance).map (ChannelSnapshot.fromChannel · 5 .mainnet)).foldl .push { maxPerChannel := 12 }

theorem historyOf_normalized (localBalances : List Int64) (id : ChannelId) :
    ∀ snapshot ∈ (historyOf localBalances).bucket id, FromNormalized snapshot := by
  intro snapshot member
  rcases InMemoryHistory.mem_bucket_pushes member with pushed | stored
  · obtain ⟨localBalance, -, seen⟩ := List.mem_flatMap.mp pushed
    obtain ⟨channel, listed, rfl⟩ := List.mem_map.mp seen
    exact ⟨channel, 5, .mainnet, none, seenChannels_normalized localBalance channel listed, rfl⟩
  · simp [InMemoryHistory.bucket] at stored

/-- A channel that drains from within its capacity is accepted. -/
theorem findings_accepted_draining :
    let ext : External := ⟨fun _ => "digest", fun _ => "null", fun _ => "instant", fun _ => "instant"⟩
    let ctx : DetectorContext := { network := .mainnet, history := some (historyOf [100, 60, 50, 40]).view }
    ∀ finding ∈ ({ localNode := "node" } : LiquidityDetector).run ext (fun _ => 9) ⟨seenChannels 20⟩ ctx ++
        ({ localNode := "node" } : DriftDetector).run ext (fun _ => 9) ⟨seenChannels 20⟩ ctx ++
        ({ localNode := "node" } : SettlementReliabilityDetector).run ext (fun _ => 9) ⟨seenChannels 20⟩ ctx,
      Accepts ext finding := by
  intro ext ctx
  refine (findings_accepted_iff ext _ _ _ "node" ⟨seenChannels 20⟩ ctx (some (historyOf [100, 60, 50, 40]))
    (seenChannels_normalized 20) ?_ rfl (fun events received => by cases received)).mpr ?_
  · rintro held ⟨⟩ id
    exact historyOf_normalized _ id
  · have peers : ∀ channel ∈ seenChannels 20, Text.isBlank channel.peer = false := by decide
    have starts : ∀ channel ∈ seenChannels 20,
        (((historyOf [100, 60, 50, 40]).recentChannelSnapshots channel.id 12).getLast?.map (·.localRatio)) =
          some (.ofNat 1) := by decide +kernel
    intro channel member
    refine ⟨fun _ _ => peers channel member, ?_⟩
    rintro held ⟨⟩ start draining
    have first := (starts channel member).symm.trans draining.oldest
    rw [Option.some_inj] at first
    exact ⟨peers channel member, first ▸ by decide +kernel⟩

/-- A channel that once held more than its capacity, and now drains, is reported and refused. -/
theorem overfull_window_refused :
    (∀ channel ∈ seenChannels 20, Normalized channel) ∧
      (∀ id, ∀ snapshot ∈ (historyOf [200, 60, 50, 40]).bucket id, FromNormalized snapshot) ∧
      ¬ ∀ finding ∈ ({ localNode := "node" } : DriftDetector).run
          ⟨fun _ => "digest", fun _ => "null", fun _ => "instant", fun _ => "instant"⟩ (fun _ => 9) ⟨seenChannels 20⟩
          { network := .mainnet, history := some (historyOf [200, 60, 50, 40]).view },
        Accepts ⟨fun _ => "digest", fun _ => "null", fun _ => "instant", fun _ => "instant"⟩ finding := by
  refine ⟨seenChannels_normalized 20, historyOf_normalized _, fun accepted => ?_⟩
  have demanded := (drift_accepted _ _ _ (some (historyOf [200, 60, 50, 40])) (seenChannels_normalized 20)
    (by rintro held ⟨⟩ id; exact historyOf_normalized _ id) rfl).mp accepted
  have draining : ∀ channel ∈ seenChannels 20, channel.status.isOpen = true ∧ channel.liquidity.imbalance ≠ .unknown ∧
      4 ≤ ((historyOf [200, 60, 50, 40]).recentChannelSnapshots channel.id 12).length ∧
      (((historyOf [200, 60, 50, 40]).recentChannelSnapshots channel.id 12).getLast?.map (·.localRatio)) =
        some (.ofNat 2) ∧
      ((Binary64.ofNat 2).sub channel.liquidity.localRatio).lt (.ofRat (5/100)) = false ∧
      (Binary64.ofRat (25/100)).le channel.liquidity.localRatio = false := by decide +kernel
  obtain ⟨channel, member⟩ : ∃ channel, channel ∈ seenChannels 20 := List.exists_mem_of_ne_nil _ (by decide +kernel)
  obtain ⟨isOpen, known, enough, oldest, declined, low⟩ := draining channel member
  have below := (demanded channel member _ rfl _ ⟨isOpen, known, enough, oldest, declined, low⟩).2
  exact absurd below (by decide +kernel)

end Runs

end RecommendationEngine

end Rieko
