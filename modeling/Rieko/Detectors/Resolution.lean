import Rieko.Detectors.Drift
import Rieko.Detectors.Liquidity
import Rieko.Detectors.Operational
import Rieko.Detectors.Settlement
import Rieko.Storage.CycleHistory
import Rieko.Storage.ResolveCycles

namespace Rieko

open StatefulResult Hysteresis

/-- The detectors of the program, with any thresholds, node, clock and operational state. -/
inductive Detector.Shipped (ext : External) : Detector → Prop where
  | liquidity (clock : Nat → DateTime) (self : LiquidityDetector) : Shipped ext (self.detector ext clock)
  | drift (clock : Nat → DateTime) (self : DriftDetector) : Shipped ext (self.detector ext clock)
  | settlement (clock : Nat → DateTime) (self : SettlementReliabilityDetector) :
      Shipped ext (self.detector ext clock)
  | btcPayBackendHealth (state : OperationalState) :
      Shipped ext (BtcPayBackendHealthDetector.detector ext state)
  | bitcoinCoreSync (state : OperationalState) :
      Shipped ext (BitcoinCoreSyncCorrelationDetector.detector ext state)
  | lightningChainSync (state : OperationalState) :
      Shipped ext (LightningChainSyncCorrelationDetector.detector ext state)

/-- A detector copies the network of its scope into a finding only along with a source. -/
structure Detector.Labels (detector : Detector) : Prop where
  network : ∀ view ctx, ∀ finding ∈ detector.run view ctx,
    finding.network = ctx.source.bind fun _ => detector.networkScope ctx
  schema : ∀ view ctx, ∀ finding ∈ detector.run view ctx, finding.schemaVersion = findingSchemaVersion

theorem network_of_source {ctx : DetectorContext} {finding : Finding} {build : ObservationSource → FindingProvenance}
    (provenance : finding.provenance = ctx.source.map build)
    (network : ∀ source, (build source).network = some ctx.network) :
    finding.network = ctx.source.bind fun _ => some ctx.network := by
  unfold Finding.network
  rw [provenance]
  cases ctx.source with
  | none => rfl
  | some source => exact network source

theorem LiquidityDetector.labels (ext : External) (clock : Nat → DateTime) (self : LiquidityDetector) :
    (self.detector ext clock).Labels := by
  have built : ∀ view ctx, ∀ finding ∈ self.run ext clock view ctx,
      ∃ channel direction now, finding = self.finding ext ctx channel direction now := by
    intro view ctx finding member
    obtain ⟨channel, -, -, direction, -, now, rfl⟩ := mem_run member
    exact ⟨channel, direction, now, rfl⟩
  constructor
  · intro view ctx finding member
    obtain ⟨channel, direction, now, rfl⟩ := built view ctx finding member
    exact network_of_source rfl fun _ => rfl
  · intro view ctx finding member
    obtain ⟨channel, direction, now, rfl⟩ := built view ctx finding member
    rfl

theorem DriftDetector.labels (ext : External) (clock : Nat → DateTime) (self : DriftDetector) :
    (self.detector ext clock).Labels := by
  have built : ∀ view ctx, ∀ finding ∈ self.run ext clock view ctx,
      ∃ channel snaps start decline now, finding = self.finding ext ctx channel snaps start decline now := by
    intro view ctx finding member
    unfold run at member
    split at member
    · cases member
    · obtain ⟨channel, -, build, verdict, now, rfl⟩ := mem_reported member
      unfold judge at verdict
      split at verdict
      · cases verdict
      split at verdict
      · cases verdict
      dsimp only at verdict
      split at verdict
      · cases verdict
      obtain ⟨oldest, -, verdict⟩ := Option.bind_eq_some_iff.mp verdict
      split at verdict
      · cases verdict
      cases verdict
      exact ⟨channel, _, _, _, now, rfl⟩
  constructor
  · intro view ctx finding member
    obtain ⟨channel, snaps, start, decline, now, rfl⟩ := built view ctx finding member
    exact network_of_source rfl fun _ => rfl
  · intro view ctx finding member
    obtain ⟨channel, snaps, start, decline, now, rfl⟩ := built view ctx finding member
    rfl

theorem SettlementReliabilityDetector.mem_run {ext : External} {clock : Nat → DateTime}
    {self : SettlementReliabilityDetector} {view : GraphView} {ctx : DetectorContext} {finding : Finding}
    (member : finding ∈ self.run ext clock view ctx) :
    ∃ counts, finding = self.finding ext counts (.of self view) ctx (clock 0) := by
  unfold run at member
  split at member
  · cases member
  dsimp only at member
  split at member
  · exact ⟨_, List.mem_singleton.mp member⟩
  · cases member

theorem SettlementReliabilityDetector.labels (ext : External) (clock : Nat → DateTime)
    (self : SettlementReliabilityDetector) : (self.detector ext clock).Labels := by
  constructor
  · intro view ctx finding member
    obtain ⟨counts, rfl⟩ := mem_run member
    exact network_of_source rfl fun _ => rfl
  · intro view ctx finding member
    obtain ⟨counts, rfl⟩ := mem_run member
    rfl

theorem labels_of_operational (ext : External) {detector : Detector}
    (unscoped : ∀ ctx, detector.networkScope ctx = none)
    (built : ∀ view ctx, ∀ finding ∈ detector.run view ctx, ∃ node evidence explanation observedAt,
      finding = operationalFinding ext detector.id detector.version node evidence explanation observedAt) :
    detector.Labels := by
  constructor
  · intro view ctx finding member
    obtain ⟨node, evidence, explanation, observedAt, rfl⟩ := built view ctx finding member
    rw [unscoped]
    cases ctx.source <;> rfl
  · intro view ctx finding member
    obtain ⟨node, evidence, explanation, observedAt, rfl⟩ := built view ctx finding member
    rfl

theorem BtcPayBackendHealthDetector.labels (ext : External) (state : OperationalState) :
    (detector ext state).Labels := by
  refine labels_of_operational ext (fun _ => rfl) fun view ctx finding member => ?_
  change finding ∈ run ext state view ctx at member
  unfold run at member
  split at member
  · exact ⟨_, _, _, _, List.mem_singleton.mp member⟩
  · cases member

theorem correlation_labels (ext : External) (state : OperationalState) :
    (BitcoinCoreSyncCorrelationDetector.detector ext state).Labels ∧
      (LightningChainSyncCorrelationDetector.detector ext state).Labels := by
  constructor
  all_goals
    refine labels_of_operational ext (fun _ => rfl) fun view ctx finding member => ?_
    simp only [BitcoinCoreSyncCorrelationDetector.detector, BitcoinCoreSyncCorrelationDetector.run,
      LightningChainSyncCorrelationDetector.detector, LightningChainSyncCorrelationDetector.run] at member
    split at member
    · split at member
      · cases member
      · exact ⟨_, _, _, _, List.mem_singleton.mp member⟩
    · cases member

theorem Detector.Shipped.labels {ext : External} {detector : Detector} (shipped : detector.Shipped ext) :
    detector.Labels := by
  cases shipped with
  | liquidity clock self => exact self.labels ext clock
  | drift clock self => exact self.labels ext clock
  | settlement clock self => exact self.labels ext clock
  | btcPayBackendHealth state => exact BtcPayBackendHealthDetector.labels ext state
  | bitcoinCoreSync state => exact (correlation_labels ext state).1
  | lightningChainSync state => exact (correlation_labels ext state).2

namespace MemoryStorage

structure Receives (s : MemoryStorage) (finding : Finding) : Prop where
  unique : Rows.Keyed Finding.id s.findings
  origin : ∀ existing, s.stored finding.id = some existing →
    existing.detector = finding.detector ∧ existing.node = finding.node
  earlier : ∀ existing, s.stored finding.id = some existing → existing.lastSeenAt ≤ finding.lastSeenAt

structure ResolvedBy (s : MemoryStorage) (scope : FindingCycleScope) (finding : Finding) : Prop where
  covered : ∃ kept, s.stored finding.id = some kept ∧ scope.covers kept = true
  resolves : ∀ later s', (∀ cycle ∈ later, cycle.observes finding.id = false) →
    3 ≤ later.countP (fun cycle => cycle.scope = { scope with complete := true }) →
    commitAll later s = .ok () s' → ∃ kept, s'.stored finding.id = some kept ∧ kept.lifecycle = .resolved

theorem stored_putFinding_received {s : MemoryStorage} {finding : Finding} (receives : s.Receives finding) :
    ∃ kept, (s.putFinding finding).stored finding.id = some kept ∧ kept.detector = finding.detector ∧
      kept.node = finding.node ∧ kept.provenance = finding.provenance ∧ kept.lifecycle = .active := by
  rw [stored_putFinding, if_pos rfl]
  cases present : s.stored finding.id with
  | none => exact ⟨_, rfl, rfl, rfl, rfl, rfl⟩
  | some existing =>
    obtain ⟨detector, node⟩ := receives.origin existing present
    obtain ⟨sameDetector, sameNode⟩ :=
      existing.reobserve_origin finding (earliestFirstSeen s.findings finding)
    obtain ⟨active, -, provenance⟩ :=
      Finding.reobserve_fresh (earliestFirstSeen s.findings finding) (receives.earlier existing present)
    exact ⟨_, rfl, sameDetector.trans detector, sameNode.trans node, provenance, active⟩

theorem resolvedBy_of_covered {s : MemoryStorage} {scope : FindingCycleScope} {finding kept : Finding}
    (unique : Rows.Keyed Finding.id s.findings) (stored : s.stored finding.id = some kept)
    (covered : scope.covers kept = true) : s.ResolvedBy scope finding := by
  refine ⟨⟨kept, stored, covered⟩, fun later s' unobserved enough ran => ?_⟩
  have found : s.tracked finding.id = some ⟨kept, s.absence finding.id⟩ := by rw [tracked, stored]; rfl
  obtain ⟨after, present, phase⟩ := phase_commitAll_unobserved unique found unobserved ran
  have counted : later.countP (fun cycle => cycle.scope = { scope with complete := true }) ≤
      later.countP (·.countsAgainst kept) := by
    refine List.countP_mono_left fun cycle _ own => ?_
    rw [FindingCycle.countsAgainst, of_decide_eq_true own]
    exact decide_eq_true ⟨rfl, covered⟩
  rw [settles _ (by omega) (enough.trans counted)] at phase
  obtain ⟨last, inStore, rfl⟩ := Option.map_eq_some_iff.mp present
  exact ⟨last, inStore, Tracked.phase_settled.mp phase⟩

end MemoryStorage

/-- A finding of a successful evaluation can be resolved by its own scope, from any store that receives it,
    exactly when the scope names no network or the context names a source. -/
theorem evaluated_finding_resolves_iff {ext : External} {detector : Detector} (shipped : detector.Shipped ext)
    (view : GraphView) (ctx : DetectorContext) (cycle : DetectorCycle)
    (evaluated : detector.evaluate ext view ctx = .ok cycle) (finding : Finding)
    (member : finding ∈ cycle.findings) :
    (∀ s : MemoryStorage, s.Receives finding →
      ∃ s', MemoryStorage.saveFinding finding s = .ok () s' ∧ s'.ResolvedBy cycle.scope finding) ↔
    (detector.networkScope ctx = none ∨ ctx.source.isSome = true) := by
  obtain ⟨node, -, returned, scope, accepted, -⟩ := Detector.evaluate_ok evaluated
  have valid := accepted finding member
  rw [returned] at member
  have network := shipped.labels.network view ctx finding member
  have schema := shipped.labels.schema view ctx finding member
  have saves : ∀ s : MemoryStorage, MemoryStorage.saveFinding finding s = .ok () (s.putFinding finding) :=
    fun s => MemoryStorage.saveFinding_ok.mpr ⟨validateFindingSchema_ok.mpr (by rw [schema]; decide), rfl⟩
  simp only [Detector.accepts, decide_eq_true_eq] at valid
  obtain ⟨detectorName, -, nodeName, -, -⟩ := valid
  constructor
  · intro resolves
    have empty : MemoryStorage.new.Receives finding :=
      ⟨List.nodup_nil, fun _ stored => (nomatch stored), fun _ stored => (nomatch stored)⟩
    obtain ⟨s', saved, resolvedBy⟩ := resolves MemoryStorage.new empty
    rw [saves] at saved
    cases saved
    obtain ⟨kept, stored, covered⟩ := resolvedBy.covered
    obtain ⟨also, present, -, -, provenance, -⟩ := MemoryStorage.stored_putFinding_received empty
    rw [stored] at present
    cases present
    rw [scope, FindingCycleScope.covers, decide_eq_true_eq] at covered
    have same : kept.network = detector.networkScope ctx := covered.2.1
    rw [Finding.network, provenance, ← Finding.network, network] at same
    cases source : ctx.source with
    | some _ => exact .inr rfl
    | none =>
      rw [source] at same
      exact .inl same.symm
  · intro named s receives
    refine ⟨s.putFinding finding, saves s, ?_⟩
    obtain ⟨kept, stored, keptDetector, keptNode, provenance, -⟩ :=
      MemoryStorage.stored_putFinding_received receives
    refine MemoryStorage.resolvedBy_of_covered (MemoryStorage.keyed_putFinding receives.unique finding) stored ?_
    rw [scope, FindingCycleScope.covers, decide_eq_true_eq]
    refine ⟨keptDetector.trans detectorName, ?_, keptNode.trans nodeName⟩
    rw [Finding.network, provenance, ← Finding.network, network]
    rcases named with unscoped | sourced
    · rw [unscoped]
      cases ctx.source <;> rfl
    · obtain ⟨source, present⟩ := Option.isSome_iff_exists.mp sourced
      rw [present]
      rfl

theorem Detector.evaluate_single {ext : External} {detector : Detector} {view : GraphView} {ctx : DetectorContext}
    {node : String} {finding : Finding} (named : ctx.node = some node) (single : detector.run view ctx = [finding])
    (accepted : detector.accepts ext node (detector.networkScope ctx) finding = true) :
    detector.evaluate ext view ctx =
      .ok ⟨⟨detector.id, detector.networkScope ctx, some node, detector.isComplete view ctx⟩, [finding]⟩ := by
  simp [evaluate, named, single, check, accepted]

theorem evaluated_finding_resolves_backend_health :
    let ext : External := ⟨fun _ => "digest", fun _ => "null", fun _ => "instant", fun _ => "instant"⟩
    let state : OperationalState := { source := .btcPayGreenfield false, lastIngestionAttempt := some 7 }
    let detector := BtcPayBackendHealthDetector.detector ext state
    ∃ cycle finding, detector.evaluate ext ⟨[]⟩ { network := .mainnet, node := some "store" } = .ok cycle ∧
      finding ∈ cycle.findings ∧ ∀ s : MemoryStorage, s.Receives finding →
        ∃ s', MemoryStorage.saveFinding finding s = .ok () s' ∧ s'.ResolvedBy cycle.scope finding := by
  intro ext state detector
  have evaluated : detector.evaluate ext ⟨[]⟩ { network := .mainnet, node := some "store" } = .ok _ :=
    Detector.evaluate_single rfl rfl (by decide)
  exact ⟨_, _, evaluated, List.mem_singleton_self _,
    (evaluated_finding_resolves_iff (.btcPayBackendHealth state) _ _ _ evaluated _
      (List.mem_singleton_self _)).mpr (.inl rfl)⟩

/-- The webhook loop of the agent evaluates settlement without a source: a finding on two expired invoices
    carries no network, and three complete cycles of its scope leave it active. -/
theorem settlement_finding_stays_active :
    let ext : External := ⟨fun _ => "digest", fun _ => "null", fun _ => "instant", fun _ => "instant"⟩
    let expired (id : String) : NodeEvent := .invoiceExpired ⟨id, some "store", none, 0⟩
    let detector := SettlementReliabilityDetector.detector ext (fun _ => 5) { localNode := "store" }
    let ctx : DetectorContext :=
      { network := .mainnet, node := some "store", events := some [expired "a", expired "b"] }
    ∃ cycle finding s', detector.evaluate ext ⟨[]⟩ ctx = .ok cycle ∧ cycle.findings = [finding] ∧
      cycle.scope.complete = true ∧
      (do MemoryStorage.saveFinding finding
          commitAll [⟨cycle.scope, []⟩, ⟨cycle.scope, []⟩, ⟨cycle.scope, []⟩]) MemoryStorage.new = .ok () s' ∧
      (s'.stored finding.id).map (·.lifecycle) = some .active := by
  intro ext expired detector ctx
  have raised : SettlementReliabilityDetector.raises { localNode := "store" }
      (.of [expired "a", expired "b"]) = true := by decide +kernel
  have single : detector.run ⟨[]⟩ ctx = [SettlementReliabilityDetector.finding ext { localNode := "store" }
      (.of [expired "a", expired "b"]) (.of { localNode := "store" } ⟨[]⟩) ctx 5] := if_pos raised
  exact ⟨_, _, _, Detector.evaluate_single rfl single (by decide), rfl, rfl,
    ok_of_succeeds (by decide +kernel), by decide +kernel⟩

end Rieko
