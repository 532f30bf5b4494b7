import Rieko.Cli.MonitorMemory

namespace Rieko

open StatefulResult CycleM MemoryStorage Transition

namespace MemoryStorage

def HoldsActive (s : MemoryStorage) (findingId : String) (id : ChannelId) : Prop :=
  ∃ finding, s.stored findingId = some finding ∧ finding.lifecycle = .active ∧ finding.channel = some id

theorem holdsActive_putFinding {s : MemoryStorage} {findingId : String} {id : ChannelId}
    (active : s.HoldsActive findingId id) (finding : Finding) : (s.putFinding finding).HoldsActive findingId id := by
  obtain ⟨existing, found, lifecycle, about⟩ := active
  unfold HoldsActive
  rw [stored_putFinding]
  by_cases same : finding.id = findingId
  · rw [if_pos same, found]
    refine ⟨_, rfl, ?_⟩
    rw [Option.map_some, Option.getD_some]
    unfold Finding.reobserve
    split
    · exact ⟨rfl, about⟩
    · exact ⟨lifecycle, about⟩
  · rw [if_neg same]
    exact ⟨existing, found, lifecycle, about⟩

theorem recordWritesKeep_active (findingId : String) (id : ChannelId) :
    RecordWritesKeep fun s : MemoryStorage => s.HoldsActive findingId id where
  saveFinding finding := by
    intro s active
    show HoldsActive (final (saveFinding finding) s) findingId id
    unfold final saveFinding
    cases validateFindingSchema finding.schemaVersion with
    | error e => exact active
    | ok _ => exact holdsActive_putFinding active finding
  saveRecommendation _ := fun _ active => active
  recommendationForAction _ := fun _ active => active
  syncRecommendationLifecycles _ := fun _ active => active
  appendAudit _ := fun _ active => active
  updateOperationalState _ := fun _ active => active

theorem resolveFindingsForScope_incomplete {scope : FindingCycleScope} (incomplete : scope.complete = false)
    (s : MemoryStorage) : final (resolveFindingsForScope scope) s = s := by
  show s.resolveScope scope = s
  unfold resolveScope
  rw [incomplete]
  rfl

end MemoryStorage

theorem persist_holdsActive {env : CycleEnv} (cycle : CycleInput) {w : World MemoryStorage} {findingId : String}
    {id : ChannelId} (idle : w.storage.transactionSnapshot = none) (active : w.storage.HoldsActive findingId id)
    (incomplete : ∀ scope ∈ cycle.scopes, scope.complete = false) :
    (final (cycle.persist env) w).storage.transactionSnapshot = none ∧
      (final (cycle.persist env) w).storage.HoldsActive findingId id := by
  obtain ⟨results, operationalState, -, -, ran⟩ := persist_eq env cycle idle
  let start := w.withStorage { w.storage with operationalState }
  have started : start.storage.HoldsActive findingId id := active
  have body : Preserves (fun w : World MemoryStorage => w.storage.HoldsActive findingId id)
      (persistCycleInside env cycle.snapshots cycle.scopes results) := by
    refine (recordWritesKeep_active findingId id).persistCycleInside env results (fun snapshot _ s held => held)
      fun scope member s held => ?_
    show HoldsActive (final (resolveFindingsForScope scope) s) findingId id
    rw [resolveFindingsForScope_incomplete (incomplete scope member)]
    exact held
  have inside := body start.begun started
  unfold final at inside ⊢
  rw [ran]
  cases result : persistCycleInside env cycle.snapshots cycle.scopes results start.begun with
  | ok recommendations w' =>
    rw [result] at inside
    exact ⟨rfl, inside⟩
  | error e w' => exact ⟨rfl, started⟩

theorem detectorCycles_ok {settings : CycleSettings} {outside : CycleOutside} {graph : InMemoryGraph}
    {history : Option InMemoryHistory} {cycles : List DetectorCycle}
    (detected : detectorCycles settings outside graph history = .ok cycles) :
    ∃ source liquidity drift settlement, cycles = [liquidity, drift, settlement] ∧
      (LiquidityDetector.detector settings.env.ext outside.clocks.liquidity
        { localNode := settings.source.node }).evaluate
        settings.env.ext graph.view (cycleContext settings source history) = .ok liquidity ∧
      (DriftDetector.detector settings.env.ext outside.clocks.drift { localNode := settings.source.node }).evaluate
        settings.env.ext graph.view (cycleContext settings source history) = .ok drift ∧
      (SettlementReliabilityDetector.detector settings.env.ext outside.clocks.settlement
        { localNode := settings.source.node }).evaluate
        settings.env.ext graph.view (cycleContext settings source history) = .ok settlement := by
  unfold detectorCycles at detected
  split at detected
  · cases detected
  next source _ =>
    refine ⟨source, ?_⟩
    unfold cycleDetectors at detected
    simp only [List.mapM_cons, List.mapM_nil] at detected
    cases first : (LiquidityDetector.detector settings.env.ext outside.clocks.liquidity
        { localNode := settings.source.node }).evaluate settings.env.ext graph.view
        (cycleContext settings source history) with
    | error e => rw [first] at detected; cases detected
    | ok liquidity =>
      cases second : (DriftDetector.detector settings.env.ext outside.clocks.drift
          { localNode := settings.source.node }).evaluate settings.env.ext graph.view
          (cycleContext settings source history) with
      | error e => rw [first, second] at detected; cases detected
      | ok drift =>
        cases third : (SettlementReliabilityDetector.detector settings.env.ext outside.clocks.settlement
            { localNode := settings.source.node }).evaluate settings.env.ext graph.view
            (cycleContext settings source history) with
        | error e => rw [first, second, third] at detected; cases detected
        | ok settlement =>
          rw [first, second, third] at detected
          cases detected
          exact ⟨liquidity, drift, settlement, rfl, rfl, rfl, rfl⟩

def InMemoryGraph.HasUnknown (graph : InMemoryGraph) : Prop :=
  ∃ channel ∈ graph.storedChannels, channel.status.isOpen = true ∧ channel.liquidity.imbalance = .unknown

theorem liquidity_incomplete_iff {graph : InMemoryGraph} :
    LiquidityDetector.isComplete graph.view = false ↔ graph.HasUnknown := by
  unfold LiquidityDetector.isComplete InMemoryGraph.HasUnknown InMemoryGraph.view
  simp

theorem drift_incomplete {graph : InMemoryGraph} (unknown : graph.HasUnknown) (self : DriftDetector)
    (ctx : DetectorContext) : self.isComplete graph.view ctx = false := by
  obtain ⟨channel, stored, isOpen, imbalance⟩ := unknown
  unfold DriftDetector.isComplete
  split
  · rfl
  · rw [List.all_eq_false]
    exact ⟨channel, stored, by simp [isOpen, imbalance]⟩

theorem scopes_incomplete {settings : CycleSettings} {outside : CycleOutside} {graph : InMemoryGraph}
    {history : Option InMemoryHistory} {cycles : List DetectorCycle}
    (detected : detectorCycles settings outside graph history = .ok cycles) :
    ((∀ cycle ∈ cycles, cycle.scope.detector = LiquidityDetector.id ∨ cycle.scope.detector = DriftDetector.id →
        cycle.scope.complete = false) ↔ graph.HasUnknown) ∧
      (graph.HasUnknown → ∀ cycle ∈ cycles, cycle.scope.complete = false) := by
  obtain ⟨source, liquidity, drift, settlement, rfl, first, second, third⟩ := detectorCycles_ok detected
  obtain ⟨_, -, -, liquidityScope, -, -⟩ := Detector.evaluate_ok first
  obtain ⟨_, -, -, driftScope, -, -⟩ := Detector.evaluate_ok second
  obtain ⟨_, -, -, settlementScope, -, -⟩ := Detector.evaluate_ok third
  have all (unknown : graph.HasUnknown) :
      ∀ cycle ∈ [liquidity, drift, settlement], cycle.scope.complete = false := by
    intro cycle member
    simp only [List.mem_cons, List.not_mem_nil, or_false] at member
    rcases member with rfl | rfl | rfl
    · rw [liquidityScope]
      exact liquidity_incomplete_iff.mpr unknown
    · rw [driftScope]
      exact drift_incomplete unknown _ _
    · rw [settlementScope]
      rfl
  refine ⟨⟨fun incomplete => ?_, fun unknown cycle member _ => all unknown cycle member⟩, all⟩
  have flag := incomplete liquidity List.mem_cons_self (.inl (by rw [liquidityScope]; rfl))
  rw [liquidityScope] at flag
  exact liquidity_incomplete_iff.mp flag

/-- The node lists the channel with this id, and no entry of it can be normalized. -/
def Outside.Overlooks (source : GraphSource) (outside : Outside) (id : ChannelId) : Prop :=
  ∀ raw, outside.rawChannels = .ok raw →
    (∃ lnd ∈ raw, Normalizer.canonicalId lnd.channelPoint = id) ∧
      ∀ lnd ∈ raw, Normalizer.canonicalId lnd.channelPoint = id →
        ∃ e, Normalizer.channel lnd (source.resolvedLocal outside) outside.observedAt = .error e

theorem buildLive_channels {source : GraphSource} {outside : Outside} {graph : InMemoryGraph}
    (live : source.lndRest.isSome = true) (built : source.build outside = .ok graph) :
    ∃ raw, outside.rawChannels = .ok raw ∧ ∀ channel ∈ graph.storedChannels, ∃ lnd ∈ raw,
      Normalizer.channel lnd (source.resolvedLocal outside) outside.observedAt = .ok channel := by
  obtain ⟨rest, given⟩ := Option.isSome_iff_exists.mp live
  unfold GraphSource.build at built
  rw [given] at built
  change source.buildLive outside = .ok graph at built
  unfold GraphSource.buildLive at built
  cases connected : outside.client with
  | error e => rw [connected] at built; cases built
  | ok _ =>
    cases listed : outside.rawChannels with
    | error e => rw [connected, listed] at built; cases built
    | ok raw =>
      rw [connected, listed] at built
      cases built
      refine ⟨raw, rfl, fun channel stored => ?_⟩
      rcases InMemoryGraph.mem_upsertChannels stored with normalized | none
      · obtain ⟨lnd, member, kept⟩ := List.mem_filterMap.mp normalized
        split at kept
        next ok =>
          cases kept
          exact ⟨lnd, member, ok⟩
        · cases kept
      · cases none

theorem overlooked_unobserved {source : GraphSource} {outside : Outside} {graph : InMemoryGraph} {id : ChannelId}
    (live : source.lndRest.isSome = true) (overlooked : outside.Overlooks source id)
    (built : source.build outside = .ok graph) : ∀ channel ∈ graph.storedChannels, channel.id ≠ id := by
  intro channel stored same
  obtain ⟨raw, listed, normalized⟩ := buildLive_channels live built
  obtain ⟨lnd, member, ok⟩ := normalized channel stored
  obtain ⟨-, named, -⟩ := Normalizer.channel_ok ok
  obtain ⟨e, failed⟩ := (overlooked raw listed).2 lnd member (named.symm.trans same)
  rw [failed] at ok
  cases ok

namespace Monitor

structure KeepsOverlooked (settings : CycleSettings) (findingId : String) (id : ChannelId) (m : Monitor MemoryStorage)
    (outside : CycleOutside) : Prop where
  unobserved : ∀ graph cycles, m.evaluated settings outside = some (graph, cycles) →
    ∀ channel ∈ graph.storedChannels, channel.id ≠ id
  incomplete : ∀ graph cycles, m.evaluated settings outside = some (graph, cycles) → ∀ cycle ∈ cycles,
    cycle.scope.detector = LiquidityDetector.id ∨ cycle.scope.detector = DriftDetector.id → cycle.scope.complete = false
  active : (m.next settings outside).world.storage.HoldsActive findingId id

/-- Where a cycle gets as far as its scopes, another channel of its graph is open and cannot be judged. -/
def SeesUnknown (settings : CycleSettings) (m : Monitor MemoryStorage) (outside : CycleOutside) : Prop :=
  ∀ graph cycles, m.evaluated settings outside = some (graph, cycles) → graph.HasUnknown

theorem evaluated_some {settings : CycleSettings} {m : Monitor MemoryStorage} {outside : CycleOutside}
    {graph : InMemoryGraph} {cycles : List DetectorCycle}
    (evaluated : m.evaluated settings outside = some (graph, cycles)) :
    (∃ attempt ∈ outside.attempts, settings.source.build attempt = .ok graph) ∧
      detectorCycles settings outside graph (some (m.detectionHistory settings graph)) = .ok cycles := by
  unfold Monitor.evaluated at evaluated
  split at evaluated
  · cases evaluated
  next attempt built found =>
    obtain ⟨member, builds⟩ := firstBuilt_some found
    split at evaluated
    · cases evaluated
    next detected =>
      cases evaluated
      exact ⟨⟨attempt, member, builds⟩, detected⟩

variable {settings : CycleSettings} {findingId : String} {id : ChannelId}

def Holds (findingId : String) (id : ChannelId) (m : Monitor MemoryStorage) : Prop :=
  m.world.storage.transactionSnapshot = none ∧ m.world.storage.HoldsActive findingId id

theorem next_holds (live : settings.source.lndRest.isSome = true) (m : Monitor MemoryStorage) (outside : CycleOutside)
    (holds : m.Holds findingId id) (unknown : m.SeesUnknown settings outside) :
    (m.next settings outside).Holds findingId id := by
  have effect := next_memory m outside live
  unfold SeesUnknown at unknown
  cases evaluated : m.evaluated settings outside with
  | none =>
    rw [evaluated] at effect
    obtain ⟨operationalState, same⟩ := effect
    unfold Holds
    rw [same]
    exact holds
  | some result =>
    obtain ⟨graph, cycles⟩ := result
    rw [evaluated] at effect
    obtain ⟨start, ⟨operationalState, same⟩, ended⟩ := effect
    have detected := (evaluated_some evaluated).2
    have incomplete := (scopes_incomplete detected).2 (unknown graph cycles evaluated)
    unfold Holds
    rw [ended]
    have idle : start.storage.transactionSnapshot = none := by
      rw [same]
      exact holds.1
    have active : start.storage.HoldsActive findingId id := by
      rw [same]
      exact holds.2
    exact persist_holdsActive ⟨outside.llm, settings.source.node,
      cycleSnapshots settings.env.ext settings.source.network graph, cycles.map (·.scope),
      bySeverity (cycles.flatMap (·.findings))⟩ idle active (by simpa using incomplete)

theorem keepsOverlooked_iff (live : settings.source.lndRest.isSome = true) {m : Monitor MemoryStorage}
    {outside : CycleOutside} (holds : m.Holds findingId id)
    (overlooked : ∀ attempt ∈ outside.attempts, attempt.Overlooks settings.source id) :
    KeepsOverlooked settings findingId id m outside ↔ m.SeesUnknown settings outside := by
  constructor
  · intro keeps graph cycles evaluated
    exact (scopes_incomplete (evaluated_some evaluated).2).1.mp (keeps.incomplete graph cycles evaluated)
  · intro unknown
    refine ⟨fun graph cycles evaluated => ?_, fun graph cycles evaluated => ?_,
      (next_holds live m outside holds unknown).2⟩
    · obtain ⟨⟨attempt, member, built⟩, -⟩ := evaluated_some evaluated
      exact overlooked_unobserved live (overlooked attempt member) built
    · exact (scopes_incomplete (evaluated_some evaluated).2).1.mpr (unknown graph cycles evaluated)

/-- Over any run of live cycles that list a channel and cannot normalize it, a finding about it stays active and no
    cycle claims to be complete for liquidity and drift, exactly where the other channels of each graph include one
    that cannot be judged. -/
theorem overlooked_kept_iff (settings : CycleSettings) (live : settings.source.lndRest.isSome = true)
    (m : Monitor MemoryStorage) (finding : Finding) (id : ChannelId) (idle : m.world.storage.transactionSnapshot = none)
    (stored : m.world.storage.stored finding.id = some finding) (active : finding.lifecycle = .active)
    (about : finding.channel = some id) (cycles : List CycleOutside)
    (overlooked : ∀ outside ∈ cycles, ∀ attempt ∈ outside.attempts, attempt.Overlooks settings.source id) :
    EachStep (next settings) (KeepsOverlooked settings finding.id id) m cycles ↔
      EachStep (next settings) (SeesUnknown settings) m cycles := by
  have start : m.Holds finding.id id := ⟨idle, finding, stored, active, about⟩
  clear idle stored active about
  induction cycles generalizing m with
  | nil => exact Iff.rfl
  | cons outside later ih =>
    have here := keepsOverlooked_iff live start (overlooked outside List.mem_cons_self)
    have rest (unknown : m.SeesUnknown settings outside) := ih (m.next settings outside)
      (fun other member => overlooked other (List.mem_cons_of_mem _ member)) (next_holds live m outside start unknown)
    constructor
    · rintro ⟨keeps, after⟩
      have unknown := here.mp keeps
      exact ⟨unknown, (rest unknown).mp after⟩
    · rintro ⟨unknown, after⟩
      exact ⟨here.mpr unknown, (rest unknown).mpr after⟩

section Runs

def mainnetNode : CycleSettings where
  env := ⟨⟨fun _ => "digest", fun _ => "null", fun _ => "instant", fun _ => "instant"⟩, fun _ => 5, fun _ => "id"⟩
  source := { network := .mainnet, lndRest := some "https://localhost:8080", node := "node" }
  normalizerVersion := "1"

def findingOnChannel : Finding :=
  { Finding.bare "finding" "channel_liquidity" 3 with
    node := some "node"
    channel := some "txx0"
    provenance := some ⟨some .mainnet, .lnd "digest" "node", [], .channelState "txx0" ⟨some .mainnet, 3, "digest"⟩⟩ }

def monitorWithFinding : Monitor MemoryStorage := start ⟨{ findings := [findingOnChannel] }, 0, 0⟩

def listingOf (channels : List LndChannel) : CycleOutside where
  attempts :=
    [{ getInfo := .ok "node"
       rawChannels := .ok (⟨"tx:0", "peer", 100, -1, 0, "0", none, none, false, false, none, none⟩ :: channels)
       observedAt := 5
       modifiedAt := 5 }]
  provenance := { observedAt := 5, modifiedAt := 5 }
  clocks := ⟨fun _ => 5, fun _ => 5, fun _ => 5⟩

theorem listingOf_overlooks (channels : List LndChannel)
    (others : ∀ lnd ∈ channels, Normalizer.canonicalId lnd.channelPoint ≠ "txx0") :
    ∀ attempt ∈ (listingOf channels).attempts, attempt.Overlooks mainnetNode.source "txx0" := by
  intro attempt member raw listed
  rw [List.mem_singleton.mp member] at listed ⊢
  cases listed
  refine ⟨⟨_, List.mem_cons_self, by decide⟩, fun lnd also named => ?_⟩
  rcases List.mem_cons.mp also with rfl | other
  · exact ⟨.negativeBalance "txx0", by rfl⟩
  · exact absurd named (others lnd other)

/-- A second channel without capacity keeps the scopes of three cycles open, and the finding active. -/
theorem overlooked_kept_beside_unknown :
    let listing := listingOf [⟨"ty:0", "other", 0, 0, 0, "0", none, none, false, false, none, none⟩]
    EachStep (next mainnetNode) (KeepsOverlooked mainnetNode "finding" "txx0") monitorWithFinding
        [listing, listing, listing] ∧
      ((run (next mainnetNode) monitorWithFinding [listing, listing, listing]).world.storage.stored "finding").map
        (·.lifecycle) = some .active := by
  intro listing
  have overlooked : ∀ outside ∈ [listing, listing, listing], ∀ attempt ∈ outside.attempts,
      attempt.Overlooks mainnetNode.source "txx0" := by
    simpa using listingOf_overlooks _ (by decide)
  have unknown (m : Monitor MemoryStorage) : m.SeesUnknown mainnetNode listing := by
    intro graph cycles evaluated
    obtain ⟨⟨attempt, member, built⟩, -⟩ := evaluated_some evaluated
    rw [List.mem_singleton.mp member] at built
    cases built
    exact ⟨_, List.mem_cons_self, by decide⟩
  have kept := overlooked_kept_iff mainnetNode rfl monitorWithFinding findingOnChannel "txx0" rfl (by rfl) rfl rfl _
    overlooked
  exact ⟨kept.mpr ⟨unknown _, unknown _, unknown _, trivial⟩, by decide +kernel⟩

/-- Three listings of nothing but the malformed channel resolve the finding about it. -/
theorem overlooked_channel_resolves :
    (∀ attempt ∈ (listingOf []).attempts, attempt.Overlooks mainnetNode.source "txx0") ∧
      (monitorWithFinding.world.storage.stored "finding").map (·.lifecycle) = some .active ∧
      ((run (next mainnetNode) monitorWithFinding [listingOf [], listingOf [], listingOf []]).world.storage.stored
        "finding").map (·.lifecycle) = some .resolved := by
  refine ⟨listingOf_overlooks [] (by simp), rfl, ?_⟩
  decide +kernel

end Runs

end Monitor

end Rieko
