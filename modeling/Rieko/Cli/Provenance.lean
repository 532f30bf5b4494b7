import Rieko.Cli.Completeness
import Rieko.Cli.SqliteCycle

namespace Rieko

open StatefulResult CycleM

def Tables.referenced (tables : Tables) (finding : Finding) : Option (ChannelSnapshotReference × ChannelSnapshot) := do
  let provenance ← finding.provenance
  let network ← provenance.network
  let node ← finding.node
  let channel ← finding.channel
  let newest ← provenance.observation.newest
  let row ← tables.snapshotAt network node channel newest.observedAt
  return (newest, row)

/-- The finding can be looked up again, with the digest that it records. -/
def Tables.Resolves (tables : Tables) (finding : Finding) : Prop :=
  (tables.referenced finding).any (fun (newest, row) => row.stateDigest = some newest.stateDigest) = true

instance (tables : Tables) (finding : Finding) : Decidable (tables.Resolves finding) :=
  inferInstanceAs (Decidable (_ = true))

/-- A snapshot of the channel is stored for the node of the command at that time, with that digest. -/
def Tables.HoldsObservation (tables : Tables) (source : GraphSource) (channel : Channel) (observedAt : DateTime)
    (digest : String) : Prop :=
  ∃ row, tables.snapshotAt source.network source.node channel.id observedAt = some row ∧ row.stateDigest = some digest

/-- What a cycle relies on to find the observations of a channel again: that the channel belongs to the node of the
    command, or that an earlier cycle has stored the observation. -/
structure Channel.Referable (settings : CycleSettings) (before : Tables) (history : Option InMemoryHistory)
    (channel : Channel) : Prop where
  drained : channel.status.isOpen = true → LiquidityDetector.direction channel.liquidity ≠ none →
    channel.node = settings.source.node ∨ before.HoldsObservation settings.source channel channel.lastSeen
      (channelSnapshotStateDigest settings.env.ext (.fromChannel channel channel.lastSeen settings.source.network))
  draining : ∀ held, history = some held → ∀ start,
    DriftDetector.Draining (held.recentChannelSnapshots channel.id 12) channel start →
      ∀ newest, latestBy (·.ts) (held.recentChannelSnapshots channel.id 12) = some newest →
        if channel.node = settings.source.node ∧ channel.lastSeen = newest.ts then
          channelSnapshotStateDigest settings.env.ext newest = channelSnapshotStateDigest settings.env.ext
            (.fromChannel channel channel.lastSeen settings.source.network)
        else before.HoldsObservation settings.source channel newest.ts
          (channelSnapshotStateDigest settings.env.ext newest)

section Findings

variable {tables : Tables} {ext : External} {ctx : DetectorContext} {channel : Channel} {localNode : NodeId}
  {now : DateTime} {source : ObservationSource}

theorem resolves_iff {finding : Finding} {provenance : FindingProvenance} {network : BitcoinNetwork} {node : String}
    (refers : finding.provenance = some provenance) (on : provenance.network = some network)
    (at_ : finding.node = some node) (about : finding.channel = some channel.id) :
    tables.Resolves finding ↔ ∃ newest, provenance.observation.newest = some newest ∧
      ∃ row, tables.snapshotAt network node channel.id newest.observedAt = some row ∧
        row.stateDigest = some newest.stateDigest := by
  unfold Tables.Resolves Tables.referenced
  rw [refers, at_, about]
  cases last : provenance.observation.newest with
  | none => simp [on, last]
  | some newest => cases found : tables.snapshotAt network node channel.id newest.observedAt <;> simp [on, last, found]

theorem resolves_liquidity {drained : String} (known : ctx.source = some source) :
    tables.Resolves (({ localNode } : LiquidityDetector).finding ext ctx channel drained now) ↔
      ∃ row, tables.snapshotAt ctx.network localNode channel.id channel.lastSeen = some row ∧
        row.stateDigest =
          some (channelSnapshotStateDigest ext (.fromChannel channel channel.lastSeen ctx.network)) := by
  have refers : LiquidityDetector.provenance ext channel ctx =
      some ⟨some ctx.network, source, provenanceProducers ctx.normalizer LiquidityDetector.id LiquidityDetector.version,
        .channelState channel.id ⟨some ctx.network, channel.lastSeen,
          channelSnapshotStateDigest ext (.fromChannel channel channel.lastSeen ctx.network)⟩⟩ := by
    unfold LiquidityDetector.provenance
    rw [known]
    rfl
  rw [resolves_iff refers rfl rfl rfl]
  simp [ObservationReference.newest]

theorem resolves_drift {snaps : List ChannelSnapshot} {start decline : Binary64} (known : ctx.source = some source) :
    tables.Resolves (({ localNode } : DriftDetector).finding ext ctx channel snaps start decline now) ↔
      ∃ newest, latestBy (·.ts) snaps = some newest ∧
        ∃ row, tables.snapshotAt ctx.network localNode channel.id newest.ts = some row ∧
          row.stateDigest = some (channelSnapshotStateDigest ext newest) := by
  let reference (snapshot : ChannelSnapshot) : ChannelSnapshotReference :=
    ⟨snapshot.network, snapshot.ts, channelSnapshotStateDigest ext snapshot⟩
  have newest : (ObservationReference.channelWindow channel.id (snaps.reverse.map reference)).newest =
      (latestBy (·.ts) snaps).map reference := by
    show latestBy (·.observedAt) (snaps.reverse.map reference).reverse = _
    rw [← List.map_reverse, List.reverse_reverse]
    exact latestBy_map reference _ snaps
  have refers : DriftDetector.provenance ext channel snaps ctx =
      some ⟨some ctx.network, source, provenanceProducers ctx.normalizer DriftDetector.id DriftDetector.version,
        .channelWindow channel.id (snaps.reverse.map reference)⟩ := by
    unfold DriftDetector.provenance
    rw [known]
    rfl
  rw [resolves_iff refers rfl rfl rfl, newest]
  simp [reference]

variable {clock : Nat → DateTime} {view : GraphView}

theorem drift_channel {finding : Finding}
    (reported : finding ∈ ({ localNode } : DriftDetector).run ext clock view ctx) :
    finding.channel.isSome = true := by
  cases remembered : ctx.history with
  | none =>
    unfold DriftDetector.run at reported
    rw [remembered] at reported
    cases reported
  | some history =>
    obtain ⟨channel, -, start, -, now, rfl⟩ := DriftDetector.mem_run remembered reported
    rfl

theorem liquidity_resolve_iff (known : ctx.source = some source) :
    (∀ finding ∈ ({ localNode } : LiquidityDetector).run ext clock view ctx, tables.Resolves finding) ↔
      ∀ channel ∈ view.channels, channel.status.isOpen = true → LiquidityDetector.direction channel.liquidity ≠ none →
        ∃ row, tables.snapshotAt ctx.network localNode channel.id channel.lastSeen = some row ∧
          row.stateDigest =
            some (channelSnapshotStateDigest ext (.fromChannel channel channel.lastSeen ctx.network)) := by
  constructor
  · intro resolves channel listed isOpen drained
    obtain ⟨side, judged⟩ := Option.ne_none_iff_exists'.mp drained
    obtain ⟨now, reported⟩ := LiquidityDetector.run_mem listed isOpen judged
    exact (resolves_liquidity known).mp (resolves _ reported)
  · intro held finding reported
    obtain ⟨channel, listed, isOpen, side, judged, now, rfl⟩ := LiquidityDetector.mem_run reported
    exact (resolves_liquidity known).mpr (held channel listed isOpen (by simp [judged]))

theorem drift_resolve_iff {history : Option InMemoryHistory} (known : ctx.source = some source)
    (remembered : ctx.history = history.map InMemoryHistory.view) :
    (∀ finding ∈ ({ localNode } : DriftDetector).run ext clock view ctx, tables.Resolves finding) ↔
      ∀ channel ∈ view.channels, ∀ held, history = some held → ∀ start,
        DriftDetector.Draining (held.recentChannelSnapshots channel.id 12) channel start →
          ∀ newest, latestBy (·.ts) (held.recentChannelSnapshots channel.id 12) = some newest →
            ∃ row, tables.snapshotAt ctx.network localNode channel.id newest.ts = some row ∧
              row.stateDigest = some (channelSnapshotStateDigest ext newest) := by
  cases history with
  | none =>
    unfold DriftDetector.run
    simp [remembered]
  | some held =>
    constructor
    · rintro resolves channel listed _ ⟨⟩ start draining newest last
      obtain ⟨now, reported⟩ := DriftDetector.run_mem remembered listed draining
      obtain ⟨also, last', row⟩ := (resolves_drift known).mp (resolves _ reported)
      cases last.symm.trans last'
      exact row
    · intro rows finding reported
      obtain ⟨channel, listed, start, draining, now, rfl⟩ := DriftDetector.mem_run remembered reported
      have filled : latestBy (·.ts) (held.recentChannelSnapshots channel.id 12) ≠ none := by
        intro none
        have empty := congrArg List.length (latestBy_eq_none.mp none)
        have enough := draining.enough
        change (held.recentChannelSnapshots channel.id 12).length = 0 at empty
        change 4 ≤ (held.recentChannelSnapshots channel.id 12).length at enough
        omega
      obtain ⟨newest, last⟩ := Option.ne_none_iff_exists'.mp filled
      exact (resolves_drift known).mpr ⟨newest, last, rows channel listed held rfl start draining newest last⟩

end Findings

theorem GraphSource.build_keyed {source : GraphSource} {outside : Outside} {graph : InMemoryGraph}
    (built : source.build outside = .ok graph) : graph.Keyed := by
  have upserted (channels : List Channel) : (InMemoryGraph.new.upsertChannels channels).1.Keyed :=
    InMemoryGraph.Keyed.new.upsertChannels channels
  unfold build at built
  split at built
  · unfold buildLive at built
    cases connected : outside.client with
    | error e => rw [connected] at built; cases built
    | ok _ =>
      cases listed : outside.rawChannels with
      | error e => rw [connected, listed] at built; cases built
      | ok raw =>
        rw [connected, listed] at built
        cases built
        exact upserted _
  · split at built
    · cases built
    · cases loaded : loadFixture source.node outside with
      | error e => rw [loaded] at built; cases built
      | ok channels =>
        rw [loaded] at built
        cases built
        exact upserted _
  · cases built

section Committed

variable {settings : CycleSettings} {outside : CycleOutside} {graph : InMemoryGraph} {history : Option InMemoryHistory}
  {cycles : List DetectorCycle} {w w' : World SqliteStorage}

theorem detectAndPersist_ok {u : Unit} (detected : detectorCycles settings outside graph history = .ok cycles)
    (ran : detectAndPersist settings outside graph history w = .ok u w') :
    ∃ recommendations, persistDetected settings outside.llm graph cycles w = .ok recommendations w' := by
  unfold detectAndPersist at ran
  rw [detected] at ran
  change EStateM.map _ (persistDetected settings outside.llm graph cycles) w = _ at ran
  unfold EStateM.map at ran
  split at ran
  next recommendations m persisted =>
    cases ran
    exact ⟨recommendations, persisted⟩
  · cases ran

theorem snapshotAt_committed {recommendations : List Recommendation} {node : String} {observedAt : DateTime}
    (keyed : graph.Keyed) (ran : persistDetected settings outside.llm graph cycles w = .ok recommendations w')
    {channel : Channel} (stored : channel ∈ graph.storedChannels) :
    w'.storage.conn.tables.snapshotAt settings.source.network node channel.id observedAt =
      if channel.node = node ∧ channel.lastSeen = observedAt then
        let snapshot := ChannelSnapshot.fromChannel channel channel.lastSeen settings.source.network
        some { snapshot with stateDigest := some (channelSnapshotStateDigest settings.env.ext snapshot) }
      else w.storage.conn.tables.snapshotAt settings.source.network node channel.id observedAt := by
  rw [Tables.snapshotAt_congr (persistCycle_snapshots ran)]
  have ids : (cycleSnapshots settings.env.ext settings.source.network graph).map (·.channelId) =
      graph.storedChannels.map (·.id) := by
    unfold cycleSnapshots
    rw [List.map_map]
    rfl
  have distinct : ((cycleSnapshots settings.env.ext settings.source.network graph).map (·.channelId)).Nodup :=
    ids ▸ keyed.distinct
  refine (Tables.snapshotAt_replaces distinct (List.mem_map_of_mem stored) w.storage.conn.tables).trans ?_
  simp [ChannelSnapshot.fromChannel]

theorem detectorCycles_findings (detected : detectorCycles settings outside graph history = .ok cycles) :
    ∃ source, ∀ finding, (∃ cycle ∈ cycles, finding ∈ cycle.findings) ↔
      finding ∈ ({ localNode := settings.source.node } : LiquidityDetector).run settings.env.ext outside.clocks.liquidity
          graph.view (cycleContext settings source history) ∨
        finding ∈ ({ localNode := settings.source.node } : DriftDetector).run settings.env.ext outside.clocks.drift
          graph.view (cycleContext settings source history) := by
  obtain ⟨source, liquidity, drift, settlement, rfl, first, second, third⟩ := detectorCycles_ok detected
  obtain ⟨_, -, liquidityFindings, -⟩ := Detector.evaluate_ok first
  obtain ⟨_, -, driftFindings, -⟩ := Detector.evaluate_ok second
  obtain ⟨_, -, settlementFindings, -⟩ := Detector.evaluate_ok third
  have none : settlement.findings = [] := settlementFindings
  refine ⟨source, fun finding => ?_⟩
  simp only [List.mem_cons, List.not_mem_nil, or_false, exists_eq_or_imp, exists_eq_left, none]
  rw [liquidityFindings, driftFindings]
  rfl

theorem observation_committed {recommendations : List Recommendation} {observedAt : DateTime} {digest : String}
    (keyed : graph.Keyed) (ran : persistDetected settings outside.llm graph cycles w = .ok recommendations w')
    {channel : Channel} (stored : channel ∈ graph.storedChannels) :
    (∃ row, w'.storage.conn.tables.snapshotAt settings.source.network settings.source.node channel.id observedAt =
        some row ∧ row.stateDigest = some digest) ↔
      if channel.node = settings.source.node ∧ channel.lastSeen = observedAt then
        digest = channelSnapshotStateDigest settings.env.ext
          (.fromChannel channel channel.lastSeen settings.source.network)
      else w.storage.conn.tables.HoldsObservation settings.source channel observedAt digest := by
  rw [snapshotAt_committed keyed ran stored]
  split
  · simp [eq_comm]
  · rfl

/-- Every finding that a scan or monitor cycle commits can be looked up again exactly where each channel of its graph
    is referable before. -/
theorem committed_findings_resolve_iff (built : ∃ attempt, settings.source.build attempt = .ok graph)
    (detected : detectorCycles settings outside graph history = .ok cycles)
    (committed : detectAndPersist settings outside graph history w = .ok () w') :
    (∀ cycle ∈ cycles, ∀ finding ∈ cycle.findings, finding.channel.isSome = true →
        w'.storage.conn.tables.Resolves finding) ↔
      ∀ channel ∈ graph.storedChannels, channel.Referable settings w.storage.conn.tables history := by
  obtain ⟨attempt, built⟩ := built
  have keyed := GraphSource.build_keyed built
  obtain ⟨recommendations, persisted⟩ := detectAndPersist_ok detected committed
  obtain ⟨source, found⟩ := detectorCycles_findings detected
  have known : (cycleContext settings source history).source = some source := rfl
  have all : (∀ cycle ∈ cycles, ∀ finding ∈ cycle.findings, finding.channel.isSome = true →
      w'.storage.conn.tables.Resolves finding) ↔
        (∀ finding ∈ ({ localNode := settings.source.node } : LiquidityDetector).run settings.env.ext
          outside.clocks.liquidity graph.view (cycleContext settings source history),
            w'.storage.conn.tables.Resolves finding) ∧
        ∀ finding ∈ ({ localNode := settings.source.node } : DriftDetector).run settings.env.ext
          outside.clocks.drift graph.view (cycleContext settings source history),
            w'.storage.conn.tables.Resolves finding := by
    constructor
    · intro resolves
      refine ⟨fun finding reported => ?_, fun finding reported => ?_⟩
      · obtain ⟨cycle, member, inside⟩ := (found finding).mpr (.inl reported)
        obtain ⟨channel, -, -, side, -, now, rfl⟩ := LiquidityDetector.mem_run reported
        exact resolves cycle member _ inside rfl
      · obtain ⟨cycle, member, inside⟩ := (found finding).mpr (.inr reported)
        exact resolves cycle member finding inside (drift_channel reported)
    · rintro ⟨drained, draining⟩ cycle member finding inside -
      rcases (found finding).mp ⟨cycle, member, inside⟩ with reported | reported
      · exact drained finding reported
      · exact draining finding reported
  rw [all, liquidity_resolve_iff known, drift_resolve_iff known rfl]
  constructor
  · rintro ⟨drained, draining⟩ channel stored
    refine ⟨fun isOpen side => ?_, fun held remembered start judged newest last => ?_⟩
    · have row := (observation_committed keyed persisted stored).mp (drained channel stored isOpen side)
      split at row
      next own => exact .inl own.1
      · exact .inr row
    · exact (observation_committed keyed persisted stored).mp
        (draining channel stored held remembered start judged newest last)
  · intro referable
    refine ⟨fun channel stored isOpen side => (observation_committed keyed persisted stored).mpr ?_,
      fun channel stored held remembered start judged newest last => (observation_committed keyed persisted stored).mpr
        ((referable channel stored).draining held remembered start judged newest last)⟩
    split
    · rfl
    next other =>
      rcases (referable channel stored).drained isOpen side with own | earlier
      · exact absurd ⟨own, rfl⟩ other
      · exact earlier

end Committed

section Commands

variable {settings : CycleSettings} {outside : CycleOutside} {w w' : World SqliteStorage}

def SameSnapshots (w w' : World SqliteStorage) : Prop :=
  w'.storage.conn.tables.channelSnapshots = w.storage.conn.tables.channelSnapshots

theorem operational_snapshots {f : OperationalState → OperationalState} {u : Unit}
    (ran : operational (Storage.updateOperationalState f) w = .ok u w') : SameSnapshots w w' := by
  obtain ⟨s, updated, rfl⟩ := lift_ok.mp ran
  unfold SameSnapshots
  rw [(SqliteStorage.updateOperationalState_ok updated).1]
  rfl

theorem recorded_snapshots {env : CycleEnv} {f : DateTime → OperationalState → OperationalState} {u : Unit}
    (ran : (now env >>= fun now => operational (Storage.updateOperationalState (f now))) w = .ok u w') :
    SameSnapshots w w' := by
  obtain ⟨at_, m, read, ran⟩ := bind_ok.mp ran
  obtain ⟨rfl, rfl⟩ := now_ok.mp read
  have kept : SameSnapshots { w with ticks := w.ticks + 1 } w' := operational_snapshots ran
  exact kept

theorem ingestWithRetry_sqlite {attempts : List Outside} {graph : InMemoryGraph}
    (ran : ingestWithRetry settings attempts w = .ok (some graph) w') :
    (∃ attempt ∈ attempts, settings.source.build attempt = .ok graph) ∧ SameSnapshots w w' := by
  induction attempts generalizing w with
  | nil => cases ran
  | cons attempt later ih =>
    obtain ⟨_, m, attempted, ran⟩ := bind_ok.mp ran
    have first : SameSnapshots w m := recorded_snapshots attempted
    cases built : settings.source.build attempt with
    | ok other =>
      rw [built] at ran
      obtain ⟨_, m', succeeded, last⟩ := bind_ok.mp ran
      cases last
      have second : SameSnapshots m w' := recorded_snapshots succeeded
      exact ⟨⟨attempt, List.mem_cons_self, built⟩, second.trans first⟩
    | error e =>
      rw [built] at ran
      obtain ⟨_, m', failed, rest⟩ := bind_ok.mp ran
      have second : SameSnapshots m m' := operational_snapshots (mapError_ok.mp failed)
      split at rest
      · obtain ⟨_, m'', thrown, -⟩ := bind_ok.mp rest
        cases thrown
      · obtain ⟨⟨found, member, builds⟩, third⟩ := ih rest
        exact ⟨⟨found, List.mem_cons_of_mem _ member, builds⟩, (third.trans second).trans first⟩

theorem warmHistory_snapshots {channels : List Channel} {history history' : InMemoryHistory}
    (ran : warmHistory settings channels history w = .ok history' w') : SameSnapshots w w' := by
  induction channels generalizing history w with
  | nil =>
    cases ran
    rfl
  | cons channel rest ih =>
    obtain ⟨persisted, m, read, ran⟩ := bind_ok.mp ran
    have asked : m = final (storage (SnapshotQueries.recentChannelSnapshotsForNetwork settings.source.network
        (some settings.source.node) channel.id 200)) w := by
      unfold attempt at read
      unfold final
      split at read <;> cases read <;> rfl
    have kept : SameSnapshots w m := by
      unfold SameSnapshots
      rw [asked, final_storage]
      show (final (SqliteStorage.recentChannelSnapshotsForNetwork _ _ _ _) w.storage).conn.tables.channelSnapshots = _
      unfold final SqliteStorage.recentChannelSnapshotsForNetwork SqliteStorage.sql SqlConnection.query
        SqlConnection.statement
      cases w.storage.conn.fails w.storage.conn.executed <;> rfl
    exact (ih ran).trans kept

theorem monitorCycle_commits {first : Bool} {history history' : InMemoryHistory}
    (ran : monitorCycle settings outside first history w = .ok history' w') :
    (∃ m, ingestWithRetry settings outside.attempts w = .ok none m) ∨
      ∃ graph m, (∃ attempt ∈ outside.attempts, settings.source.build attempt = .ok graph) ∧ SameSnapshots w m ∧
        detectAndPersist settings outside graph (some history') m = .ok () w' := by
  obtain ⟨found, m, ingested, ran⟩ := bind_ok.mp ran
  cases found with
  | none => exact .inl ⟨m, ingested⟩
  | some graph =>
    obtain ⟨built, kept⟩ := ingestWithRetry_sqlite ingested
    obtain ⟨_, m₁, recorded, ran⟩ := bind_ok.mp ran
    have kept₁ : SameSnapshots m m₁ := recorded_snapshots recorded
    split at ran
    · obtain ⟨warm, m₂, warmed, ran⟩ := bind_ok.mp ran
      have kept₂ : SameSnapshots m₁ m₂ := warmHistory_snapshots warmed
      obtain ⟨_, m₃, detected, last⟩ := bind_ok.mp ran
      cases last
      exact .inr ⟨graph, m₂, built, (kept₂.trans kept₁).trans kept, detected⟩
    · obtain ⟨_, _, ⟨⟩, ran⟩ := bind_ok.mp ran
      obtain ⟨_, m₃, detected, last⟩ := bind_ok.mp ran
      cases last
      exact .inr ⟨graph, m₁, built, kept₁.trans kept, detected⟩

theorem scanCycle_commits {attempt : Outside} {u : Unit}
    (ran : scanCycle settings outside attempt w = .ok u w') :
    ∃ graph m, settings.source.build attempt = .ok graph ∧ SameSnapshots w m ∧
      detectAndPersist settings outside graph none m = .ok () w' := by
  obtain ⟨_, m, attempted, ran⟩ := bind_ok.mp ran
  have kept : SameSnapshots w m := recorded_snapshots attempted
  cases built : settings.source.build attempt with
  | error e =>
    rw [built] at ran
    obtain ⟨_, m', -, thrown⟩ := bind_ok.mp ran
    cases thrown
  | ok graph =>
    rw [built] at ran
    obtain ⟨_, m₁, succeeded, ran⟩ := bind_ok.mp ran
    obtain ⟨_, m₂, recorded, ran⟩ := bind_ok.mp ran
    have kept₁ : SameSnapshots m m₁ := recorded_snapshots succeeded
    have kept₂ : SameSnapshots m₁ m₂ := recorded_snapshots recorded
    exact ⟨graph, m₂, rfl, (kept₂.trans kept₁).trans kept, ran⟩

end Commands

section Runs

def regtestNode : CycleSettings where
  env := ⟨⟨fun _ => "digest", fun _ => "null", fun _ => "instant", fun _ => "instant"⟩, fun _ => 5, fun _ => "id"⟩
  source := { network := .regtest, lndRest := some "https://localhost:8080", node := "node" }
  normalizerVersion := "1"

def drainedNode (identity : String) : Outside where
  getInfo := .ok identity
  rawChannels := .ok [⟨"tx:0", "peer", 100, 1, 99, "0", none, none, false, false, none, none⟩]
  observedAt := 5
  modifiedAt := 5

def scanned (identity : String) : CycleOutside where
  attempts := [drainedNode identity]
  provenance := { observedAt := 5, modifiedAt := 5 }
  clocks := ⟨fun _ => 5, fun _ => 5, fun _ => 5⟩

def emptyDatabase : World SqliteStorage := ⟨⟨{ tables := {} }, false⟩, 0, 0⟩

def graphOf (identity : String) : InMemoryGraph :=
  (InMemoryGraph.new.upsertChannels (GraphSource.normalizedChannels identity 5
    [⟨"tx:0", "peer", 100, 1, 99, "0", none, none, false, false, none, none⟩])).1

theorem build_drained (identity : String) :
    regtestNode.source.build (drainedNode identity) = .ok (graphOf identity) := rfl

def databaseAfter (identity : String) : World SqliteStorage :=
  final (detectAndPersist regtestNode (scanned identity) (graphOf identity) none) emptyDatabase

/-- A scan of the node that `--node` names resolves what it finds. -/
theorem committed_findings_resolve_own : ∃ cycles,
    detectorCycles regtestNode (scanned "node") (graphOf "node") none = .ok cycles ∧
      (∃ cycle ∈ cycles, cycle.findings ≠ []) ∧
      ∀ cycle ∈ cycles, ∀ finding ∈ cycle.findings, finding.channel.isSome = true →
        (databaseAfter "node").storage.conn.tables.Resolves finding := by
  have found : (detectorCycles regtestNode (scanned "node") (graphOf "node") none).toOption.any (fun cycles =>
      cycles.any fun cycle => !cycle.findings.isEmpty) = true := by decide +kernel
  have succeeded :
      succeeds (detectAndPersist regtestNode (scanned "node") (graphOf "node") none) emptyDatabase = true := by
    decide +kernel
  have committed : detectAndPersist regtestNode (scanned "node") (graphOf "node") none emptyDatabase =
      .ok () (databaseAfter "node") := by
    unfold databaseAfter
    exact ok_of_succeeds succeeded
  cases detected : detectorCycles regtestNode (scanned "node") (graphOf "node") none with
  | error failure =>
    rw [detected] at found
    cases found
  | ok cycles =>
    rw [detected] at found
    refine ⟨cycles, rfl, ?_, (committed_findings_resolve_iff ⟨_, build_drained "node"⟩ detected
      committed).mpr ?_⟩
    · simpa [Except.toOption] using found
    · have own : ∀ channel ∈ (graphOf "node").storedChannels, channel.node = "node" := by decide
      exact fun channel stored => ⟨fun _ _ => .inl (own channel stored), fun _ none => by cases none⟩

/-- A scan of a live node of another identity than `--node` stores its snapshots under the one and looks for them
    under the other. -/
theorem other_identity_dangles :
    regtestNode.source.build (drainedNode "live") = .ok (graphOf "live") ∧
      succeeds (detectAndPersist regtestNode (scanned "live") (graphOf "live") none) emptyDatabase = true ∧
      ∃ cycles, detectorCycles regtestNode (scanned "live") (graphOf "live") none = .ok cycles ∧
        ∃ cycle ∈ cycles, ∃ finding ∈ cycle.findings, finding.channel.isSome = true ∧
          ¬(databaseAfter "live").storage.conn.tables.Resolves finding := by
  have found : (detectorCycles regtestNode (scanned "live") (graphOf "live") none).toOption.any (fun cycles =>
      cycles.any fun cycle => cycle.findings.any fun finding => finding.channel.isSome &&
        !decide ((databaseAfter "live").storage.conn.tables.Resolves finding)) = true := by decide +kernel
  refine ⟨build_drained "live", by decide +kernel, ?_⟩
  cases detected : detectorCycles regtestNode (scanned "live") (graphOf "live") none with
  | error failure =>
    rw [detected] at found
    cases found
  | ok cycles =>
    rw [detected] at found
    exact ⟨cycles, rfl, by simpa [Except.toOption] using found⟩

end Runs

end Rieko
