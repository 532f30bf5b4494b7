import Rieko.Cli.MemoryCycle
import Rieko.Cli.Polling
import Rieko.Detectors.RootCause
import Rieko.Storage.FindingHysteresis

namespace Rieko

open StatefulResult CycleM Hysteresis Transition

def DetectorError.toString : DetectorError → String
  | .missingNodeScope => "detector evaluation requires a node scope"
  | .invalidFinding detector findingId => s!"detector {detector} emitted finding {findingId} with inconsistent metadata"
  | .duplicateFinding detector findingId => s!"detector {detector} emitted duplicate finding {findingId}"

class OperationalStorage (σ : Type) extends Storage σ where
  readOperationalState : EStateM OperationalStateError σ (Option OperationalState)

instance : OperationalStorage MemoryStorage where
  readOperationalState := MemoryStorage.readOperationalState

def btcpayCoreCorrelationNode : String := "btcpay-greenfield"

def OperationalState.coreNetwork (state : OperationalState) : BitcoinNetwork :=
  ((state.bitcoinCore.bind (·.snapshot)).map (·.network)).getD .mainnet

section Programs

variable {σ : Type} [OperationalStorage σ]

def evaluatePersisted (env : CycleEnv) (symptom : Symptom) (network : OperationalState → BitcoinNetwork)
    (node : String) :
    CycleM σ Unit := do
  let state := (← operationalAsBackend (OperationalStorage.readOperationalState (σ := σ))).getD {}
  let answer := (symptom.detector env.ext state).evaluate env.ext ⟨[]⟩ { network := network state, node := some node }
  let cycle ← ofExcept (answer.mapError fun e => (⟨[], .storage (.backend e.toString)⟩ : CycleError))
  discard (persistOperationalDetectorCycle env cycle)

def evaluatePersistedBtcpayHealth (env : CycleEnv) (network : BitcoinNetwork) (node : String) : CycleM σ Unit :=
  evaluatePersisted env .btcPayUnreachable (fun _ => network) node

def evaluatePersistedBitcoinCoreSyncCorrelation (env : CycleEnv) : CycleM σ Unit :=
  evaluatePersisted env .coreUnsynchronized (·.coreNetwork) btcpayCoreCorrelationNode

def evaluatePersistedLightningChainSyncCorrelation (env : CycleEnv) : CycleM σ Unit :=
  evaluatePersisted env .lightningUnsynchronized (·.coreNetwork) btcpayCoreCorrelationNode

/-- What the pollers of the agent do under the lock of the storage. -/
inductive AgentCall where
  | record (update : PollUpdate)
  | evaluate (symptom : Symptom)
deriving DecidableEq, Repr

structure AgentScope where
  network : BitcoinNetwork
  node : String

def AgentCall.program (env : CycleEnv) (scope : AgentScope) : AgentCall → CycleM σ Unit
  | .record update => update.record env
  | .evaluate .btcPayUnreachable => evaluatePersistedBtcpayHealth env scope.network scope.node
  | .evaluate .coreUnsynchronized => evaluatePersistedBitcoinCoreSyncCorrelation env
  | .evaluate .lightningUnsynchronized => evaluatePersistedLightningChainSyncCorrelation env

end Programs

namespace Symptom

def node (scope : AgentScope) : Symptom → String
  | btcPayUnreachable => scope.node
  | coreUnsynchronized | lightningUnsynchronized => btcpayCoreCorrelationNode

def network (scope : AgentScope) : Symptom → OperationalState → BitcoinNetwork
  | btcPayUnreachable, _ => scope.network
  | coreUnsynchronized, state | lightningUnsynchronized, state => state.coreNetwork

def trackedId (env : CycleEnv) (scope : AgentScope) (symptom : Symptom) : String :=
  symptom.findingId env.ext (symptom.node scope)

end Symptom

theorem AgentCall.program_evaluate {σ : Type} [OperationalStorage σ] (env : CycleEnv) (scope : AgentScope)
    (symptom : Symptom) : AgentCall.program (σ := σ) env scope (.evaluate symptom) =
      evaluatePersisted env symptom (symptom.network scope) (symptom.node scope) := by
  cases symptom <;> rfl

namespace MemoryStorage

def operational (s : MemoryStorage) : OperationalState := s.operationalState.getD {}

def SameFindings (s s' : MemoryStorage) : Prop := s'.findings = s.findings ∧ s'.findingAbsent = s.findingAbsent

variable {s s' : MemoryStorage}

theorem SameFindings.tracked (same : SameFindings s s') (id : String) : s'.tracked id = s.tracked id := by
  unfold MemoryStorage.tracked stored absence
  rw [same.1, same.2]

theorem SameFindings.stored (same : SameFindings s s') (id : String) : s'.stored id = s.stored id := by
  unfold MemoryStorage.stored
  rw [same.1]

theorem SameFindings.absence (same : SameFindings s s') (id : String) : s'.absence id = s.absence id := by
  unfold MemoryStorage.absence
  rw [same.2]

theorem SameFindings.resolveScope (same : SameFindings s s') (scope : FindingCycleScope) :
    SameFindings (s.resolveScope scope) (s'.resolveScope scope) := by
  unfold SameFindings MemoryStorage.resolveScope
  rw [same.1, same.2]
  split
  · exact ⟨rfl, rfl⟩
  · exact same

theorem SameFindings.putFindings (same : SameFindings s s') (findings : List Finding) :
    SameFindings (s.putFindings findings) (s'.putFindings findings) := by
  induction findings generalizing s s' with
  | nil => exact same
  | cons finding findings ih =>
    refine ih ⟨?_, ?_⟩
    · show Rows.upsert _ _ _ s'.findings = _
      rw [same.1]
      rfl
    · show (if _ ∈ s'.findings.map Finding.id then _ else _) = _
      rw [same.1, same.2]
      rfl

theorem resolveScope_operational (scope : FindingCycleScope) :
    (s.resolveScope scope).operationalState = s.operationalState := by
  unfold resolveScope
  split <;> rfl

theorem putFindings_operational (findings : List Finding) :
    (s.putFindings findings).operationalState = s.operationalState := by
  induction findings generalizing s with
  | nil => rfl
  | cons finding findings ih => exact ih

end MemoryStorage

namespace CycleM

variable {w : World MemoryStorage} {env : CycleEnv}

theorem saveFindings_memory {findings : List Finding}
    (valid : ∀ finding ∈ findings, validateFindingSchema finding.schemaVersion = .ok ()) :
    findings.forM (fun finding => storage (Storage.saveFinding (σ := MemoryStorage) finding)) w =
      .ok () (w.withStorage (w.storage.putFindings findings)) := by
  induction findings generalizing w with
  | nil => rfl
  | cons finding findings ih =>
    obtain ⟨first, rest⟩ := List.forall_mem_cons.mp valid
    have saved : storage (Storage.saveFinding (σ := MemoryStorage) finding) w =
        .ok () (w.withStorage (w.storage.putFinding finding)) :=
      lift_ok.mpr ⟨_, MemoryStorage.saveFinding_ok.mpr ⟨first, rfl⟩, rfl⟩
    exact (bind_of_ok saved _).trans (ih rest)

structure CyclePersisted (cycle : DetectorCycle) (w w' : World MemoryStorage) : Prop where
  idle : w'.storage.transactionSnapshot = none
  findings : MemoryStorage.SameFindings ((w.storage.resolveScope cycle.scope).putFindings cycle.findings) w'.storage
  operational : ∃ completedAt, w'.storage.operational =
    { w.storage.operational with
      lastCycleAttempt := some completedAt
      lastCycleSuccess := some completedAt
      lastPersistSuccess := some completedAt }
  ticks : w'.ticks = w.ticks + 2

variable (env w) in
theorem persistDetectorCycle_memory {cycle : DetectorCycle}
    (valid : ∀ finding ∈ cycle.findings, validateFindingSchema finding.schemaVersion = .ok ()) :
    ∃ w', persistDetectorCycle env cycle w = .ok () w' ∧
      MemoryStorage.SameFindings ((w.storage.resolveScope cycle.scope).putFindings cycle.findings) w'.storage ∧
      w'.storage.operationalState = w.storage.operationalState ∧ w'.ticks = w.ticks + 1 := by
  have resolved : storage (Storage.resolveFindingsForScope (σ := MemoryStorage) cycle.scope) w =
      .ok () (w.withStorage (w.storage.resolveScope cycle.scope)) := rfl
  have synced (m : World MemoryStorage) : syncLifecycles env m =
      .ok () { m with storage := m.storage.syncLifecycles, ticks := m.ticks + 1 } := rfl
  unfold persistDetectorCycle
  rw [bind_of_ok resolved, bind_of_ok (synced _), saveFindings_memory valid]
  have same : MemoryStorage.SameFindings (w.storage.resolveScope cycle.scope)
      (w.storage.resolveScope cycle.scope).syncLifecycles := ⟨rfl, rfl⟩
  refine ⟨_, rfl, same.putFindings cycle.findings, ?_, rfl⟩
  exact (MemoryStorage.putFindings_operational _).trans (MemoryStorage.resolveScope_operational _)

variable (env) in
theorem persistOperationalDetectorCycle_memory (cycle : DetectorCycle) (idle : w.storage.transactionSnapshot = none)
    (valid : ∀ finding ∈ cycle.findings, validateFindingSchema finding.schemaVersion = .ok ()) :
    ∃ w', persistOperationalDetectorCycle env cycle w = .ok cycle.findings.length w' ∧ CyclePersisted cycle w w' := by
  have stays (saved : MemoryStorageState) :
      Preserves (fun w => InTransaction saved w.storage) (persistOperationalCycleInside env cycle) :=
    (MemoryStorage.writesKeep saved).persistOperationalCycleInside env cycle
  unfold persistOperationalDetectorCycle
  rw [transacted_memory idle stays]
  obtain ⟨m, persisted, findings, operational, ticks⟩ := persistDetectorCycle_memory w.begun env valid
  unfold persistOperationalCycleInside
  rw [bind_of_ok persisted]
  refine ⟨_, rfl, rfl, ?_, ⟨env.clock m.ticks, ?_⟩, congrArg (· + 1) ticks⟩
  · have begun : MemoryStorage.SameFindings w.storage w.begun.storage := ⟨rfl, rfl⟩
    have whole := (begun.resolveScope cycle.scope).putFindings cycle.findings
    exact ⟨findings.1.trans whole.1, findings.2.trans whole.2⟩
  · have same : w.storage.operational = m.storage.operational := congrArg (·.getD {}) operational.symm
    rw [same]
    rfl

theorem saveChannelSnapshots_memory (ext : External) (channels : List ChannelSnapshot) (w : World MemoryStorage) :
    ∃ channelSnapshots, channels.forM (fun channel => storage (Storage.saveChannelSnapshot (σ := MemoryStorage)
        { channel with stateDigest := some (channelSnapshotStateDigest ext channel) })) w =
      .ok () (w.withStorage { w.storage with channelSnapshots }) := by
  induction channels generalizing w with
  | nil => exact ⟨w.storage.channelSnapshots, rfl⟩
  | cons channel channels ih => exact ih _

structure UpdateRecorded (env : CycleEnv) (update : PollUpdate) (w w' : World MemoryStorage) : Prop where
  idle : w'.storage.transactionSnapshot = none
  findings : MemoryStorage.SameFindings w.storage w'.storage
  operational : w'.storage.operational = w.storage.operational.polled (update, env.clock w.ticks)
  ticks : w'.ticks = w.ticks + 1

variable (env) in
theorem record_memory (update : PollUpdate) (idle : w.storage.transactionSnapshot = none) :
    ∃ w', update.record env w = .ok () w' ∧ UpdateRecorded env update w w' := by
  cases update with
  | greenfieldSnapshot snapshot =>
    obtain ⟨channelSnapshots, saved⟩ := saveChannelSnapshots_memory env.ext snapshot.channels w.begun
    have inside : persistGreenfieldSnapshotInside env snapshot w.begun = .ok () _ := bind_of_ok saved _
    show ∃ w', persistGreenfieldSnapshot env snapshot w = .ok () w' ∧ _
    unfold persistGreenfieldSnapshot
    rw [bind_of_ok (begins idle), bind_of_ok (attempt_of_ok inside)]
    exact ⟨_, rfl, rfl, ⟨rfl, rfl⟩, rfl, rfl⟩
  | _ => exact ⟨_, rfl, idle, ⟨rfl, rfl⟩, rfl, rfl⟩

variable (env) in
theorem evaluatePersisted_memory (symptom : Symptom) (network : OperationalState → BitcoinNetwork) (node : String)
    (idle : w.storage.transactionSnapshot = none) :
    ∃ findings complete w', evaluatePersisted env symptom network node w = .ok () w' ∧
      symptom.Judged env.ext node w.storage.operational findings complete (symptom.verdict w.storage.operational) ∧
      CyclePersisted ⟨⟨symptom.detectorId, none, some node, complete⟩, findings⟩ w w' := by
  obtain ⟨findings, complete, judged, evaluated⟩ := symptom.evaluate_judges env.ext w.storage.operational ⟨[]⟩
    { network := network w.storage.operational, node := some node } rfl
  have valid : ∀ finding ∈ findings, validateFindingSchema finding.schemaVersion = .ok () := by
    cases said : symptom.verdict w.storage.operational with
    | raised =>
      rw [said] at judged
      obtain ⟨-, finding, rfl, reports⟩ := judged
      intro other member
      rw [List.mem_singleton.mp member, reports.schemaVersion]
      rfl
    | cleared | unknown =>
      rw [said] at judged
      rw [judged.2]
      exact fun _ member => by cases member
  obtain ⟨w', persisted, leaves⟩ := persistOperationalDetectorCycle_memory env
    ⟨⟨symptom.detectorId, none, some node, complete⟩, findings⟩ idle valid
  have read : operationalAsBackend (OperationalStorage.readOperationalState (σ := MemoryStorage)) w =
      .ok w.storage.operationalState w := rfl
  refine ⟨findings, complete, w', ?_, judged, leaves⟩
  have answered : (symptom.detector env.ext (w.storage.operationalState.getD {})).evaluate env.ext ⟨[]⟩
      { network := network (w.storage.operationalState.getD {}), node := some node } = .ok _ := evaluated
  unfold evaluatePersisted
  rw [bind_of_ok read, bind_of_ok (ofExcept_ok.mpr ⟨except_mapError_ok.mpr answered, rfl⟩)]
  show EStateM.map _ (persistOperationalDetectorCycle env _) w = _
  unfold EStateM.map
  rw [persisted]

end CycleM

section Runs

variable {env : CycleEnv} {scope : AgentScope} {w w' : World MemoryStorage}

def afterCall (env : CycleEnv) (scope : AgentScope) (w : World MemoryStorage) (call : AgentCall) :
    World MemoryStorage :=
  final (call.program env scope) w

def runCalls (env : CycleEnv) (scope : AgentScope) (w : World MemoryStorage) (calls : List AgentCall) :
    World MemoryStorage :=
  run (afterCall env scope) w calls

def verdicts (env : CycleEnv) (scope : AgentScope) (symptom : Symptom) :
    World MemoryStorage → List AgentCall → List Verdict
  | _, [] => []
  | w, call :: calls =>
    let later := verdicts env scope symptom (afterCall env scope w call) calls
    if call = .evaluate symptom then symptom.verdict w.storage.operational :: later else later

def MemoryStorage.phase (s : MemoryStorage) (id : String) : Option Phase := (s.tracked id).map Tracked.phase

structure Symptom.Origin (scope : AgentScope) (symptom : Symptom) (latest : DateTime) (finding : Finding) : Prop where
  detector : finding.detector = symptom.detectorId
  network : finding.network = none
  node : finding.node = some (symptom.node scope)
  seen : finding.lastSeenAt ≤ latest

structure Tracks (env : CycleEnv) (scope : AgentScope) (w : World MemoryStorage) : Prop where
  idle : w.storage.transactionSnapshot = none
  keyed : Rows.Keyed Finding.id w.storage.findings
  unused : ∀ id, w.storage.stored id = none → w.storage.absence id = 0
  observed : w.storage.operational.ObservedBy (env.clock w.ticks)
  origin : ∀ (symptom : Symptom) finding, w.storage.stored (symptom.trackedId env scope) = some finding →
    symptom.Origin scope (symptom.observedAt w.storage.operational) finding

theorem Tracks.new (env : CycleEnv) (scope : AgentScope) : Tracks env scope ⟨.new, 0, 0⟩ where
  idle := rfl
  keyed := List.nodup_nil
  unused _ _ := rfl
  observed := by
    have absent : Past (env.clock 0) none := fun _ found => nomatch found
    exact ⟨absent, absent, absent, absent⟩
  origin _ _ found := nomatch found

theorem Tracks.recorded {update : PollUpdate} (tracks : Tracks env scope w)
    (forward : ∀ ⦃i j⦄, i ≤ j → env.clock i ≤ env.clock j) (sinceEpoch : unixEpoch ≤ env.clock 0)
    (recorded : UpdateRecorded env update w w') :
    Tracks env scope w' ∧ ∀ id, w'.storage.phase id = w.storage.phase id := by
  have epoch : unixEpoch ≤ env.clock w.ticks := Int.le_trans sinceEpoch (forward (Nat.zero_le _))
  obtain ⟨observed, since⟩ := tracks.observed.polled epoch update
  rw [← recorded.operational] at observed since
  refine ⟨⟨recorded.idle, ?_, ?_, ?_, ?_⟩, ?_⟩
  · rw [recorded.findings.1]
    exact tracks.keyed
  · intro id missing
    rw [recorded.findings.stored] at missing
    rw [recorded.findings.absence]
    exact tracks.unused id missing
  · rw [recorded.ticks]
    exact observed.mono (forward (Nat.le_succ _))
  · intro symptom finding found
    rw [recorded.findings.stored] at found
    have origin := tracks.origin symptom finding found
    exact { origin with seen := Int.le_trans origin.seen (since.observedAt_le observed symptom) }
  · intro id
    unfold MemoryStorage.phase
    rw [recorded.findings.tracked]

section Evaluations

variable {s : MemoryStorage} {symptom other : Symptom} {state : OperationalState} {findings : List Finding}
  {complete : Bool}

theorem Symptom.Judged.saves {node id : String} {verdict : Verdict}
    (judged : symptom.Judged env.ext node state findings complete verdict)
    (apart : symptom.findingId env.ext node ≠ id) :
    ∀ finding ∈ findings, finding.id ≠ id := by
  cases verdict with
  | raised =>
    obtain ⟨-, finding, rfl, reports⟩ := judged
    exact List.forall_mem_singleton.mpr (reports.id ▸ apart)
  | cleared | unknown => exact judged.2 ▸ fun _ member => by cases member

theorem tracked_of_other (keyed : Rows.Keyed Finding.id s.findings)
    (origin : ∀ finding, s.stored (other.trackedId env scope) = some finding → finding.detector ≠ symptom.detectorId)
    (judged : symptom.Judged env.ext (symptom.node scope) state findings complete (symptom.verdict state))
    (apart : symptom.trackedId env scope ≠ other.trackedId env scope) :
    ((s.resolveScope ⟨symptom.detectorId, none, some (symptom.node scope), complete⟩).putFindings findings).tracked
      (other.trackedId env scope) = s.tracked (other.trackedId env scope) := by
  rw [MemoryStorage.tracked_putFindings_other (judged.saves apart), MemoryStorage.tracked_resolveScope keyed]
  split
  · unfold MemoryStorage.tracked
    cases found : s.stored (other.trackedId env scope) with
    | none => rfl
    | some finding =>
      have foreign := origin finding found
      simp [Tracked.resolve, FindingCycleScope.covers, foreign]
  · rfl

theorem origin_of_resolved {latest : DateTime} {id : String} {resolving : FindingCycleScope}
    (keyed : Rows.Keyed Finding.id s.findings)
    (origin : ∀ finding, s.stored id = some finding → other.Origin scope latest finding) {finding : Finding}
    (found : (s.resolveScope resolving).stored id = some finding) : other.Origin scope latest finding := by
  obtain ⟨before, lifecycle, stored, rfl⟩ := MemoryStorage.stored_resolveScope_some keyed found
  exact { origin before stored with }

theorem origin_of_saved {resolving : FindingCycleScope} (keyed : Rows.Keyed Finding.id s.findings)
    (distinct : ∀ a b : Symptom, a.trackedId env scope = b.trackedId env scope → a = b)
    (origin : ∀ (other : Symptom) finding, s.stored (other.trackedId env scope) = some finding →
      other.Origin scope (other.observedAt state) finding)
    (judged : symptom.Judged env.ext (symptom.node scope) state findings complete (symptom.verdict state))
    {finding : Finding}
    (found : ((s.resolveScope resolving).putFindings findings).stored (other.trackedId env scope) = some finding) :
    other.Origin scope (other.observedAt state) finding := by
  cases said : symptom.verdict state with
  | cleared | unknown =>
    rw [said] at judged
    rw [judged.2] at found
    exact origin_of_resolved keyed (origin other) found
  | raised =>
    rw [said] at judged
    obtain ⟨-, reported, rfl, reports⟩ := judged
    change ((s.resolveScope resolving).putFinding reported).stored (other.trackedId env scope) = some finding at found
    rw [MemoryStorage.stored_putFinding] at found
    split at found
    next same =>
      have own : symptom = other := distinct symptom other (reports.id.symm.trans same)
      subst own
      cases present : (s.resolveScope resolving).stored (symptom.trackedId env scope) with
      | none =>
        rw [present] at found
        cases found
        have unnamed : reported.network = none := by simp [Finding.network, reports.provenance]
        exact ⟨reports.detector, unnamed, reports.node, reports.lastSeenAt.le⟩
      | some existing =>
        have before := origin_of_resolved keyed (origin symptom) present
        have fresh : existing.lastSeenAt ≤ reported.lastSeenAt := reports.lastSeenAt ▸ before.seen
        obtain ⟨-, seen, provenance⟩ :=
          Finding.reobserve_fresh (earliestFirstSeen (s.resolveScope resolving).findings reported) fresh
        obtain ⟨detector, node⟩ :=
          existing.reobserve_origin reported (earliestFirstSeen (s.resolveScope resolving).findings reported)
        rw [present] at found
        cases found
        have unnamed : (existing.reobserve reported
            (earliestFirstSeen (s.resolveScope resolving).findings reported)).network = none := by
          rw [Finding.network, provenance, reports.provenance]
          rfl
        exact ⟨detector.trans before.detector, unnamed, node.trans before.node,
          (seen.trans reports.lastSeenAt).le⟩
    next => exact origin_of_resolved keyed (origin other) found

theorem phase_of_own (keyed : Rows.Keyed Finding.id s.findings) (unused : ∀ id, s.stored id = none → s.absence id = 0)
    (origin : ∀ finding, s.stored (symptom.trackedId env scope) = some finding →
      symptom.Origin scope (symptom.observedAt state) finding)
    (judged : symptom.Judged env.ext (symptom.node scope) state findings complete (symptom.verdict state)) :
    ((s.resolveScope ⟨symptom.detectorId, none, some (symptom.node scope), complete⟩).putFindings findings).phase
        (symptom.trackedId env scope) =
      (symptom.verdict state).next 3 (s.phase (symptom.trackedId env scope)) := by
  unfold MemoryStorage.phase
  cases said : symptom.verdict state with
  | raised =>
    rw [said] at judged
    obtain ⟨-, reported, rfl, reports⟩ := judged
    have named : reported.id = symptom.trackedId env scope := reports.id
    obtain ⟨tracked, saved, phase, -⟩ := @MemoryStorage.tracked_putFinding_fresh
      (s.resolveScope ⟨symptom.detectorId, none, some (symptom.node scope), complete⟩) reported
      (fun missing => by
        have absent := MemoryStorage.stored_resolveScope_none keyed missing
        rw [MemoryStorage.absence_resolveScope_none keyed absent, unused _ absent])
      (fun existing found => by
        rw [named] at found
        exact reports.lastSeenAt ▸ (origin_of_resolved keyed origin found).seen)
    rw [named] at saved
    show (MemoryStorage.tracked (MemoryStorage.putFinding _ reported) _).map Tracked.phase = _
    rw [saved, Option.map_some, phase]
    rfl
  | cleared =>
    rw [said] at judged
    obtain ⟨rfl, rfl⟩ := judged
    rw [MemoryStorage.putFindings, List.foldl_nil, MemoryStorage.tracked_resolveScope keyed, if_pos rfl, Option.map_map]
    unfold MemoryStorage.tracked Verdict.next
    cases found : s.stored (symptom.trackedId env scope) with
    | none => rfl
    | some finding =>
      obtain ⟨detector, network, node, -⟩ := origin finding found
      have covers : FindingCycleScope.covers ⟨symptom.detectorId, none, some (symptom.node scope), true⟩ finding =
          true := by
        simp [FindingCycleScope.covers, detector, network, node]
      simp [Tracked.phase_resolve, covers]
  | unknown =>
    rw [said] at judged
    obtain ⟨rfl, rfl⟩ := judged
    rw [MemoryStorage.putFindings, List.foldl_nil, MemoryStorage.tracked_resolveScope keyed, if_neg Bool.false_ne_true]
    rfl

theorem unused_of_saved {resolving : FindingCycleScope} (keyed : Rows.Keyed Finding.id s.findings)
    (unused : ∀ id, s.stored id = none → s.absence id = 0)
    (judged : symptom.Judged env.ext (symptom.node scope) state findings complete (symptom.verdict state)) (id : String)
    (missing : ((s.resolveScope resolving).putFindings findings).stored id = none) :
    ((s.resolveScope resolving).putFindings findings).absence id = 0 := by
  have others : ∀ finding ∈ findings, finding.id ≠ id := by
    cases said : symptom.verdict state with
    | raised =>
      rw [said] at judged
      obtain ⟨-, reported, rfl, -⟩ := judged
      refine List.forall_mem_singleton.mpr fun same => ?_
      change ((s.resolveScope resolving).putFinding reported).stored id = none at missing
      rw [MemoryStorage.stored_putFinding, if_pos same] at missing
      cases missing
    | cleared | unknown =>
      rw [said] at judged
      exact judged.2 ▸ fun _ member => by cases member
  obtain ⟨stored, absence⟩ := MemoryStorage.putFindings_other (s := s.resolveScope resolving) others
  rw [stored] at missing
  have absent := MemoryStorage.stored_resolveScope_none keyed missing
  rw [absence, MemoryStorage.absence_resolveScope_none keyed absent, unused id absent]

end Evaluations

/-- The digest tells the findings of the symptoms apart. -/
def Distinct (env : CycleEnv) (scope : AgentScope) : Prop :=
  ∀ a b : Symptom, a.trackedId env scope = b.trackedId env scope → a = b

theorem Tracks.evaluated {symptom : Symptom} {findings : List Finding} {complete : Bool} (tracks : Tracks env scope w)
    (forward : ∀ ⦃i j⦄, i ≤ j → env.clock i ≤ env.clock j) (distinct : Distinct env scope)
    (judged : symptom.Judged env.ext (symptom.node scope) w.storage.operational findings complete
      (symptom.verdict w.storage.operational))
    (persisted : CyclePersisted ⟨⟨symptom.detectorId, none, some (symptom.node scope), complete⟩, findings⟩ w w') :
    Tracks env scope w' ∧ ∀ other : Symptom, w'.storage.phase (other.trackedId env scope) =
      if symptom = other then (symptom.verdict w.storage.operational).next 3
        (w.storage.phase (other.trackedId env scope))
      else w.storage.phase (other.trackedId env scope) := by
  obtain ⟨completedAt, operational⟩ := persisted.operational
  have since : w.storage.operational.ObservedSince w'.storage.operational := by
    rw [operational]
    exact .of_same rfl rfl rfl rfl
  have observed : w'.storage.operational.ObservedBy (env.clock w'.ticks) := by
    rw [operational, persisted.ticks]
    have later := tracks.observed.mono (forward (Nat.le_add_right w.ticks 2))
    exact ⟨later.attempt, later.success, later.core, later.lightning⟩
  refine ⟨⟨persisted.idle, ?_, ?_, observed, ?_⟩, ?_⟩
  · rw [persisted.findings.1]
    exact MemoryStorage.keyed_putFindings (MemoryStorage.keyed_resolveScope tracks.keyed _)
  · intro id missing
    rw [persisted.findings.stored] at missing
    rw [persisted.findings.absence]
    exact unused_of_saved tracks.keyed tracks.unused judged id missing
  · intro other finding found
    rw [persisted.findings.stored] at found
    have origin := origin_of_saved tracks.keyed distinct tracks.origin judged found
    exact { origin with seen := Int.le_trans origin.seen (since.observedAt_le observed other) }
  · intro other
    have same : w'.storage.phase (other.trackedId env scope) = MemoryStorage.phase _ (other.trackedId env scope) :=
      congrArg (·.map Tracked.phase) (persisted.findings.tracked _)
    rw [same]
    by_cases own : symptom = other
    · subst own
      rw [if_pos rfl]
      exact phase_of_own tracks.keyed tracks.unused (tracks.origin symptom) judged
    · rw [if_neg own]
      refine congrArg (·.map Tracked.phase) (tracked_of_other tracks.keyed (fun finding found => ?_) judged
        fun alike => own (distinct symptom other alike))
      rw [(tracks.origin other finding found).detector]
      cases symptom <;> cases other <;> first | exact absurd rfl own | decide

theorem Tracks.step (tracks : Tracks env scope w)
    (forward : ∀ ⦃i j⦄, i ≤ j → env.clock i ≤ env.clock j) (sinceEpoch : unixEpoch ≤ env.clock 0)
    (distinct : Distinct env scope) (call : AgentCall) :
    StatefulResult.succeeds (call.program env scope) w = true ∧ Tracks env scope (afterCall env scope w call) ∧
      ∀ symptom : Symptom, (afterCall env scope w call).storage.phase (symptom.trackedId env scope) =
        if call = .evaluate symptom then
          (symptom.verdict w.storage.operational).next 3 (w.storage.phase (symptom.trackedId env scope))
        else w.storage.phase (symptom.trackedId env scope) := by
  unfold afterCall StatefulResult.succeeds final
  cases call with
  | record update =>
    obtain ⟨w', ran, recorded⟩ := record_memory env update tracks.idle
    rw [show AgentCall.program env scope (.record update) w = .ok () w' from ran]
    obtain ⟨later, same⟩ := tracks.recorded forward sinceEpoch recorded
    exact ⟨rfl, later, fun symptom => (same _).trans (if_neg nofun).symm⟩
  | evaluate symptom =>
    obtain ⟨findings, complete, w', ran, judged, persisted⟩ :=
      evaluatePersisted_memory env symptom (symptom.network scope) (symptom.node scope) tracks.idle
    rw [AgentCall.program_evaluate, ran]
    obtain ⟨later, phases⟩ := tracks.evaluated forward distinct judged persisted
    refine ⟨rfl, later, fun other => (phases other).trans ?_⟩
    by_cases own : symptom = other
    · subst own
      simp
    · simp [own]

theorem Tracks.run (tracks : Tracks env scope w)
    (forward : ∀ ⦃i j⦄, i ≤ j → env.clock i ≤ env.clock j) (sinceEpoch : unixEpoch ≤ env.clock 0)
    (distinct : Distinct env scope) (calls : List AgentCall) :
    Tracks env scope (runCalls env scope w calls) ∧
      ∀ symptom : Symptom, (runCalls env scope w calls).storage.phase (symptom.trackedId env scope) =
        follow 3 (verdicts env scope symptom w calls) (w.storage.phase (symptom.trackedId env scope)) := by
  induction calls generalizing w with
  | nil => exact ⟨tracks, fun _ => rfl⟩
  | cons call calls ih =>
    obtain ⟨-, next, phases⟩ := tracks.step forward sinceEpoch distinct call
    obtain ⟨last, followed⟩ := ih next
    refine ⟨last, fun symptom => (followed symptom).trans ?_⟩
    have cons : verdicts env scope symptom w (call :: calls) =
        if call = .evaluate symptom then
          symptom.verdict w.storage.operational :: verdicts env scope symptom (afterCall env scope w call) calls
        else verdicts env scope symptom (afterCall env scope w call) calls := rfl
    rw [phases symptom, cons]
    by_cases evaluates : call = .evaluate symptom
    · rw [if_pos evaluates, if_pos evaluates]
      rfl
    · rw [if_neg evaluates, if_neg evaluates]

/-- Each symptom is looked at three times or more, and only the diagnosed one, if any, is found. -/
def Diagnoses (env : CycleEnv) (scope : AgentScope) (w : World MemoryStorage) (calls : List AgentCall)
    (cause : Option Symptom) : Prop :=
  ∀ symptom : Symptom, 3 ≤ (verdicts env scope symptom w calls).length ∧
    ∀ verdict ∈ verdicts env scope symptom w calls, verdict = if cause = some symptom then .raised else .cleared

def MemoryStorage.Active (s : MemoryStorage) (id : String) : Prop :=
  ∃ finding, s.stored id = some finding ∧ finding.lifecycle = .active

theorem MemoryStorage.active_iff {s : MemoryStorage} {id : String} :
    s.Active id ↔ ∃ misses, s.phase id = some (.counting misses) := by
  unfold Active phase tracked Tracked.phase
  cases s.stored id with
  | none => simp
  | some finding => cases lifecycle : finding.lifecycle <;> simp [lifecycle]

theorem Diagnoses.active {calls : List AgentCall} {cause : Option Symptom}
    (diagnoses : Diagnoses env scope w calls cause)
    {symptom : Symptom} {phase : Option Phase} :
    (∃ misses, follow 3 (verdicts env scope symptom w calls) phase = some (.counting misses)) ↔
      cause = some symptom := by
  obtain ⟨often, each⟩ := diagnoses symptom
  by_cases found : cause = some symptom
  · simp only [if_pos found] at each
    have uncleared : .cleared ∉ verdicts env scope symptom w calls := fun member => nomatch each _ member
    have raised : .raised ∈ verdicts env scope symptom w calls := by
      have first := List.getElem_mem (Nat.lt_of_lt_of_le (by decide : 0 < 3) often)
      exact each _ first ▸ first
    rw [follow_uncleared uncleared, if_pos raised]
    exact ⟨fun _ => found, fun _ => ⟨0, rfl⟩⟩
  · simp only [if_neg found] at each
    have unraised : .raised ∉ verdicts env scope symptom w calls := fun member => nomatch each _ member
    have all : (verdicts env scope symptom w calls).count .cleared = (verdicts env scope symptom w calls).length :=
      List.count_eq_length.mpr fun verdict member => (each verdict member).symm
    rw [follow_settles (by decide) unraised (all ▸ often)]
    cases phase <;> simp [found]

end Runs

/-- In every interleaving of the polls and evaluations of an agent whose clock does not go back: no call fails, each
    finding follows the verdicts that its own detector reached, of which at most one raises, and when the verdicts
    stay the same for three evaluations of each, exactly the finding of the cause they name is active. -/
theorem root_causes_tracked (env : CycleEnv) (scope : AgentScope)
    (forward : ∀ ⦃i j⦄, i ≤ j → env.clock i ≤ env.clock j) (sinceEpoch : unixEpoch ≤ env.clock 0)
    (distinct : Distinct env scope) (calls : List AgentCall) :
    let w := runCalls env scope ⟨.new, 0, 0⟩ calls
    EachStep (afterCall env scope) (fun w call => StatefulResult.succeeds (call.program env scope) w = true)
        ⟨.new, 0, 0⟩ calls ∧
      (∀ symptom : Symptom, w.storage.phase (symptom.trackedId env scope) =
        follow 3 (verdicts env scope symptom ⟨.new, 0, 0⟩ calls) none) ∧
      (∀ a b : Symptom, a.verdict w.storage.operational = .raised → b.verdict w.storage.operational = .raised → a = b) ∧
      ∀ later cause, Diagnoses env scope w later cause → ∀ symptom : Symptom,
        (runCalls env scope w later).storage.Active (symptom.trackedId env scope) ↔ cause = some symptom := by
  intro w
  have each : ∀ w call, Tracks env scope w → Tracks env scope (afterCall env scope w call) :=
    fun _ call tracks => (tracks.step forward sinceEpoch distinct call).2.1
  obtain ⟨tracks, phases⟩ := (Tracks.new env scope).run forward sinceEpoch distinct calls
  refine ⟨?_, phases, fun a b raised also => Symptom.raised_unique raised also, fun later cause diagnoses symptom => ?_⟩
  · exact .of_invariant each (fun _ call tracks => (tracks.step forward sinceEpoch distinct call).1)
      (Tracks.new env scope) calls
  · rw [MemoryStorage.active_iff, (tracks.run forward sinceEpoch distinct later).2 symptom]
    exact diagnoses.active

/-- A Bitcoin Core that lags behind a reachable BTCPay is found, and once it has caught up no finding stays active. -/
theorem lagging_core_tracked :
    let env : CycleEnv := {
      ext := {
        sha256 := fun bytes => String.ofList (bytes.map fun byte => Char.ofNat byte.toNat)
        jsonText := fun _ => "null", rfc3339 := fun _ => "instant", jsonInstant := fun _ => "instant" }
      clock := fun tick => nanosPerSecond * tick, uuid := fun _ => "uuid" }
    let scope : AgentScope := ⟨.mainnet, "node"⟩
    let core (synchronized : Bool) : BitcoinCoreSnapshot := ⟨.mainnet, 800000, 800001, synchronized, 0⟩
    let round := [Symptom.btcPayUnreachable, .coreUnsynchronized, .lightningUnsynchronized].map AgentCall.evaluate
    let polls :=
      [AgentCall.record .greenfieldAttempt, .record (.greenfieldSnapshot ⟨[], 0⟩), .record .bitcoinCoreAttempt,
      .record (.bitcoinCoreSuccess (core false)), .record .lndAttempt, .record (.lndSuccess ⟨"node", true, 1, 0, 0⟩)]
    let lagging := runCalls env scope ⟨.new, 0, 0⟩ (polls ++ round)
    let caughtUp := runCalls env scope ⟨.new, 0, 0⟩ (polls ++ round ++ [.record (.bitcoinCoreSuccess (core true))])
    lagging.storage.phase (Symptom.coreUnsynchronized.trackedId env scope) = some (.counting 0) ∧
      ∀ symptom : Symptom,
        ¬(runCalls env scope caughtUp (round ++ round ++ round)).storage.Active (symptom.trackedId env scope) := by
  intro env scope core round polls lagging caughtUp
  have forward : ∀ ⦃i j⦄, i ≤ j → env.clock i ≤ env.clock j := by
    intro a b le
    show nanosPerSecond * (a : Int) ≤ nanosPerSecond * b
    exact Int.mul_le_mul_of_nonneg_left (by exact_mod_cast le) (by decide)
  have distinct : Distinct env scope := by
    intro a b same
    cases a <;> cases b <;> first | rfl | exact absurd same (by decide)
  have tracked := root_causes_tracked env scope forward (by decide) distinct
  have cleared (symptom : Symptom) :
      verdicts env scope symptom caughtUp (round ++ round ++ round) = List.replicate 3 .cleared := by
    cases symptom <;> decide
  have recovers : Diagnoses env scope caughtUp (round ++ round ++ round) none := by
    intro symptom
    rw [cleared symptom]
    exact ⟨by decide, fun verdict member => List.eq_of_mem_replicate member⟩
  refine ⟨((tracked (polls ++ round)).2.1 .coreUnsynchronized).trans (by decide +kernel), fun symptom active => ?_⟩
  exact nomatch ((tracked _).2.2.2 _ none recovers symptom).mp active

end Rieko
