import Rieko.Detectors.Operational
import Rieko.Lib.Hysteresis
import Rieko.Status.Polling

namespace Rieko

open Hysteresis

inductive Symptom where
  | btcPayUnreachable | coreUnsynchronized | lightningUnsynchronized
deriving DecidableEq, Repr

namespace Symptom

def detectorId : Symptom → String
  | btcPayUnreachable => BtcPayBackendHealthDetector.id
  | coreUnsynchronized => BitcoinCoreSyncCorrelationDetector.id
  | lightningUnsynchronized => LightningChainSyncCorrelationDetector.id

def detector (ext : External) (state : OperationalState) : Symptom → Detector
  | btcPayUnreachable => BtcPayBackendHealthDetector.detector ext state
  | coreUnsynchronized => BitcoinCoreSyncCorrelationDetector.detector ext state
  | lightningUnsynchronized => LightningChainSyncCorrelationDetector.detector ext state

def observedAt (state : OperationalState) : Symptom → DateTime
  | btcPayUnreachable => BtcPayBackendHealthDetector.observedAt state
  | coreUnsynchronized => BitcoinCoreSyncCorrelationDetector.observedAt state
  | lightningUnsynchronized => LightningChainSyncCorrelationDetector.observedAt state

def verdict (state : OperationalState) : Symptom → Verdict
  | btcPayUnreachable =>
    match state.source with
    | .btcPayGreenfield connected => if connected then .cleared else .raised
    | _ => .unknown
  | coreUnsynchronized =>
    match BitcoinCoreSyncCorrelationDetector.completeState state with
    | some (_, snapshot) => if snapshot.synchronized then .cleared else .raised
    | none => .unknown
  | lightningUnsynchronized =>
    match LightningChainSyncCorrelationDetector.completeState state with
    | some ((_, core), _, lightning) => if !core.synchronized || lightning.syncedToChain then .cleared else .raised
    | none => .unknown

def findingId (ext : External) (node : String) (symptom : Symptom) : String :=
  findingIdentity ext symptom.detectorId "1" none (some node) none

structure Reports (ext : External) (node : String) (state : OperationalState) (symptom : Symptom) (finding : Finding) :
    Prop where
  id : finding.id = symptom.findingId ext node
  detector : finding.detector = symptom.detectorId
  version : finding.detectorVersion = "1"
  schemaVersion : finding.schemaVersion = findingSchemaVersion
  node : finding.node = some node
  channel : finding.channel = none
  provenance : finding.provenance = none
  lastSeenAt : finding.lastSeenAt = symptom.observedAt state
  lifecycle : finding.lifecycle = .active

/-- What a detector makes of a state by its verdict: a report, nothing, or nothing that counts. -/
def Judged (ext : External) (node : String) (state : OperationalState) (symptom : Symptom) (findings : List Finding)
    (complete : Bool) : Verdict → Prop
  | .raised => complete = true ∧ ∃ finding, findings = [finding] ∧ symptom.Reports ext node state finding
  | .cleared => complete = true ∧ findings = []
  | .unknown => complete = false ∧ findings = []

variable {ext : External} {state : OperationalState} {symptom : Symptom} {node : String}

theorem operationalFinding_reports (evidence : List Evidence) (explanation : String) :
    symptom.Reports ext node state (operationalFinding ext symptom.detectorId "1" node evidence explanation
      (symptom.observedAt state)) := ⟨rfl, rfl, rfl, rfl, rfl, rfl, rfl, rfl, rfl⟩

theorem detector_judges (view : GraphView) {ctx : DetectorContext} (named : ctx.node = some node) :
    symptom.Judged ext node state ((symptom.detector ext state).run view ctx)
      ((symptom.detector ext state).isComplete view ctx) (symptom.verdict state) := by
  cases symptom with
  | btcPayUnreachable =>
    show Judged ext node state _ (BtcPayBackendHealthDetector.run ext state view ctx)
      (BtcPayBackendHealthDetector.isComplete state) _
    unfold BtcPayBackendHealthDetector.run BtcPayBackendHealthDetector.isComplete verdict
    rw [named]
    cases state.source with
    | fixture | lndRest => exact ⟨rfl, rfl⟩
    | btcPayGreenfield connected =>
      cases connected with
      | true => exact ⟨rfl, rfl⟩
      | false => exact ⟨rfl, _, rfl, operationalFinding_reports _ _⟩
  | coreUnsynchronized =>
    show Judged ext node state _ (BitcoinCoreSyncCorrelationDetector.run ext state view ctx)
      (BitcoinCoreSyncCorrelationDetector.completeState state).isSome _
    unfold BitcoinCoreSyncCorrelationDetector.run verdict
    rw [named]
    cases BitcoinCoreSyncCorrelationDetector.completeState state with
    | none => exact ⟨rfl, rfl⟩
    | some known =>
      obtain ⟨core, snapshot⟩ := known
      dsimp only
      cases snapshot.synchronized with
      | true => exact ⟨rfl, rfl⟩
      | false => exact ⟨rfl, _, rfl, operationalFinding_reports _ _⟩
  | lightningUnsynchronized =>
    show Judged ext node state _ (LightningChainSyncCorrelationDetector.run ext state view ctx)
      (LightningChainSyncCorrelationDetector.completeState state).isSome _
    unfold LightningChainSyncCorrelationDetector.run verdict
    rw [named]
    cases LightningChainSyncCorrelationDetector.completeState state with
    | none => exact ⟨rfl, rfl⟩
    | some known =>
      obtain ⟨⟨core, snapshot⟩, lightning, lightningSnapshot⟩ := known
      dsimp only
      cases (!snapshot.synchronized || lightningSnapshot.syncedToChain) with
      | true => exact ⟨rfl, rfl⟩
      | false => exact ⟨rfl, _, rfl, operationalFinding_reports _ _⟩

theorem Reports.accepted {finding : Finding} (reports : symptom.Reports ext node state finding) :
    (symptom.detector ext state).accepts ext node none finding = true := by
  have named : (symptom.detector ext state).id = symptom.detectorId := by cases symptom <;> rfl
  have versioned : (symptom.detector ext state).version = "1" := by cases symptom <;> rfl
  unfold Detector.accepts Detector.expectedId
  rw [named, versioned, reports.node, reports.channel]
  simp [reports.detector, reports.version, reports.lifecycle, reports.id, findingId]

variable (ext state) in
theorem evaluate_judges (view : GraphView) (ctx : DetectorContext) (named : ctx.node = some node) :
    ∃ findings complete, symptom.Judged ext node state findings complete (symptom.verdict state) ∧
      (symptom.detector ext state).evaluate ext view ctx =
        .ok ⟨⟨symptom.detectorId, none, some node, complete⟩, findings⟩ := by
  have judged : symptom.Judged ext node state _ _ _ := detector_judges view named
  have unscoped : (symptom.detector ext state).networkScope ctx = none := by cases symptom <;> rfl
  have id : (symptom.detector ext state).id = symptom.detectorId := by cases symptom <;> rfl
  refine ⟨_, _, judged, ?_⟩
  unfold Detector.evaluate
  rw [named]
  dsimp only
  rw [unscoped, id]
  have passed : (symptom.detector ext state).check ext node none [] ((symptom.detector ext state).run view ctx) =
      .ok () := by
    cases said : symptom.verdict state with
    | raised =>
      rw [said] at judged
      obtain ⟨-, finding, reported, reports⟩ := judged
      rw [reported]
      unfold Detector.check
      rw [reports.accepted]
      rfl
    | cleared | unknown =>
      rw [said] at judged
      rw [judged.2]
      rfl
  rw [passed]

theorem btcPayUnreachable_raised (raised : btcPayUnreachable.verdict state = .raised) :
    state.source = .btcPayGreenfield false := by
  unfold verdict at raised
  cases source : state.source with
  | fixture | lndRest =>
    rw [source] at raised
    cases raised
  | btcPayGreenfield connected =>
    cases connected with
    | true =>
      rw [source] at raised
      cases raised
    | false => rfl

theorem coreUnsynchronized_raised (raised : coreUnsynchronized.verdict state = .raised) :
    state.source = .btcPayGreenfield true ∧
      ∃ core snapshot, state.completeCore = some (core, snapshot) ∧ snapshot.synchronized = false := by
  unfold verdict at raised
  dsimp only at raised
  cases known : BitcoinCoreSyncCorrelationDetector.completeState state with
  | none =>
    rw [known] at raised
    cases raised
  | some pair =>
    obtain ⟨core, snapshot⟩ := pair
    rw [known] at raised
    unfold BitcoinCoreSyncCorrelationDetector.completeState at known
    split at known
    next connected =>
      refine ⟨connected, core, snapshot, known, ?_⟩
      cases synchronized : snapshot.synchronized with
      | false => rfl
      | true =>
        simp only [synchronized] at raised
        cases raised
    next => cases known

theorem lightningUnsynchronized_raised (raised : lightningUnsynchronized.verdict state = .raised) :
    state.source = .btcPayGreenfield true ∧
      ∃ core snapshot, state.completeCore = some (core, snapshot) ∧ snapshot.synchronized = true := by
  unfold verdict at raised
  dsimp only at raised
  cases known : LightningChainSyncCorrelationDetector.completeState state with
  | none =>
    rw [known] at raised
    cases raised
  | some pair =>
    obtain ⟨⟨core, snapshot⟩, lightning, lightningSnapshot⟩ := pair
    rw [known] at raised
    unfold LightningChainSyncCorrelationDetector.completeState at known
    split at known
    next connected =>
      obtain ⟨complete, found, rest⟩ := Option.bind_eq_some_iff.mp known
      obtain ⟨other, -, same⟩ := Option.map_eq_some_iff.mp rest
      cases same
      refine ⟨connected, core, snapshot, found, ?_⟩
      cases synchronized : snapshot.synchronized with
      | true => rfl
      | false =>
        simp only [synchronized] at raised
        cases raised
    next => cases known

theorem raised_unique {other : Symptom} (raised : symptom.verdict state = .raised)
    (also : other.verdict state = .raised) :
    symptom = other := by
  have apart : state.source = .btcPayGreenfield false → state.source = .btcPayGreenfield true → False := by
    intro unreachable reachable
    rw [unreachable] at reachable
    cases reachable
  have synced {core core' : BitcoinCoreState} {snapshot snapshot' : BitcoinCoreSnapshot}
      (found : state.completeCore = some (core, snapshot)) (found' : state.completeCore = some (core', snapshot'))
      (behind : snapshot.synchronized = false) (ready : snapshot'.synchronized = true) : False := by
    rw [found] at found'
    cases found'
    rw [behind] at ready
    cases ready
  cases symptom <;> cases other <;> try rfl
  · exact (apart (btcPayUnreachable_raised raised) (coreUnsynchronized_raised also).1).elim
  · exact (apart (btcPayUnreachable_raised raised) (lightningUnsynchronized_raised also).1).elim
  · exact (apart (btcPayUnreachable_raised also) (coreUnsynchronized_raised raised).1).elim
  · obtain ⟨-, _, _, found, behind⟩ := coreUnsynchronized_raised raised
    obtain ⟨-, _, _, found', ready⟩ := lightningUnsynchronized_raised also
    exact (synced found found' behind ready).elim
  · exact (apart (btcPayUnreachable_raised also) (lightningUnsynchronized_raised raised).1).elim
  · obtain ⟨-, _, _, found, behind⟩ := coreUnsynchronized_raised also
    obtain ⟨-, _, _, found', ready⟩ := lightningUnsynchronized_raised raised
    exact (synced found found' behind ready).elim

end Symptom

section Observed

/-- An observation is not lost, and does not move back. -/
def Later (before after : Option DateTime) : Prop := ∀ t, before = some t → ∃ t', after = some t' ∧ t ≤ t'

theorem Later.refl (observation : Option DateTime) : Later observation observation :=
  fun t same => ⟨t, same, Int.le_refl t⟩

def Past (now : DateTime) (observation : Option DateTime) : Prop := ∀ t, observation = some t → unixEpoch ≤ t ∧ t ≤ now

theorem Past.later {now : DateTime} {observation : Option DateTime} (past : Past now observation) :
    Later observation (some now) := fun t same => ⟨now, rfl, (past t same).2⟩

theorem Past.now {now : DateTime} (sinceEpoch : unixEpoch ≤ now) : Past now (some now) := by
  intro t same
  cases same
  exact ⟨sinceEpoch, Int.le_refl _⟩

theorem Past.or {now : DateTime} {observation other : Option DateTime} (past : Past now observation)
    (also : Past now other) : Past now (observation.or other) := by
  cases observation with
  | none => exact also
  | some t => exact past

theorem Later.or (observation other : Option DateTime) : Later observation (observation.or other) := by
  cases observation with
  | none => exact fun t found => nomatch found
  | some t => exact .refl _

theorem latest_le {now : DateTime} {before after : List (Option DateTime)} (since : List.Forall₂ Later before after)
    (past : ∀ observation ∈ after, Past now observation) : latest before ≤ latest after := by
  have members {observations : List (Option DateTime)} {t : DateTime} :
      t ∈ observations.filterMap (fun observation => observation) ↔ some t ∈ observations := by
    simp [List.mem_filterMap]
  have upper {t : DateTime} (member : some t ∈ after) : t ≤ latest after := by
    unfold latest
    cases newest : (after.filterMap fun observation => observation).max? with
    | none =>
      rw [List.max?_eq_none_iff] at newest
      have listed := members.mpr member
      rw [newest] at listed
      cases listed
    | some last => exact (List.max?_eq_some_iff.mp newest).2 t (members.mpr member)
  have sinceEpoch : unixEpoch ≤ latest after := by
    unfold latest
    cases newest : (after.filterMap fun observation => observation).max? with
    | none => exact Int.le_refl _
    | some last =>
      have listed := members.mp (List.max?_eq_some_iff.mp newest).1
      exact (past _ listed last rfl).1
  show (before.filterMap fun observation => observation).max?.getD unixEpoch ≤ _
  cases newest : (before.filterMap fun observation => observation).max? with
  | none => exact sinceEpoch
  | some last =>
    have listed := members.mp (List.max?_eq_some_iff.mp newest).1
    obtain ⟨i, small, here⟩ := List.mem_iff_getElem.mp listed
    obtain ⟨counted, each⟩ := List.forall₂_iff_get.mp since
    obtain ⟨t', found, le⟩ := each i small (counted ▸ small) last here
    refine Int.le_trans le (upper ?_)
    rw [← found]
    exact List.getElem_mem _

namespace OperationalState

def lastCoreObservation (state : OperationalState) : Option DateTime := state.bitcoinCore.map (·.lastAttempt)

def lastLightningObservation (state : OperationalState) : Option DateTime := state.lightning.map (·.lastAttempt)

structure ObservedBy (now : DateTime) (state : OperationalState) : Prop where
  attempt : Past now state.lastIngestionAttempt
  success : Past now state.lastIngestionSuccess
  core : Past now state.lastCoreObservation
  lightning : Past now state.lastLightningObservation

structure ObservedSince (before after : OperationalState) : Prop where
  btcPay : Later before.lastBtcPayObservation after.lastBtcPayObservation
  core : Later before.lastCoreObservation after.lastCoreObservation
  lightning : Later before.lastLightningObservation after.lastLightningObservation

theorem ObservedSince.of_same {before after : OperationalState}
    (attempt : after.lastIngestionAttempt = before.lastIngestionAttempt)
    (success : after.lastIngestionSuccess = before.lastIngestionSuccess) (core : after.bitcoinCore = before.bitcoinCore)
    (lightning : after.lightning = before.lightning) : before.ObservedSince after := by
  refine ⟨?_, ?_, ?_⟩
  · unfold lastBtcPayObservation
    rw [attempt, success]
    exact .refl _
  · unfold lastCoreObservation
    rw [core]
    exact .refl _
  · unfold lastLightningObservation
    rw [lightning]
    exact .refl _

theorem ObservedBy.polled {state : OperationalState} {now : DateTime} (observed : state.ObservedBy now)
    (sinceEpoch : unixEpoch ≤ now) (update : PollUpdate) :
    (state.polled (update, now)).ObservedBy now ∧ state.ObservedSince (state.polled (update, now)) := by
  have same : state.ObservedSince state := .of_same rfl rfl rfl rfl
  have success : Later state.lastBtcPayObservation (state.lastIngestionAttempt.or (some now)) := by
    intro t found
    unfold lastBtcPayObservation at found
    cases attempt : state.lastIngestionAttempt with
    | none =>
      rw [attempt, Option.none_or] at found
      exact ⟨now, rfl, (observed.success t found).2⟩
    | some earlier =>
      rw [attempt, Option.some_or] at found
      exact ⟨t, found, Int.le_refl t⟩
  have attempted : Later state.lastBtcPayObservation ((some now).or state.lastIngestionSuccess) := by
    intro t found
    refine ⟨now, rfl, ?_⟩
    unfold lastBtcPayObservation at found
    cases attempt : state.lastIngestionAttempt with
    | none =>
      rw [attempt, Option.none_or] at found
      exact (observed.success t found).2
    | some earlier =>
      rw [attempt, Option.some_or] at found
      exact (observed.attempt t (attempt.trans found)).2
  cases update with
  | greenfieldAttempt =>
    exact ⟨{ observed with attempt := .now sinceEpoch }, { same with btcPay := attempted }⟩
  | greenfieldSnapshot snapshot =>
    exact ⟨{ observed with success := .now sinceEpoch }, { same with btcPay := success }⟩
  | greenfieldFailure => exact ⟨{ observed with }, { same with }⟩
  | bitcoinCoreAttempt =>
    have stamped : (state.polled (.bitcoinCoreAttempt, now)).lastCoreObservation = some now := by
      unfold lastCoreObservation OperationalState.polled PollUpdate.apply
      cases state.bitcoinCore <;> rfl
    exact ⟨{ observed with core := stamped ▸ .now sinceEpoch }, { same with core := stamped ▸ observed.core.later }⟩
  | bitcoinCoreSuccess snapshot =>
    have stamped : (state.polled (.bitcoinCoreSuccess snapshot, now)).lastCoreObservation =
        state.lastCoreObservation.or (some now) := by
      unfold lastCoreObservation OperationalState.polled PollUpdate.apply
      cases state.bitcoinCore <;> rfl
    exact ⟨{ observed with core := stamped ▸ observed.core.or (.now sinceEpoch) },
      { same with core := stamped ▸ .or _ _ }⟩
  | bitcoinCoreFailure =>
    have stamped : (state.polled (.bitcoinCoreFailure, now)).lastCoreObservation =
        state.lastCoreObservation.or (some now) := by
      unfold lastCoreObservation OperationalState.polled PollUpdate.apply
      cases state.bitcoinCore <;> rfl
    exact ⟨{ observed with core := stamped ▸ observed.core.or (.now sinceEpoch) },
      { same with core := stamped ▸ .or _ _ }⟩
  | lndAttempt =>
    have stamped : (state.polled (.lndAttempt, now)).lastLightningObservation = some now := by
      unfold lastLightningObservation OperationalState.polled PollUpdate.apply
      cases state.lightning <;> rfl
    exact ⟨{ observed with lightning := stamped ▸ .now sinceEpoch },
      { same with lightning := stamped ▸ observed.lightning.later }⟩
  | lndSuccess snapshot =>
    have stamped : (state.polled (.lndSuccess snapshot, now)).lastLightningObservation =
        state.lastLightningObservation.or (some now) := by
      unfold lastLightningObservation OperationalState.polled PollUpdate.apply
      cases state.lightning <;> rfl
    exact ⟨{ observed with lightning := stamped ▸ observed.lightning.or (.now sinceEpoch) },
      { same with lightning := stamped ▸ .or _ _ }⟩
  | lndFailure =>
    have stamped : (state.polled (.lndFailure, now)).lastLightningObservation =
        state.lastLightningObservation.or (some now) := by
      unfold lastLightningObservation OperationalState.polled PollUpdate.apply
      cases state.lightning <;> rfl
    exact ⟨{ observed with lightning := stamped ▸ observed.lightning.or (.now sinceEpoch) },
      { same with lightning := stamped ▸ .or _ _ }⟩

theorem ObservedBy.mono {state : OperationalState} {now later : DateTime} (observed : state.ObservedBy now)
    (forward : now ≤ later) : state.ObservedBy later := by
  have moved {observation : Option DateTime} (past : Past now observation) : Past later observation :=
    fun t found => ⟨(past t found).1, Int.le_trans (past t found).2 forward⟩
  exact ⟨moved observed.attempt, moved observed.success, moved observed.core, moved observed.lightning⟩

theorem ObservedSince.observedAt_le {before after : OperationalState} (since : before.ObservedSince after)
    {now : DateTime}
    (observed : after.ObservedBy now) (symptom : Symptom) : symptom.observedAt before ≤ symptom.observedAt after := by
  have btcPay : Past now after.lastBtcPayObservation := observed.attempt.or observed.success
  cases symptom with
  | btcPayUnreachable =>
    have single (state : OperationalState) :
        Symptom.btcPayUnreachable.observedAt state = latest [state.lastBtcPayObservation] := by
      show state.lastBtcPayObservation.getD unixEpoch = _
      cases state.lastBtcPayObservation <;> rfl
    rw [single, single]
    exact latest_le (.cons since.btcPay .nil) (List.forall_mem_singleton.mpr btcPay)
  | coreUnsynchronized =>
    exact latest_le (.cons since.btcPay (.cons since.core .nil))
      (List.forall_mem_cons.mpr ⟨btcPay, List.forall_mem_singleton.mpr observed.core⟩)
  | lightningUnsynchronized =>
    exact latest_le (.cons since.btcPay (.cons since.core (.cons since.lightning .nil)))
      (List.forall_mem_cons.mpr ⟨btcPay, List.forall_mem_cons.mpr
        ⟨observed.core, List.forall_mem_singleton.mpr observed.lightning⟩⟩)

end OperationalState

end Observed

end Rieko
