import Rieko.Domain.Events
import Rieko.Findings.Identity

namespace Rieko

structure GraphView where
  channels : List Channel

/-- Newest-first snapshots of a channel, at most as many as asked for. -/
abbrev HistoryView := ChannelId → Nat → List ChannelSnapshot

structure DetectorContext where
  network : BitcoinNetwork
  history : Option HistoryView := none
  source : Option ObservationSource := none
  normalizer : Option ProducerVersion := none
  node : Option String := none
  events : Option (List NodeEvent) := none
  chainSynchronized : Option Bool := none

structure DetectorCycle where
  scope : FindingCycleScope
  findings : List Finding

inductive DetectorError where
  | missingNodeScope
  | invalidFinding (detector findingId : String)
  | duplicateFinding (detector findingId : String)
deriving DecidableEq, Repr

structure Detector where
  id : String
  version : String
  run : GraphView → DetectorContext → List Finding
  isComplete : GraphView → DetectorContext → Bool
  networkScope : DetectorContext → Option BitcoinNetwork := fun ctx => some ctx.network

namespace Detector

def expectedId (ext : External) (detector : Detector) (network : Option BitcoinNetwork) (finding : Finding) :
    String :=
  findingIdentity ext detector.id detector.version network finding.node finding.channel

def accepts (ext : External) (detector : Detector) (node : String) (network : Option BitcoinNetwork)
    (finding : Finding) : Bool :=
  finding.detector = detector.id ∧ finding.detectorVersion = detector.version ∧
    finding.node = some node ∧ finding.id = detector.expectedId ext network finding ∧
    finding.lifecycle = .active

def check (ext : External) (detector : Detector) (node : String) (network : Option BitcoinNetwork) :
    List String → List Finding → Except DetectorError Unit
  | _, [] => .ok ()
  | seen, finding :: findings =>
    if !detector.accepts ext node network finding then
      .error (.invalidFinding detector.id finding.id)
    else if finding.id ∈ seen then .error (.duplicateFinding detector.id finding.id)
    else detector.check ext node network (finding.id :: seen) findings

def evaluate (ext : External) (detector : Detector) (view : GraphView) (ctx : DetectorContext) :
    Except DetectorError DetectorCycle :=
  match ctx.node with
  | none => .error .missingNodeScope
  | some node =>
    let network := detector.networkScope ctx
    let findings := detector.run view ctx
    match detector.check ext node network [] findings with
    | .error e => .error e
    | .ok () => .ok
        { scope := { detector := detector.id, network, node := some node, complete := detector.isComplete view ctx }
          findings }

theorem check_ok {ext : External} {detector : Detector} {node : String} {network : Option BitcoinNetwork}
    {seen : List String} {findings : List Finding} {u : Unit}
    (passed : detector.check ext node network seen findings = .ok u) :
    (∀ finding ∈ findings, detector.accepts ext node network finding = true ∧ finding.id ∉ seen) ∧
      (findings.map Finding.id).Nodup := by
  induction findings generalizing seen with
  | nil => simp
  | cons finding findings ih =>
    unfold check at passed
    by_cases accepted : detector.accepts ext node network finding = true
    · by_cases repeated : finding.id ∈ seen
      · simp [accepted, repeated] at passed
      · simp only [accepted, Bool.not_true, Bool.false_eq_true, if_false, if_neg repeated] at passed
        obtain ⟨later, distinct⟩ := ih passed
        refine ⟨fun other member => ?_, ?_⟩
        · rcases List.mem_cons.mp member with rfl | elsewhere
          · exact ⟨accepted, repeated⟩
          · obtain ⟨valid, fresh⟩ := later other elsewhere
            exact ⟨valid, fun also => fresh (List.mem_cons_of_mem _ also)⟩
        · rw [List.map_cons, List.nodup_cons]
          refine ⟨fun member => ?_, distinct⟩
          obtain ⟨other, elsewhere, same⟩ := List.mem_map.mp member
          exact (later other elsewhere).2 (by simp [same])
    · simp [accepted] at passed

theorem evaluate_ok {ext : External} {detector : Detector} {view : GraphView} {ctx : DetectorContext}
    {cycle : DetectorCycle} (evaluated : detector.evaluate ext view ctx = .ok cycle) :
    ∃ node, ctx.node = some node ∧ cycle.findings = detector.run view ctx ∧
      cycle.scope = ⟨detector.id, detector.networkScope ctx, some node, detector.isComplete view ctx⟩ ∧
      (∀ finding ∈ cycle.findings, detector.accepts ext node (detector.networkScope ctx) finding = true) ∧
      (cycle.findings.map Finding.id).Nodup := by
  unfold evaluate at evaluated
  cases named : ctx.node with
  | none => simp [named] at evaluated
  | some node =>
    simp only [named] at evaluated
    cases passed : detector.check ext node (detector.networkScope ctx) [] (detector.run view ctx) with
    | error e => simp [passed] at evaluated
    | ok _ =>
      simp only [passed] at evaluated
      cases evaluated
      obtain ⟨valid, distinct⟩ := check_ok passed
      exact ⟨node, rfl, rfl, rfl, fun finding member => (valid finding member).1, distinct⟩

end Detector

def provenanceProducers (normalizer : Option ProducerVersion) (id version : String) : List ProducerVersion :=
  normalizer.toList ++ [⟨id, version, .detector⟩]

/-- Findings built in a loop each read the clock once, in the order in which they are built. -/
def stamp (clock : Nat → DateTime) (findings : List (DateTime → Finding)) : List Finding :=
  findings.zipIdx.map fun (finding, n) => finding (clock n)

theorem mem_stamp {clock : Nat → DateTime} {findings : List (DateTime → Finding)} {finding : Finding}
    (member : finding ∈ stamp clock findings) : ∃ build ∈ findings, ∃ now, finding = build now := by
  obtain ⟨⟨build, n⟩, paired, rfl⟩ := List.mem_map.mp member
  exact ⟨build, List.fst_mem_of_mem_zipIdx paired, clock n, rfl⟩

theorem stamp_mem {clock : Nat → DateTime} {findings : List (DateTime → Finding)} {build : DateTime → Finding}
    (member : build ∈ findings) : ∃ now, build now ∈ stamp clock findings := by
  obtain ⟨n, small, rfl⟩ := List.mem_iff_getElem.mp member
  exact ⟨clock n, List.mem_map.mpr ⟨(findings[n], n), List.mem_zipIdx_iff_getElem?.mpr (by simp [small]), rfl⟩⟩

def bySeverity (findings : List Finding) : List Finding :=
  findings.insertionSort fun a b => b.severity.rank ≤ a.severity.rank

theorem mem_bySeverity {findings : List Finding} {finding : Finding} :
    finding ∈ bySeverity findings ↔ finding ∈ findings :=
  (List.perm_insertionSort _ _).mem_iff

section Reported

variable {clock : Nat → DateTime} {channels : List Channel} {judge : Channel → Option (DateTime → Finding)}

theorem mem_reported {finding : Finding} (member : finding ∈ bySeverity (stamp clock (channels.filterMap judge))) :
    ∃ channel ∈ channels, ∃ build, judge channel = some build ∧ ∃ now, finding = build now := by
  obtain ⟨build, built, now, same⟩ := mem_stamp (mem_bySeverity.mp member)
  obtain ⟨channel, listed, judged⟩ := List.mem_filterMap.mp built
  exact ⟨channel, listed, build, judged, now, same⟩

theorem reported_mem {channel : Channel} {build : DateTime → Finding} (listed : channel ∈ channels)
    (judged : judge channel = some build) : ∃ now, build now ∈ bySeverity (stamp clock (channels.filterMap judge)) := by
  obtain ⟨now, stamped⟩ := stamp_mem (List.mem_filterMap.mpr ⟨channel, listed, judged⟩)
  exact ⟨now, mem_bySeverity.mpr stamped⟩

end Reported

def round4 (v : Binary64) : Binary64 := ((v.mul (.ofNat 10000)).round).div (.ofNat 10000)

end Rieko
