import Rieko.Alerts.Sink
import Rieko.Findings.Identity

namespace Rieko

open StatefulResult PersistentDedupingSink

structure IdentityInputs where
  detector : String
  detectorVersion : String
  network : Option BitcoinNetwork
  node : Option String
  channel : Option String
deriving DecidableEq, Repr

namespace IdentityInputs

def identity (ext : External) (inputs : IdentityInputs) : String :=
  findingIdentity ext inputs.detector inputs.detectorVersion inputs.network inputs.node inputs.channel

def pieces (text : String) : List (List Char) := text.toList.splitOn '|'

/-- The pieces of all parts that an alert key has. A missing part is an empty one. -/
def keyPieces (inputs : IdentityInputs) : List (List Char) :=
  pieces inputs.detector ++ pieces inputs.detectorVersion ++ pieces (inputs.node.getD "") ++
    pieces (inputs.channel.getD "")

structure Produced (ext : External) (inputs : IdentityInputs) (finding : Finding) : Prop where
  id : finding.id = inputs.identity ext
  detector : finding.detector = inputs.detector
  detectorVersion : finding.detectorVersion = inputs.detectorVersion
  node : finding.node = inputs.node
  channel : finding.channel = inputs.channel

theorem pieces_inj {text other : String} : pieces text = pieces other ↔ text = other := by
  refine ⟨fun same => String.toList_inj.mp ?_, fun same => same ▸ rfl⟩
  have joined := congrArg (fun cut => ['|'].intercalate cut) same
  unfold pieces at joined
  rwa [List.intercalate_splitOn, List.intercalate_splitOn] at joined

theorem pieces_append (text other : String) : pieces (text ++ "|" ++ other) = pieces text ++ pieces other := by
  unfold pieces
  rw [String.toList_append, String.toList_append, List.append_assoc]
  exact List.splitOn_append_cons_self _ _

theorem pieces_of_plain {text : String} (plain : '|' ∉ text.toList) : pieces text = [text.toList] :=
  List.splitOn_eq_singleton plain

theorem Produced.pieces_dedupKey {ext : External} {inputs : IdentityInputs} {finding : Finding}
    (produced : Produced ext inputs finding) : pieces finding.dedupKey = inputs.keyPieces := by
  unfold Finding.dedupKey keyPieces
  rw [pieces_append, pieces_append, pieces_append, produced.detector, produced.detectorVersion, produced.node,
    produced.channel]

theorem keyPieces_of_plain {inputs other : IdentityInputs}
    (plain : ∀ parts ∈ [inputs, other], ∀ text ∈ [parts.detector, parts.detectorVersion, parts.node.getD "",
      parts.channel.getD ""], '|' ∉ text.toList) :
    inputs.keyPieces = other.keyPieces ↔ inputs.detector = other.detector ∧
      inputs.detectorVersion = other.detectorVersion ∧ inputs.node.getD "" = other.node.getD "" ∧
      inputs.channel.getD "" = other.channel.getD "" := by
  have whole (parts : IdentityInputs) (member : parts ∈ [inputs, other]) : parts.keyPieces =
      [parts.detector.toList, parts.detectorVersion.toList, (parts.node.getD "").toList,
        (parts.channel.getD "").toList] := by
    have none := plain parts member
    unfold keyPieces
    rw [pieces_of_plain (none _ (by simp)), pieces_of_plain (none _ (by simp)), pieces_of_plain (none _ (by simp)),
      pieces_of_plain (none _ (by simp))]
    rfl
  rw [whole inputs (by simp), whole other (by simp)]
  simp [String.toList_inj]

end IdentityInputs

/-- An alert about the first finding never has a sink hold back an alert about the second one that it would deliver
    otherwise. -/
def NeverSuppresses (first second : Finding) : Prop :=
  ∀ (σ : Type) [AlertStateStore σ] (held : σ → String → Option AlertState), AlertStateStore.Reliable held →
    ∀ (sink : PersistentDedupingSink σ) (alert other : Alert), alert.dedupKey = first.dedupKey →
      alert.severity = first.severity → other.dedupKey = second.dedupKey → other.severity = second.severity →
      ∀ (now later : DateTime) (ended ended' : Except AlertError Unit),
        value (send other later (TelegramSink.send ended'))
          (final (send alert now (TelegramSink.send ended)) sink) = .ok .suppressed →
        value (send other later (TelegramSink.send ended')) sink = .ok .suppressed

namespace PersistentDedupingSink

variable {σ : Type} [AlertStateStore σ] {held : σ → String → Option AlertState} {sink sink' : PersistentDedupingSink σ}

theorem value_suppressed (reliable : AlertStateStore.Reliable held) (alert : Alert) (now : DateTime)
    (ended : Except AlertError Unit) : value (send alert now (TelegramSink.send ended)) sink = .ok .suppressed ↔
      (stored held sink (sink.key alert)).suppresses sink.cooldown alert.severity now = true := by
  rcases send_cases reliable sink alert now (TelegramSink.send ended) with ⟨after, sent⟩
  unfold value
  split at sent
  next suppressed =>
    rw [sent.1]
    exact iff_of_true rfl suppressed
  next delivered =>
    refine iff_of_false (fun same => ?_) delivered
    cases ended with
    | ok _ =>
      have ran := sent.1
      rw [show TelegramSink.send (.ok _) = .ok .delivered from rfl] at ran same
      rw [ran] at same
      cases same
    | error e =>
      have ran := sent.1
      rw [show TelegramSink.send (.error e) = .error e from rfl] at ran same
      rw [ran] at same
      cases same

end PersistentDedupingSink

variable {a b : Finding}

theorem neverSuppresses_of_keys (differ : a.dedupKey ≠ b.dedupKey) : NeverSuppresses a b := by
  intro σ _ held reliable sink alert other alertKey _ otherKey _ now later ended ended'
  rcases final_leaves reliable sink alert now (TelegramSink.send ended) with ⟨state, sent, leaves⟩
  rw [value_suppressed reliable, value_suppressed reliable]
  have sameKey : (final (send alert now (TelegramSink.send ended)) sink).key other = sink.key other := by
    unfold key
    rw [leaves.sinkId]
  have apart : sink.key other ≠ sink.key alert := fun same => by
    rw [key_inj, otherKey, alertKey] at same
    exact differ same.symm
  unfold stored
  rw [sameKey, leaves.cooldown, leaves.held, Function.update_of_ne apart]
  exact id

theorem suppresses_of_keys (same : a.dedupKey = b.dedupKey) (notMore : b.severity.rank ≤ a.severity.rank) :
    ¬NeverSuppresses a b := by
  intro never
  let sink : PersistentDedupingSink MemoryStorage := { store := .new, cooldown := 1 }
  let alert (finding : Finding) : Alert := .fromFinding finding "" "" 0
  have alone : value (send (alert b) 0 (TelegramSink.send (.ok ()))) sink = .ok .delivered := rfl
  have after := never MemoryStorage _ MemoryStorage.reliable sink (alert a) (alert b) rfl rfl rfl rfl 0 0 (.ok ())
    (.ok ()) ((value_suppressed MemoryStorage.reliable _ _ _).mpr ?_)
  · rw [alone] at after
    cases after
  · let sent : AlertState := ⟨some 0, some a.severity, .success⟩
    have left : final (send (alert a) 0 (TelegramSink.send (.ok ()))) sink =
        { sink with
          store := { MemoryStorage.new with alertState := AList.insert a.dedupKey sent ∅ }
          sentCount := 1 } := rfl
    have held : AList.lookup b.dedupKey (AList.insert a.dedupKey sent (∅ : HashMap AlertState)) = some sent := by
      rw [← same]
      exact AList.lookup_insert _
    rw [left]
    show ((AList.lookup b.dedupKey (AList.insert a.dedupKey sent (∅ : HashMap AlertState))).getD .never).suppresses 1
      b.severity 0 = true
    rw [held]
    simp [AlertState.suppresses, AlertState.inCooldown, AlertState.escalated, sent, TimeDelta.fromStd, notMore]

open IdentityInputs

/-- Two findings have different alert keys, and no sink lets an alert about one hold back an alert about the other,
    exactly if the parts of their keys are cut into different pieces. -/
theorem alert_keys_separate_iff {ext : External} {inputs other : IdentityInputs} (produced : Produced ext inputs a)
    (produced' : Produced ext other b) :
    (a.dedupKey ≠ b.dedupKey ∧ NeverSuppresses a b ∧ NeverSuppresses b a) ↔ inputs.keyPieces ≠ other.keyPieces := by
  have keys : a.dedupKey = b.dedupKey ↔ inputs.keyPieces = other.keyPieces := by
    rw [← produced.pieces_dedupKey, ← produced'.pieces_dedupKey, pieces_inj]
  rw [ne_eq, ne_eq, keys]
  refine ⟨fun all => all.1, fun differ => ⟨differ, ?_, ?_⟩⟩
  · exact neverSuppresses_of_keys (mt keys.mp differ)
  · exact neverSuppresses_of_keys fun same => differ (keys.mp same.symm)

def IdentityInputs.bareFinding (ext : External) (inputs : IdentityInputs) : Finding :=
  { Finding.bare (inputs.identity ext) inputs.detector 0 with
    detectorVersion := inputs.detectorVersion, node := inputs.node, channel := inputs.channel }

theorem IdentityInputs.produced_bare (ext : External) (inputs : IdentityInputs) :
    Produced ext inputs (inputs.bareFinding ext) := ⟨rfl, rfl, rfl, rfl, rfl⟩

/-- Two channels of one node. -/
theorem alert_keys_of_channels :
    let ext : External := ⟨fun bytes => toString bytes, fun _ => "null", fun _ => "instant", fun _ => "instant"⟩
    let inputs : IdentityInputs := ⟨"channel_liquidity", "2", some .mainnet, some "node", some "first"⟩
    let other : IdentityInputs := { inputs with channel := some "second" }
    (inputs.bareFinding ext).dedupKey ≠ (other.bareFinding ext).dedupKey ∧
      NeverSuppresses (inputs.bareFinding ext) (other.bareFinding ext) ∧
      NeverSuppresses (other.bareFinding ext) (inputs.bareFinding ext) := by
  intro ext inputs other
  exact (alert_keys_separate_iff (produced_bare ext inputs) (produced_bare ext other)).mpr (by decide)

/-- One channel on two networks: an alert about the one holds back an alert about the other. -/
theorem alert_key_without_network :
    let ext : External := ⟨fun bytes => toString bytes, fun _ => "null", fun _ => "instant", fun _ => "instant"⟩
    let inputs : IdentityInputs := ⟨"channel_liquidity", "2", some .mainnet, some "node", some "channel"⟩
    let other : IdentityInputs := { inputs with network := some .testnet }
    inputs ≠ other ∧ Produced ext inputs (inputs.bareFinding ext) ∧ Produced ext other (other.bareFinding ext) ∧
      (inputs.bareFinding ext).dedupKey = (other.bareFinding ext).dedupKey ∧
      ¬NeverSuppresses (inputs.bareFinding ext) (other.bareFinding ext) := by
  intro ext inputs other
  have same : (inputs.bareFinding ext).dedupKey = (other.bareFinding ext).dedupKey := by
    have cut : inputs.keyPieces = other.keyPieces := by decide
    rw [← (produced_bare ext inputs).pieces_dedupKey, ← (produced_bare ext other).pieces_dedupKey] at cut
    exact pieces_inj.mp cut
  exact ⟨by decide, produced_bare ext inputs, produced_bare ext other, same, suppresses_of_keys same (Nat.le_refl 1)⟩

end Rieko
