import Rieko.Lib.StatefulResult
import Rieko.Storage.MemoryRecords
import Mathlib.Logic.Function.Basic

namespace Rieko

open StatefulResult

def Finding.dedupKey (finding : Finding) : String :=
  finding.detector ++ "|" ++ finding.detectorVersion ++ "|" ++ finding.node.getD "" ++ "|" ++ finding.channel.getD ""

structure Alert where
  dedupKey : String
  severity : Severity
  title : String
  message : String
  timestamp : DateTime
deriving DecidableEq, Repr

def Alert.fromFinding (finding : Finding) (title message : String) (now : DateTime) : Alert where
  dedupKey := finding.dedupKey
  severity := finding.severity
  title
  message
  timestamp := now

inductive AlertError where
  | sink (message : String)
  | transport (message : String)
  | store (message : String)
deriving DecidableEq, Repr

inductive DeliveryOutcome where
  | delivered | suppressed
deriving DecidableEq, Repr

def TelegramSink.send (ended : Except AlertError Unit) : Except AlertError DeliveryOutcome :=
  ended.map fun _ => .delivered

class AlertStateStore (σ : Type) where
  read (key : String) : σ → Except AlertError (Option AlertState)
  write (key : String) (state : AlertState) : EStateM AlertError σ Unit

instance : AlertStateStore MemoryStorage where
  read key s := .ok (s.alertState.lookup key)
  write key state := modify fun s => { s with alertState := s.alertState.insert key state }

/-- A store that does not fail, by the states that it holds. -/
structure AlertStateStore.Reliable {σ : Type} [AlertStateStore σ] (held : σ → String → Option AlertState) : Prop where
  read : ∀ s key, AlertStateStore.read key s = .ok (held s key)
  write : ∀ s key state, ∃ s', AlertStateStore.write key state s = .ok () s' ∧
    held s' = Function.update (held s) key (some state)

theorem MemoryStorage.reliable : AlertStateStore.Reliable fun (s : MemoryStorage) key => s.alertState.lookup key where
  read _ _ := rfl
  write s key state := by
    refine ⟨{ s with alertState := s.alertState.insert key state }, rfl, funext fun other => ?_⟩
    by_cases same : other = key
    · rw [same, Function.update_self]
      exact AList.lookup_insert _
    · rw [Function.update_of_ne same]
      exact AList.lookup_insert_ne same

namespace AlertState

def never : AlertState := ⟨none, none, .none⟩

def inCooldown (stored : AlertState) (cooldown : StdDuration) (now : DateTime) : Bool :=
  stored.lastSentAt.any fun sentAt => now - sentAt < (TimeDelta.fromStd cooldown).getD 0

def escalated (stored : AlertState) (severity : Severity) : Bool :=
  stored.lastSeverity.any fun last => last.rank < severity.rank

def suppresses (stored : AlertState) (cooldown : StdDuration) (severity : Severity) (now : DateTime) : Bool :=
  stored.inCooldown cooldown now && !stored.escalated severity

end AlertState

/-- A sink that suppresses repeats of an alert within a cooldown, which a restart does not reset. -/
structure PersistentDedupingSink (σ : Type) where
  store : σ
  cooldown : StdDuration
  sinkId : String := ""
  sentCount : Nat := 0

namespace PersistentDedupingSink

variable {σ : Type}

abbrev SinkM (σ : Type) := EStateM AlertError (PersistentDedupingSink σ)

def key (sink : PersistentDedupingSink σ) (alert : Alert) : String :=
  if sink.sinkId = "" then alert.dedupKey else sink.sinkId ++ "|" ++ alert.dedupKey

theorem key_inj {sink : PersistentDedupingSink σ} {alert other : Alert} :
    sink.key alert = sink.key other ↔ alert.dedupKey = other.dedupKey := by
  unfold key
  split
  · exact Iff.rfl
  · rw [String.append_right_inj]

variable [AlertStateStore σ]

def readState (key : String) : SinkM σ AlertState := fun sink =>
  match AlertStateStore.read key sink.store with
  | .ok state => .ok (state.getD .never) sink
  | .error e => .error e sink

def writeState (key : String) (state : AlertState) : SinkM σ Unit := fun sink =>
  match AlertStateStore.write key state sink.store with
  | .ok _ store => .ok () { sink with store }
  | .error e store => .error e { sink with store }

variable {sink : PersistentDedupingSink σ} {key : String} {state : AlertState} {store : σ} {e : AlertError}

theorem writeState_of_ok (wrote : AlertStateStore.write key state sink.store = .ok () store) :
    writeState key state sink = .ok () { sink with store } := by
  unfold writeState
  rw [wrote]

theorem writeState_of_error (failed : AlertStateStore.write key state sink.store = .error e store) :
    writeState key state sink = .error e { sink with store } := by
  unfold writeState
  rw [failed]

def record (key : String) (alert : Alert) (now : DateTime) (stored : AlertState) :
    Except AlertError DeliveryOutcome → SinkM σ DeliveryOutcome
  | .ok outcome => do
    writeState key ⟨some now, some alert.severity, .success⟩
    modify fun sink => { sink with sentCount := sink.sentCount + 1 }
    return outcome
  | .error e => do
    writeState key { stored with lastStatus := .failed }
    throw e

def send (alert : Alert) (now : DateTime) (inner : Except AlertError DeliveryOutcome) : SinkM σ DeliveryOutcome := do
  let sink ← get
  let key := sink.key alert
  let stored ← readState key
  if stored.suppresses sink.cooldown alert.severity now then
    writeState key { stored with lastStatus := .skipped }
    return .suppressed
  else record key alert now stored inner

structure Leaves (held : σ → String → Option AlertState) (sink sink' : PersistentDedupingSink σ) (key : String)
    (state : AlertState) (sent : Nat) : Prop where
  held : held sink'.store = Function.update (held sink.store) key (some state)
  cooldown : sink'.cooldown = sink.cooldown
  sinkId : sink'.sinkId = sink.sinkId
  sentCount : sink'.sentCount = sink.sentCount + sent

def stored (held : σ → String → Option AlertState) (sink : PersistentDedupingSink σ) (key : String) : AlertState :=
  (held sink.store key).getD .never

section Send

variable {held : σ → String → Option AlertState} (reliable : AlertStateStore.Reliable held)

include reliable

theorem writeState_ok (sink : PersistentDedupingSink σ) (key : String) (state : AlertState) :
    ∃ sink', writeState key state sink = .ok () sink' ∧ Leaves held sink sink' key state 0 := by
  rcases reliable.write sink.store key state with ⟨store, wrote, now⟩
  exact ⟨{ sink with store }, writeState_of_ok wrote, now, rfl, rfl, rfl⟩

theorem send_cases (sink : PersistentDedupingSink σ) (alert : Alert) (now : DateTime)
    (inner : Except AlertError DeliveryOutcome) :
    let before := stored held sink (sink.key alert)
    ∃ sink', if before.suppresses sink.cooldown alert.severity now then
        send alert now inner sink = .ok .suppressed sink' ∧
          Leaves held sink sink' (sink.key alert) { before with lastStatus := .skipped } 0
      else match inner with
        | .ok outcome => send alert now inner sink = .ok outcome sink' ∧
          Leaves held sink sink' (sink.key alert) ⟨some now, some alert.severity, .success⟩ 1
        | .error e => send alert now inner sink = .error e sink' ∧
          Leaves held sink sink' (sink.key alert) { before with lastStatus := .failed } 0 := by
  intro before
  have read : readState (sink.key alert) sink = .ok before sink := by
    unfold readState
    rw [reliable.read]
    rfl
  have got : (get : SinkM σ (PersistentDedupingSink σ)) sink = .ok sink sink := rfl
  have sent : send alert now inner sink = (if before.suppresses sink.cooldown alert.severity now then do
      writeState (sink.key alert) { before with lastStatus := .skipped }
      return .suppressed
    else record (sink.key alert) alert now before inner : SinkM σ DeliveryOutcome) sink :=
    (bind_of_ok got _).trans (bind_of_ok read _)
  rw [sent]
  by_cases suppressed : before.suppresses sink.cooldown alert.severity now = true
  · rcases writeState_ok reliable sink (sink.key alert) { before with lastStatus := .skipped }
      with ⟨sink', wrote, leaves⟩
    refine ⟨sink', ?_⟩
    rw [if_pos suppressed, if_pos suppressed]
    exact ⟨bind_of_ok wrote _, leaves⟩
  · rw [if_neg suppressed]
    simp only [if_neg suppressed]
    cases inner with
    | ok outcome =>
      rcases writeState_ok reliable sink (sink.key alert) ⟨some now, some alert.severity, .success⟩ with
        ⟨sink', wrote, leaves⟩
      refine ⟨{ sink' with sentCount := sink'.sentCount + 1 }, bind_of_ok wrote _, leaves.held, leaves.cooldown,
        leaves.sinkId, ?_⟩
      rw [leaves.sentCount]
    | error e =>
      rcases writeState_ok reliable sink (sink.key alert) { before with lastStatus := .failed }
        with ⟨sink', wrote, leaves⟩
      exact ⟨sink', bind_of_ok wrote _, leaves⟩

theorem final_leaves (sink : PersistentDedupingSink σ) (alert : Alert) (now : DateTime)
    (inner : Except AlertError DeliveryOutcome) :
    ∃ state sent, Leaves held sink (final (send alert now inner) sink) (sink.key alert) state sent := by
  rcases send_cases reliable sink alert now inner with ⟨after, sent⟩
  unfold final
  split at sent
  · rw [sent.1]
    exact ⟨_, _, sent.2⟩
  · cases inner with
    | ok outcome =>
      rw [sent.1]
      exact ⟨_, _, sent.2⟩
    | error e =>
      rw [sent.1]
      exact ⟨_, _, sent.2⟩

end Send

end PersistentDedupingSink

end Rieko
