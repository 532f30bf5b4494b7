import Rieko.Alerts.Sink
import Rieko.Lib.Transition

namespace Rieko

open StatefulResult PersistentDedupingSink

structure AlertSend where
  alert : Alert
  now : DateTime
  ended : Except AlertError Unit

/-- A restart makes a new sink over the same store. -/
inductive SinkEvent where
  | send (call : AlertSend)
  | restart

inductive Fate where
  | delivered | suppressed | failed
deriving DecidableEq, Repr

structure Attempt where
  key : String
  severity : Severity
  instant : DateTime
  fate : Fate

def Fate.of : Except AlertError DeliveryOutcome → Fate
  | .ok .delivered => .delivered
  | .ok .suppressed => .suppressed
  | .error _ => .failed

def lastDelivered (key : String) (attempts : List Attempt) : Option Attempt :=
  (attempts.filter fun attempt => attempt.key = key ∧ attempt.fate = .delivered).getLast?

theorem lastDelivered_append (key : String) (past : List Attempt) (attempt : Attempt) :
    lastDelivered key (past ++ [attempt]) =
      if attempt.key = key ∧ attempt.fate = .delivered then some attempt else lastDelivered key past := by
  unfold lastDelivered
  rw [List.filter_append]
  by_cases counts : attempt.key = key ∧ attempt.fate = .delivered
  · simp [counts]
  · simp [counts]

namespace PersistentDedupingSink

variable {σ : Type} [AlertStateStore σ]

def next (sink : PersistentDedupingSink σ) : SinkEvent → PersistentDedupingSink σ
  | .send call => final (send call.alert call.now (TelegramSink.send call.ended)) sink
  | .restart => { sink with sentCount := 0 }

def attempt (sink : PersistentDedupingSink σ) (call : AlertSend) : Attempt where
  key := sink.key call.alert
  severity := call.alert.severity
  instant := call.now
  fate := .of (value (send call.alert call.now (TelegramSink.send call.ended)) sink)

def attempts : PersistentDedupingSink σ → List SinkEvent → List Attempt
  | _, [] => []
  | sink, .send call :: events => sink.attempt call :: attempts (sink.next (.send call)) events
  | sink, .restart :: events => attempts (sink.next .restart) events

theorem attempts_append (sink : PersistentDedupingSink σ) (past future : List SinkEvent) :
    sink.attempts (past ++ future) = sink.attempts past ++ (Transition.run next sink past).attempts future := by
  induction past generalizing sink with
  | nil => rfl
  | cons event past ih =>
    cases event with
    | send call => exact congrArg (sink.attempt call :: ·) (ih _)
    | restart => exact ih _

variable {held : σ → String → Option AlertState} {sink start : PersistentDedupingSink σ} {past : List SinkEvent}

theorem next_send (reliable : AlertStateStore.Reliable held) (sink : PersistentDedupingSink σ) (call : AlertSend) :
    let before := stored held sink (sink.key call.alert)
    ∃ state sent, Leaves held sink (sink.next (.send call)) (sink.key call.alert) state sent ∧
      match (sink.attempt call).fate with
      | .delivered => before.suppresses sink.cooldown call.alert.severity call.now = false ∧
        state = ⟨some call.now, some call.alert.severity, .success⟩
      | .suppressed => before.suppresses sink.cooldown call.alert.severity call.now = true ∧
        state = { before with lastStatus := .skipped }
      | .failed => before.suppresses sink.cooldown call.alert.severity call.now = false ∧
        state = { before with lastStatus := .failed } := by
  intro before
  rcases send_cases reliable sink call.alert call.now (TelegramSink.send call.ended) with ⟨after, sent⟩
  have attempted : (sink.attempt call).fate =
    .of (value (send call.alert call.now (TelegramSink.send call.ended)) sink) := rfl
  have stepped : sink.next (.send call) = final (send call.alert call.now (TelegramSink.send call.ended)) sink := rfl
  rw [attempted, stepped]
  unfold value final
  by_cases suppressed : before.suppresses sink.cooldown call.alert.severity call.now = true
  · rw [if_pos suppressed] at sent
    rw [sent.1]
    exact ⟨_, _, sent.2, suppressed, rfl⟩
  · rw [if_neg suppressed] at sent
    have free := Bool.not_eq_true _ ▸ suppressed
    cases ended : call.ended with
    | ok _ =>
      rw [ended] at sent
      rw [sent.1]
      exact ⟨_, _, sent.2, free, rfl⟩
    | error e =>
      rw [ended] at sent
      rw [sent.1]
      exact ⟨_, _, sent.2, free, rfl⟩

structure Remembers (held : σ → String → Option AlertState) (sink : PersistentDedupingSink σ) (past : List Attempt) :
    Prop where
  sentAt : ∀ key, (stored held sink key).lastSentAt = (lastDelivered key past).map (·.instant)
  severity : ∀ key, (stored held sink key).lastSeverity = (lastDelivered key past).map (·.severity)

/-- A call respects the last successful delivery of its key: a further delivery within the cooldown is more severe, a
    more severe alert is not held back, and a call that delivers nothing neither starts a cooldown nor extends one. -/
structure Respects (held : σ → String → Option AlertState) (sink : PersistentDedupingSink σ) (cooldown : TimeDelta)
    (past : List Attempt) (call : AlertSend) : Prop where
  further : (sink.attempt call).fate = .delivered → ∀ last ∈ lastDelivered (sink.key call.alert) past,
    call.now - last.instant < cooldown → last.severity.rank < call.alert.severity.rank
  escalated : ∀ last ∈ lastDelivered (sink.key call.alert) past,
    last.severity.rank < call.alert.severity.rank → (sink.attempt call).fate ≠ .suppressed
  suppressed : (sink.attempt call).fate = .suppressed →
    ∃ last ∈ lastDelivered (sink.key call.alert) past, call.now - last.instant < cooldown
  unchanged : (sink.attempt call).fate ≠ .delivered → ∀ key,
    (stored held (sink.next (.send call)) key).lastSentAt = (stored held sink key).lastSentAt ∧
      (stored held (sink.next (.send call)) key).lastSeverity = (stored held sink key).lastSeverity

omit [AlertStateStore σ] in
theorem Leaves.stored_eq {sink' : PersistentDedupingSink σ} {key : String} {state : AlertState} {sent : Nat}
    (leaves : Leaves held sink sink' key state sent) (other : String) :
    stored held sink' other = if other = key then state else stored held sink other := by
  unfold stored
  rw [leaves.held]
  by_cases same : other = key
  · rw [same, Function.update_self, if_pos rfl]
    rfl
  · rw [Function.update_of_ne same, if_neg same]

theorem unchanged_of_fate (reliable : AlertStateStore.Reliable held) {call : AlertSend}
    (lost : (sink.attempt call).fate ≠ .delivered) (key : String) :
    (stored held (sink.next (.send call)) key).lastSentAt = (stored held sink key).lastSentAt ∧
      (stored held (sink.next (.send call)) key).lastSeverity = (stored held sink key).lastSeverity := by
  rcases next_send reliable sink call with ⟨state, sent, leaves, fate⟩
  rw [leaves.stored_eq]
  by_cases same : key = sink.key call.alert
  · rw [if_pos same, same]
    cases happened : (sink.attempt call).fate with
    | delivered => exact absurd happened lost
    | suppressed =>
      rw [happened] at fate
      rw [fate.2]
      exact ⟨rfl, rfl⟩
    | failed =>
      rw [happened] at fate
      rw [fate.2]
      exact ⟨rfl, rfl⟩
  · rw [if_neg same]
    exact ⟨rfl, rfl⟩

theorem Remembers.send {past : List Attempt} (reliable : AlertStateStore.Reliable held)
    (remembers : Remembers held sink past) (call : AlertSend) :
    Remembers held (sink.next (.send call)) (past ++ [sink.attempt call]) := by
  have both (key : String) : (stored held (sink.next (.send call)) key).lastSentAt =
        (lastDelivered key (past ++ [sink.attempt call])).map (·.instant) ∧
      (stored held (sink.next (.send call)) key).lastSeverity =
        (lastDelivered key (past ++ [sink.attempt call])).map (·.severity) := by
    rw [lastDelivered_append]
    by_cases delivered : (sink.attempt call).fate = .delivered
    · rcases next_send reliable sink call with ⟨state, sent, leaves, fate⟩
      rw [delivered] at fate
      rw [leaves.stored_eq, fate.2]
      by_cases same : key = sink.key call.alert
      · rw [if_pos same, if_pos ⟨same.symm, delivered⟩]
        exact ⟨rfl, rfl⟩
      · rw [if_neg same, if_neg fun also => same also.1.symm]
        exact ⟨remembers.sentAt key, remembers.severity key⟩
    · rw [if_neg fun also => delivered also.2]
      rcases unchanged_of_fate reliable delivered key with ⟨sentAt, severity⟩
      exact ⟨sentAt.trans (remembers.sentAt key), severity.trans (remembers.severity key)⟩
  exact ⟨fun key => (both key).1, fun key => (both key).2⟩

theorem remembers_run (reliable : AlertStateStore.Reliable held) (fresh : ∀ key, held start.store key = none)
    (events : List SinkEvent) : Remembers held (Transition.run next start events) (start.attempts events) := by
  induction events using List.reverseRecOn with
  | nil =>
    have nothing (key : String) : stored held start key = .never := by
      unfold stored
      rw [fresh]
      rfl
    exact ⟨fun key => congrArg AlertState.lastSentAt (nothing key),
      fun key => congrArg AlertState.lastSeverity (nothing key)⟩
  | append_singleton events event ih =>
    rw [Transition.run_append, attempts_append]
    cases event with
    | send call => exact ih.send reliable call
    | restart =>
      have none : attempts (Transition.run next start events) [.restart] = [] := rfl
      rw [none, List.append_nil]
      exact ⟨ih.sentAt, ih.severity⟩

theorem run_cooldown (reliable : AlertStateStore.Reliable held) (start : PersistentDedupingSink σ)
    (events : List SinkEvent) : (Transition.run next start events).cooldown = start.cooldown := by
  have step (sink : PersistentDedupingSink σ) (event : SinkEvent) (kept : sink.cooldown = start.cooldown) :
      (sink.next event).cooldown = start.cooldown := by
    cases event with
    | send call =>
      rcases next_send reliable sink call with ⟨state, sent, leaves, -⟩
      exact leaves.cooldown.trans kept
    | restart => exact kept
  exact Transition.run_invariant step rfl events

theorem respects_of_remembers {past : List Attempt} {cooldown : TimeDelta} (reliable : AlertStateStore.Reliable held)
    (representable : TimeDelta.fromStd sink.cooldown = some cooldown) (remembers : Remembers held sink past)
    (call : AlertSend) : Respects held sink cooldown past call := by
  have decision : (stored held sink (sink.key call.alert)).suppresses sink.cooldown call.alert.severity call.now =
      ((lastDelivered (sink.key call.alert) past).any fun last => decide (call.now - last.instant < cooldown) &&
        !decide (last.severity.rank < call.alert.severity.rank)) := by
    unfold AlertState.suppresses AlertState.inCooldown AlertState.escalated
    rw [remembers.sentAt, remembers.severity, representable]
    cases lastDelivered (sink.key call.alert) past <;> rfl
  rcases next_send reliable sink call with ⟨state, sent, leaves, fate⟩
  rw [decision] at fate
  have heldBack : (sink.attempt call).fate = .suppressed → ∃ last ∈ lastDelivered (sink.key call.alert) past,
      call.now - last.instant < cooldown ∧ ¬last.severity.rank < call.alert.severity.rank := fun suppressed => by
    rw [suppressed] at fate
    have both := fate.1
    cases found : lastDelivered (sink.key call.alert) past with
    | none =>
      rw [found] at both
      cases both
    | some last =>
      rw [found, Option.any_some] at both
      simp only [Bool.and_eq_true, Bool.not_eq_true', decide_eq_true_eq, decide_eq_false_iff_not] at both
      exact ⟨last, rfl, both⟩
  refine ⟨fun delivered last found within => ?_, fun last found more suppressed => ?_, fun suppressed => ?_,
    unchanged_of_fate reliable⟩
  · rw [delivered, Option.mem_def.mp found] at fate
    have free := fate.1
    simp only [Option.any_some, within, decide_true, Bool.true_and, Bool.not_eq_false', decide_eq_true_eq] at free
    exact free
  · rcases heldBack suppressed with ⟨last', found', -, notMore⟩
    rw [Option.mem_unique found found'] at more
    exact notMore more
  · rcases heldBack suppressed with ⟨last, found, within, -⟩
    exact ⟨last, found, within⟩

/-- After every run of calls and restarts over a store that does not fail, the store remembers the last successful
    delivery of every key, and every next call respects it. -/
theorem alert_cooldowns {cooldown : TimeDelta} (reliable : AlertStateStore.Reliable held)
    (representable : TimeDelta.fromStd start.cooldown = some cooldown) (fresh : ∀ key, held start.store key = none)
    (past : List SinkEvent) :
    Remembers held (Transition.run next start past) (start.attempts past) ∧
      ∀ call, Respects held (Transition.run next start past) cooldown (start.attempts past) call := by
  have remembers := remembers_run reliable fresh past
  have same := run_cooldown reliable start past
  exact ⟨remembers, respects_of_remembers reliable (by rw [same]; exact representable) remembers⟩

/-- A delivered alert, a lost one and a restart, over an empty memory store. -/
theorem alert_cooldowns_in_memory :
    let start : PersistentDedupingSink MemoryStorage := { store := .new, cooldown := 60 * 1000000000 }
    let alert : Alert := ⟨"key", .warning, "title", "message", 0⟩
    let past := [SinkEvent.send ⟨alert, 0, .ok ()⟩, .send ⟨{ alert with severity := .critical }, 1, .error (.sink "down")⟩,
      .restart]
    Remembers (fun s key => s.alertState.lookup key) (Transition.run next start past) (start.attempts past) ∧
      ∀ call, Respects (fun s key => s.alertState.lookup key) (Transition.run next start past) (60 * 1000000000)
        (start.attempts past) call := by
  intro start alert past
  exact alert_cooldowns MemoryStorage.reliable (by decide) (fun _ => rfl) past

end PersistentDedupingSink

end Rieko
