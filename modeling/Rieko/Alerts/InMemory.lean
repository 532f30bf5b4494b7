import Rieko.Alerts.Cooldown

namespace Rieko

open StatefulResult

/-- The cooldown guard of one process. It keeps the time of the last delivery of every key, and no severity. -/
structure DedupingSink where
  cooldown : StdDuration
  lastSent : HashMap DateTime := ∅
  sentCount : Nat := 0

namespace DedupingSink

def elapsed (last now : DateTime) : StdDuration := (now - last).toNat

def heldBack (sink : DedupingSink) (key : String) (now : DateTime) : Bool :=
  (sink.lastSent.lookup key).any fun last => decide (elapsed last now < sink.cooldown)

def send (alert : Alert) (now sentAt : DateTime) (inner : Except AlertError DeliveryOutcome) :
    EStateM AlertError DedupingSink DeliveryOutcome := fun sink =>
  if sink.heldBack alert.dedupKey now then .ok .suppressed sink
  else match inner with
    | .ok _ => .ok .delivered { sink with
      lastSent := sink.lastSent.insert alert.dedupKey sentAt, sentCount := sink.sentCount + 1 }
    | .error e => .error e sink

def next (sink : DedupingSink) (call : AlertSend) : DedupingSink :=
  final (send call.alert call.now call.now (TelegramSink.send call.ended)) sink

def attempt (sink : DedupingSink) (call : AlertSend) : Attempt where
  key := call.alert.dedupKey
  severity := call.alert.severity
  instant := call.now
  fate := .of (value (send call.alert call.now call.now (TelegramSink.send call.ended)) sink)

def attempts : DedupingSink → List AlertSend → List Attempt
  | _, [] => []
  | sink, call :: calls => sink.attempt call :: attempts (sink.next call) calls

variable {sink : DedupingSink} {call : AlertSend}

theorem attempts_append (sink : DedupingSink) (past : List AlertSend) (call : AlertSend) :
    sink.attempts (past ++ [call]) = sink.attempts past ++ [(Transition.run next sink past).attempt call] := by
  induction past generalizing sink with
  | nil => rfl
  | cons first past ih => exact congrArg (sink.attempt first :: ·) (ih (sink.next first))

theorem next_cooldown (sink : DedupingSink) (call : AlertSend) : (sink.next call).cooldown = sink.cooldown := by
  simp only [next, final, send]
  cases sink.heldBack call.alert.dedupKey call.now with
  | true => rfl
  | false => cases call.ended <;> rfl

theorem fate_eq (sink : DedupingSink) (call : AlertSend) : (sink.attempt call).fate =
    if sink.heldBack call.alert.dedupKey call.now then .suppressed
    else if call.ended.isOk then .delivered else .failed := by
  simp only [attempt, value, send]
  cases sink.heldBack call.alert.dedupKey call.now with
  | true => rfl
  | false => cases call.ended <;> rfl

theorem next_lastSent (sink : DedupingSink) (call : AlertSend) : (sink.next call).lastSent =
    if (sink.attempt call).fate = .delivered then sink.lastSent.insert call.alert.dedupKey call.now
    else sink.lastSent := by
  rw [fate_eq]
  simp only [next, final, send]
  cases sink.heldBack call.alert.dedupKey call.now with
  | true => rfl
  | false => cases call.ended <;> rfl

end DedupingSink

namespace PersistentDedupingSink

variable {σ : Type} [AlertStateStore σ] {held : σ → String → Option AlertState}

theorem fate_eq (reliable : AlertStateStore.Reliable held) (sink : PersistentDedupingSink σ) (call : AlertSend) :
    (sink.attempt call).fate =
      if (stored held sink (sink.key call.alert)).suppresses sink.cooldown call.alert.severity call.now then .suppressed
      else if call.ended.isOk then .delivered else .failed := by
  rcases send_cases reliable sink call.alert call.now (TelegramSink.send call.ended) with ⟨after, sent⟩
  simp only [attempt, value]
  split at sent
  next suppressed => rw [sent.1, if_pos suppressed]; rfl
  next free =>
    rw [if_neg free]
    cases ended : call.ended with
    | ok u => rw [ended] at sent; rw [sent.1]; rfl
    | error e => rw [ended] at sent; rw [sent.1]; rfl

end PersistentDedupingSink

section Agreement

open PersistentDedupingSink

variable {σ : Type} {held : σ → String → Option AlertState} {sink : PersistentDedupingSink σ}
  {memory : DedupingSink} {past : List Attempt} {call : AlertSend}

/-- The call falls within the cooldown of the last delivery of its key, and it is more severe than that delivery or the
    cooldown is one that chrono does not represent, which the persistent sink takes for none. -/
def Overrides (cooldown : StdDuration) (past : List Attempt) (call : AlertSend) : Prop :=
  ∃ last ∈ lastDelivered call.alert.dedupKey past, call.now - last.instant < (cooldown : Int) ∧
    (TimeDelta.fromStd cooldown = none ∨ last.severity.rank < call.alert.severity.rank)

structure RememberAlike (held : σ → String → Option AlertState) (sink : PersistentDedupingSink σ)
    (memory : DedupingSink)
    (past : List Attempt) : Prop where
  cooldown : sink.cooldown = memory.cooldown
  sentAt : ∀ alert, (stored held sink (sink.key alert)).lastSentAt = (lastDelivered alert.dedupKey past).map (·.instant)
  severity : ∀ alert, (stored held sink (sink.key alert)).lastSeverity =
    (lastDelivered alert.dedupKey past).map (·.severity)
  lastSent : ∀ key, memory.lastSent.lookup key = (lastDelivered key past).map (·.instant)

namespace RememberAlike

theorem heldBack_eq (alike : RememberAlike held sink memory past)
    (forward : ∀ last ∈ lastDelivered call.alert.dedupKey past, last.instant ≤ call.now) :
    memory.heldBack call.alert.dedupKey call.now = (lastDelivered call.alert.dedupKey past).any fun last =>
      decide (call.now - last.instant < (memory.cooldown : Int)) := by
  simp only [DedupingSink.heldBack, alike.lastSent]
  cases found : lastDelivered call.alert.dedupKey past with
  | none => rfl
  | some last =>
    have nonneg : 0 ≤ call.now - last.instant := Int.sub_nonneg_of_le (forward last found)
    simp only [Option.map_some, Option.any_some, DedupingSink.elapsed]
    apply decide_eq_decide.mpr
    generalize call.now - last.instant = span at nonneg ⊢
    exact Int.toNat_lt nonneg

theorem suppresses_eq (alike : RememberAlike held sink memory past)
    (forward : ∀ last ∈ lastDelivered call.alert.dedupKey past, last.instant ≤ call.now) :
    (stored held sink (sink.key call.alert)).suppresses sink.cooldown call.alert.severity call.now =
      (lastDelivered call.alert.dedupKey past).any fun last =>
        decide (call.now - last.instant < (memory.cooldown : Int)) &&
          !decide (TimeDelta.fromStd memory.cooldown = none ∨ last.severity.rank < call.alert.severity.rank) := by
  simp only [AlertState.suppresses, AlertState.inCooldown, AlertState.escalated, alike.sentAt, alike.severity,
    alike.cooldown]
  cases found : lastDelivered call.alert.dedupKey past with
  | none => rfl
  | some last =>
    cases span : TimeDelta.fromStd memory.cooldown with
    | none =>
      have passed : ¬call.now < last.instant := Int.not_lt.mpr (forward last found)
      simp [passed]
    | some cooldown =>
      rw [TimeDelta.fromStd_eq span]
      simp

variable [AlertStateStore σ]

theorem step (reliable : AlertStateStore.Reliable held) (alike : RememberAlike held sink memory past)
    (forward : ∀ last ∈ lastDelivered call.alert.dedupKey past, last.instant ≤ call.now)
    (calm : ¬Overrides memory.cooldown past call) :
    (sink.attempt call).fate = (memory.attempt call).fate ∧
      RememberAlike held (sink.next (.send call)) (memory.next call) (past ++ [memory.attempt call]) := by
  have decided : (stored held sink (sink.key call.alert)).suppresses sink.cooldown call.alert.severity call.now =
      memory.heldBack call.alert.dedupKey call.now := by
    rw [alike.suppresses_eq forward, alike.heldBack_eq forward]
    cases found : lastDelivered call.alert.dedupKey past with
    | none => rfl
    | some last =>
      have notMore : call.now - last.instant < (memory.cooldown : Int) → ¬(TimeDelta.fromStd memory.cooldown = none ∨
          last.severity.rank < call.alert.severity.rank) := fun within more => calm ⟨last, found, within, more⟩
      by_cases within : call.now - last.instant < (memory.cooldown : Int)
      · rw [Option.any_some, Option.any_some, decide_eq_false (notMore within)]
        exact Bool.and_true _
      · simp [within]
  have fates : (sink.attempt call).fate = (memory.attempt call).fate := by
    rw [fate_eq reliable, DedupingSink.fate_eq, decided]
  obtain ⟨state, sent, leaves, fate⟩ := next_send reliable sink call
  have keyed (alert : Alert) : (sink.next (.send call)).key alert = sink.key alert := by
    simp only [key, leaves.sinkId]
  have delivers (key : String) := lastDelivered_append key past (memory.attempt call)
  have entered : (memory.attempt call).key = call.alert.dedupKey := rfl
  have both (alert : Alert) : (stored held (sink.next (.send call)) (sink.key alert)).lastSentAt =
        (lastDelivered alert.dedupKey (past ++ [memory.attempt call])).map (·.instant) ∧
      (stored held (sink.next (.send call)) (sink.key alert)).lastSeverity =
        (lastDelivered alert.dedupKey (past ++ [memory.attempt call])).map (·.severity) := by
    rw [delivers, entered]
    by_cases delivered : (sink.attempt call).fate = .delivered
    · rw [delivered] at fate
      rw [leaves.stored_eq, fate.2]
      by_cases same : alert.dedupKey = call.alert.dedupKey
      · rw [if_pos (key_inj.mpr same), if_pos ⟨same.symm, fates ▸ delivered⟩]
        exact ⟨rfl, rfl⟩
      · rw [if_neg fun also => same (key_inj.mp also), if_neg fun also => same also.1.symm]
        exact ⟨alike.sentAt alert, alike.severity alert⟩
    · rw [if_neg fun also => delivered (fates.trans also.2)]
      obtain ⟨sentAt, severity⟩ := unchanged_of_fate reliable delivered (sink.key alert)
      exact ⟨sentAt.trans (alike.sentAt alert), severity.trans (alike.severity alert)⟩
  refine ⟨fates, leaves.cooldown.trans (alike.cooldown.trans (DedupingSink.next_cooldown memory call).symm),
    fun alert => ?_, fun alert => ?_, ?_⟩
  · rw [keyed]
    exact (both alert).1
  · rw [keyed]
    exact (both alert).2
  · intro key
    rw [DedupingSink.next_lastSent, delivers, entered]
    by_cases delivered : (memory.attempt call).fate = .delivered
    · by_cases same : call.alert.dedupKey = key
      · rw [if_pos delivered, if_pos ⟨same, delivered⟩, same, AList.lookup_insert]
        rfl
      · rw [if_pos delivered, if_neg fun also => same also.1, AList.lookup_insert_ne (Ne.symm same)]
        exact alike.lastSent key
    · rw [if_neg delivered, if_neg fun also => delivered also.2]
      exact alike.lastSent key

theorem override (reliable : AlertStateStore.Reliable held) (alike : RememberAlike held sink memory past)
    (forward : ∀ last ∈ lastDelivered call.alert.dedupKey past, last.instant ≤ call.now)
    (overrides : Overrides memory.cooldown past call) :
    (sink.attempt call).fate ≠ .suppressed ∧ (memory.attempt call).fate = .suppressed := by
  obtain ⟨last, found, within, more⟩ := overrides
  have found_eq : lastDelivered call.alert.dedupKey past = some last := found
  have free : (stored held sink (sink.key call.alert)).suppresses _ _ _ = _ := alike.suppresses_eq forward
  have back := alike.heldBack_eq forward
  rw [found_eq] at free back
  simp only [Option.any_some, within, more, decide_true, Bool.not_true, Bool.and_false] at free back
  rw [fate_eq reliable, DedupingSink.fate_eq, free, back]
  cases call.ended.isOk <;> simp

end RememberAlike

/-- No call of the sequence overrides a cooldown, by what the sink of one process delivered before it. -/
def Undisputed (memory : DedupingSink) (calls : List AlertSend) : Prop :=
  ∀ past call future, calls = past ++ call :: future → ¬Overrides memory.cooldown (memory.attempts past) call

def Attempt.forwarded (attempt : Attempt) : Bool := attempt.fate ≠ .suppressed

theorem undisputed_append {memory : DedupingSink} {calls : List AlertSend} {call : AlertSend} :
    Undisputed memory (calls ++ [call]) ↔
      Undisputed memory calls ∧ ¬Overrides memory.cooldown (memory.attempts calls) call := by
  constructor
  · intro calm
    refine ⟨fun past other future split => ?_, calm calls call [] rfl⟩
    exact calm past other (future ++ [call]) (by rw [split, List.append_assoc, List.cons_append])
  · rintro ⟨calm, last⟩ past other future split
    rcases List.eq_nil_or_concat' future with rfl | ⟨future, ending, rfl⟩
    · obtain ⟨rfl, same⟩ := List.append_inj' split rfl
      cases same
      exact last
    · have regrouped : calls ++ [call] = (past ++ other :: future) ++ [ending] := by rw [split]; simp
      have shorter : calls = past ++ other :: future := (List.append_inj' regrouped rfl).1
      exact calm past other future shorter

variable [AlertStateStore σ]

theorem mem_attempts_instant {calls : List AlertSend} {attempt : Attempt} (memory : DedupingSink)
    (member : attempt ∈ memory.attempts calls) : ∃ call ∈ calls, attempt.instant = call.now := by
  induction calls generalizing memory with
  | nil => cases member
  | cons first calls ih =>
    rcases List.mem_cons.mp member with rfl | member
    · exact ⟨first, List.mem_cons_self, rfl⟩
    · obtain ⟨call, listed, same⟩ := ih (memory.next first) member
      exact ⟨call, List.mem_cons_of_mem _ listed, same⟩

theorem lastDelivered_instant_le {calls : List AlertSend} {call : AlertSend} (memory : DedupingSink)
    (clock : (calls ++ [call]).Pairwise fun a b => a.now ≤ b.now) {key : String} :
    ∀ last ∈ lastDelivered key (memory.attempts calls), last.instant ≤ call.now := by
  intro last found
  have member : last ∈ memory.attempts calls := (List.mem_filter.mp (List.mem_of_getLast? found)).1
  obtain ⟨earlier, listed, same⟩ := mem_attempts_instant memory member
  rw [same]
  exact (List.pairwise_append.mp clock).2.2 earlier listed call (List.mem_singleton_self call)

theorem rememberAlike_run (reliable : AlertStateStore.Reliable held) {start : PersistentDedupingSink σ}
    (fresh : ∀ key, held start.store key = none) {calls : List AlertSend}
    (clock : calls.Pairwise fun a b => a.now ≤ b.now) (calm : Undisputed { cooldown := start.cooldown } calls) :
    (start.attempts (calls.map .send)).map (·.fate) =
        (DedupingSink.attempts { cooldown := start.cooldown } calls).map (·.fate) ∧
      RememberAlike held (Transition.run next start (calls.map .send))
        (Transition.run DedupingSink.next { cooldown := start.cooldown } calls)
        (DedupingSink.attempts { cooldown := start.cooldown } calls) := by
  induction calls using List.reverseRec with
  | nil =>
    have nothing (key : String) : stored held start key = .never := by
      simp only [stored, fresh]
      rfl
    exact ⟨rfl, rfl, fun alert => congrArg AlertState.lastSentAt (nothing _),
      fun alert => congrArg AlertState.lastSeverity (nothing _), fun key => rfl⟩
  | append_singleton calls call ih =>
    obtain ⟨calm, last⟩ := undisputed_append.mp calm
    obtain ⟨fates, alike⟩ := ih (List.pairwise_append.mp clock).1 calm
    have cooldown := run_cooldown reliable start (calls.map .send)
    have kept := alike.cooldown
    rw [cooldown] at kept
    have stepped := alike.step reliable (lastDelivered_instant_le _ clock) (by rw [← kept]; exact last)
    rw [List.map_append, List.map_singleton, attempts_append, DedupingSink.attempts_append, Transition.run_append,
      Transition.run_append, List.map_append, List.map_append, fates]
    exact ⟨congrArg (_ ++ [·]) stepped.1, stepped.2⟩

/-- The two sinks forward the same alerts exactly where none overrides a cooldown. The persistent sink forwards the first
    one that does, and the sink of one process holds it back. -/
theorem sinks_agree_iff (reliable : AlertStateStore.Reliable held) {start : PersistentDedupingSink σ}
    {calls : List AlertSend} (fresh : ∀ key, held start.store key = none)
    (clock : calls.Pairwise fun a b => a.now ≤ b.now) :
    let memory : DedupingSink := { cooldown := start.cooldown }
    ((start.attempts (calls.map .send)).map (·.forwarded) = (memory.attempts calls).map (·.forwarded) ↔
      Undisputed memory calls) ∧
    ∀ past call future, calls = past ++ call :: future → Undisputed memory past →
      Overrides start.cooldown (memory.attempts past) call →
      ((Transition.run next start (past.map .send)).attempt call).forwarded = true ∧
        ((Transition.run DedupingSink.next memory past).attempt call).forwarded = false := by
  intro memory
  have splits {past : List AlertSend} {call : AlertSend} (clock : (past ++ [call]).Pairwise fun a b => a.now ≤ b.now)
      (calm : Undisputed memory past) (overrides : Overrides start.cooldown (memory.attempts past) call) :
      ((Transition.run next start (past.map .send)).attempt call).forwarded = true ∧
        ((Transition.run DedupingSink.next memory past).attempt call).forwarded = false := by
    have alike := (rememberAlike_run reliable fresh (List.pairwise_append.mp clock).1 calm).2
    have cooldown := run_cooldown reliable start (past.map .send)
    have kept := alike.cooldown
    rw [cooldown] at kept
    have fates := alike.override reliable (lastDelivered_instant_le _ clock) (by rw [← kept]; exact overrides)
    simp only [Attempt.forwarded]
    exact ⟨decide_eq_true fates.1, decide_eq_false (not_not_intro fates.2)⟩
  refine ⟨⟨fun agree => ?_, fun calm => ?_⟩, fun past call future split calm overrides => ?_⟩
  · induction calls using List.reverseRec with
    | nil =>
      intro past call future split
      cases past <;> cases split
    | append_singleton calls call ih =>
      rw [List.map_append, List.map_singleton, attempts_append, DedupingSink.attempts_append, List.map_append,
        List.map_append] at agree
      obtain ⟨prior, last⟩ := List.append_inj' agree rfl
      have calm := ih (List.pairwise_append.mp clock).1 prior
      refine undisputed_append.mpr ⟨calm, fun overrides => ?_⟩
      obtain ⟨sent, kept⟩ := splits clock calm overrides
      have same : ((Transition.run next start (calls.map .send)).attempt call).forwarded =
          ((Transition.run DedupingSink.next memory calls).attempt call).forwarded := (List.cons.inj last).1
      rw [sent, kept] at same
      cases same
  · have fates := (rememberAlike_run reliable fresh clock calm).1
    have forwards (attempts : List Attempt) : attempts.map (·.forwarded) =
        (attempts.map (·.fate)).map fun fate => decide (fate ≠ .suppressed) := by
      rw [List.map_map]
      rfl
    rw [forwards, forwards, fates]
  · have ordered : (past ++ [call]).Pairwise fun a b => a.now ≤ b.now := by
      rw [split, ← List.singleton_append, ← List.append_assoc] at clock
      exact (List.pairwise_append.mp clock).1
    exact splits ordered calm overrides

end Agreement

/-- An alert, a lost one of another key, and repeats before and at the end of the cooldown. -/
theorem sinks_agree_iff_repeat :
    let memory : DedupingSink := { cooldown := 60 * 1000000000 }
    let alert : Alert := ⟨"key", .warning, "title", "message", 0⟩
    Undisputed memory [⟨alert, 0, .ok ()⟩, ⟨{ alert with dedupKey := "other" }, 1, .error (.sink "down")⟩,
      ⟨alert, 59999999999, .ok ()⟩, ⟨alert, 60000000000, .ok ()⟩] := by
  intro memory alert
  let start : PersistentDedupingSink MemoryStorage := { store := .new, cooldown := 60 * 1000000000 }
  have fresh (key : String) : start.store.alertState.lookup key = none := rfl
  exact (sinks_agree_iff MemoryStorage.reliable fresh (by decide)).1.mp (by decide)

/-- A critical alert a nanosecond after a warning of its key. -/
theorem escalation_held_back :
    let start : PersistentDedupingSink MemoryStorage := { store := .new, cooldown := 60 * 1000000000 }
    let memory : DedupingSink := { cooldown := 60 * 1000000000 }
    let alert : Alert := ⟨"key", .warning, "title", "message", 0⟩
    let calls : List AlertSend := [⟨alert, 0, .ok ()⟩, ⟨{ alert with severity := .critical }, 1, .ok ()⟩]
    (start.attempts (calls.map .send)).map (·.forwarded) = [true, true] ∧
      (memory.attempts calls).map (·.forwarded) = [true, false] := by
  decide

end Rieko
