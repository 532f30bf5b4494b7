import Rieko.Alerts.Sink

namespace Rieko

open StatefulResult Backoff

namespace TelegramSink

structure RetryPolicy where
  maxAttempts : Nat := 3
  baseBackoff : StdDuration := 500000000
deriving DecidableEq, Repr

def withRetry (maxAttempts : Nat) (baseBackoff : StdDuration) : RetryPolicy := ⟨max maxAttempts 1, baseBackoff⟩

theorem withRetry_some (maxAttempts : Nat) (baseBackoff : StdDuration) :
    0 < (withRetry maxAttempts baseBackoff).maxAttempts :=
  Nat.lt_of_lt_of_le Nat.one_pos (Nat.le_max_right _ _)

inductive AttemptOutcome where
  | retry (message : String)
  | permanent (message : String)
deriving DecidableEq, Repr

structure TransportError where
  isTimeout : Bool
  isConnect : Bool
  isRequest : Bool
deriving DecidableEq, Repr

structure Response where
  status : Nat
  statusText : String
  body : Option Json

def sanitize (e : TransportError) : String :=
  if e.isTimeout then "request timed out"
  else if e.isConnect then "connection failed"
  else if e.isRequest then "request construction failed"
  else "unreachable or protocol error"

def sendOnce : Except TransportError Response → Except AttemptOutcome Unit
  | .error e => .error (.retry s!"telegram transport error: {sanitize e}")
  | .ok resp =>
    if 500 ≤ resp.status ∧ resp.status < 600 then .error (.retry s!"telegram returned {resp.statusText}")
    else if ¬ (200 ≤ resp.status ∧ resp.status < 300) then
      .error (.permanent s!"telegram returned {resp.statusText}")
    else
      match resp.body with
      | some body =>
        if (body.get "ok").bind Json.asBool = some true then .ok ()
        else .error (.permanent "telegram responded without ok=true")
      | none => .error (.permanent "telegram returned a non-JSON response")

inductive SendFailure where
  | alert (error : AlertError)
  | panicked (message : String)
deriving DecidableEq, Repr

structure SendLog where
  attempts : Nat := 0
  shifts : List Nat := []
  sleeps : List StdDuration := []
deriving DecidableEq, Repr

abbrev SendM := EStateM SendFailure SendLog

/-- A shift by the width of the word or more counts modulo the width. -/
def factor (shift : Nat) : Nat := min (2^(shift % 32)) (2^30)

/-- The delay after an attempt. Only a build that checks for overflow panics at the shift. -/
def backoff (checked : Bool) (policy : RetryPolicy) (attempt : Nat) : SendM StdDuration := fun log =>
  let shift := attempt - 1
  let log := { log with shifts := log.shifts ++ [shift] }
  if checked = true ∧ 32 ≤ shift then .error (.panicked "attempt to shift left with overflow") log
  else
    match policy.baseBackoff.checkedMul (factor shift) with
    | none => .error (.panicked "overflow when multiplying duration by scalar") log
    | some delay => .ok delay log

def sleep (delay : StdDuration) : SendM Unit := modify fun log => { log with sleeps := log.sleeps ++ [delay] }

def sendAttempts (checked : Bool) (policy : RetryPolicy) (outcomes : Nat → Except AttemptOutcome Unit)
    (made : Nat) : SendM Unit := do
  let attempt := made + 1
  modify fun log => { log with attempts := log.attempts + 1 }
  match outcomes made with
  | .ok () => return
  | .error (.permanent message) => throw (.alert (.sink message))
  | .error (.retry message) =>
    if policy.maxAttempts ≤ attempt then throw (.alert (.sink s!"{message} (after {attempt} attempts)"))
    else
      let delay ← backoff checked policy attempt
      sleep delay
      sendAttempts checked policy outcomes attempt
termination_by policy.maxAttempts - made

def sendWithRetry (checked : Bool) (policy : RetryPolicy) (outcomes : Nat → Except AttemptOutcome Unit) :
    SendM Unit :=
  sendAttempts checked policy outcomes 0

def isRetry : Except AttemptOutcome Unit → Bool
  | .error (.retry _) => true
  | _ => false

def retries (outcomes : Nat → Except AttemptOutcome Unit) (i : Nat) : Bool := isRetry (outcomes i)

theorem sendOnce_isRetry (exchange : Except TransportError Response) : isRetry (sendOnce exchange) = true ↔
    ∀ resp, exchange = .ok resp → 500 ≤ resp.status ∧ resp.status < 600 := by
  cases exchange with
  | error e => exact iff_of_true rfl fun resp same => by cases same
  | ok resp =>
    simp only [Except.ok.injEq, forall_eq']
    by_cases server : 500 ≤ resp.status ∧ resp.status < 600
    · rw [sendOnce, if_pos server]
      exact iff_of_true rfl server
    · rw [sendOnce, if_neg server]
      refine iff_of_false ?_ server
      split
      · exact Bool.false_ne_true
      · split
        · split <;> exact Bool.false_ne_true
        · exact Bool.false_ne_true

def answer (attempt : Nat) : Except AttemptOutcome Unit → Except SendFailure Unit
  | .ok () => .ok ()
  | .error (.permanent message) => .error (.alert (.sink message))
  | .error (.retry message) => .error (.alert (.sink s!"{message} (after {attempt} attempts)"))

/-- A shift within the word, and a product that the standard library represents. -/
def Safe (policy : RetryPolicy) (shift : Nat) : Prop :=
  shift < 32 ∧ policy.baseBackoff * factor shift < StdDuration.limit

section Runs

variable {checked : Bool} {policy : RetryPolicy} {outcomes : Nat → Except AttemptOutcome Unit} {made : Nat}
  {log : SendLog}

def SendLog.tried (log : SendLog) : SendLog := { log with attempts := log.attempts + 1 }

theorem count_tried (log : SendLog) :
    (modify fun log => { log with attempts := log.attempts + 1 } : SendM PUnit) log = .ok ⟨⟩ log.tried := rfl

theorem sendAttempts_last (checked : Bool) (log : SendLog)
    (last : made + 1 < policy.maxAttempts → retries outcomes made = false) :
    final (sendAttempts checked policy outcomes made) log = log.tried ∧
      value (sendAttempts checked policy outcomes made) log = answer (made + 1) (outcomes made) := by
  unfold sendAttempts final value
  rw [bind_of_ok (count_tried log)]
  cases outcome : outcomes made with
  | ok u => exact ⟨rfl, rfl⟩
  | error e =>
    cases e with
    | permanent message => exact ⟨rfl, rfl⟩
    | retry message =>
      have reached : policy.maxAttempts ≤ made + 1 := by
        by_contra early
        have stopped := last (by omega)
        rw [retries, outcome] at stopped
        cases stopped
      dsimp only
      rw [if_pos reached]
      exact ⟨rfl, rfl⟩

def SendLog.delayed (log : SendLog) (shift : Nat) (sleeps : List StdDuration) : SendLog where
  attempts := log.attempts + 1
  shifts := log.shifts ++ [shift]
  sleeps := log.sleeps ++ sleeps

theorem backoff_cases (checked : Bool) (policy : RetryPolicy) (made : Nat) (log : SendLog) :
    (¬ Safe policy made ∧ ∃ message, backoff checked policy (made + 1) log =
      .error (.panicked message) { log with shifts := log.shifts ++ [made] }) ∨
    ∃ delay, backoff checked policy (made + 1) log = .ok delay { log with shifts := log.shifts ++ [made] } := by
  unfold backoff StdDuration.checkedMul checkedMul
  dsimp only
  rw [Nat.add_sub_cancel]
  by_cases leaves : checked = true ∧ 32 ≤ made
  · rw [if_pos leaves]
    exact .inl ⟨fun safe => absurd leaves.2 (Nat.not_le.mpr safe.1), _, rfl⟩
  · rw [if_neg leaves]
    by_cases fits : policy.baseBackoff * factor made < StdDuration.limit
    · rw [if_pos fits]
      exact .inr ⟨_, rfl⟩
    · rw [if_neg fits]
      exact .inl ⟨fun safe => fits safe.2, _, rfl⟩

theorem sendAttempts_retried (checked : Bool) (log : SendLog) (again : made + 1 < policy.maxAttempts)
    (retried : retries outcomes made = true) :
    (¬ Safe policy made ∧ final (sendAttempts checked policy outcomes made) log = log.delayed made []) ∨
      ∃ delay, sendAttempts checked policy outcomes made log =
        sendAttempts checked policy outcomes (made + 1) (log.delayed made [delay]) := by
  rw [sendAttempts, final, bind_of_ok (count_tried log)]
  cases outcome : outcomes made with
  | ok u =>
    rw [retries, outcome] at retried
    cases retried
  | error e =>
    cases e with
    | permanent message =>
      rw [retries, outcome] at retried
      cases retried
    | retry message =>
      dsimp only
      rw [if_neg (Nat.not_le.mpr again)]
      rcases backoff_cases checked policy made log.tried with ⟨overflow, message, panics⟩ | ⟨delay, delayed⟩
      · rw [bind_of_error panics]
        refine .inl ⟨overflow, ?_⟩
        simp [SendLog.tried, SendLog.delayed]
      · rw [bind_of_ok delayed]
        exact .inr ⟨delay, rfl⟩

inductive Last (policy : RetryPolicy) (outcomes : Nat → Except AttemptOutcome Unit) (k : Nat) (log : SendLog)
    (result : Except SendFailure Unit) : Prop
  | answered (stops : k + 1 < policy.maxAttempts → retries outcomes k = false) (attempts : log.attempts = k + 1)
    (result : result = answer (k + 1) (outcomes k))
  | panicked (allowed : 0 < k) (attempts : log.attempts = k) (overflow : ¬ Safe policy (k - 1))

structure Ended (policy : RetryPolicy) (outcomes : Nat → Except AttemptOutcome Unit) (k : Nat) (log : SendLog)
    (result : Except SendFailure Unit) : Prop where
  within : k < policy.maxAttempts
  retried : ∀ i < k, retries outcomes i = true
  shifts : log.shifts = List.range k
  last : Last policy outcomes k log result

theorem ended_of_stops (within : made < policy.maxAttempts)
    (stops : made + 1 < policy.maxAttempts → retries outcomes made = false)
    (before : ∀ i < made, retries outcomes i = true) (attempts : log.attempts = made)
    (shifts : log.shifts = List.range made) :
    Ended policy outcomes made (final (sendAttempts checked policy outcomes made) log)
      (value (sendAttempts checked policy outcomes made) log) := by
  obtain ⟨tried, answered⟩ := sendAttempts_last checked log stops
  rw [tried, answered]
  exact ⟨within, before, shifts, .answered stops (congrArg (· + 1) attempts) rfl⟩

theorem sendAttempts_ended (left : Nat) (total : made + (left + 1) = policy.maxAttempts)
    (before : ∀ i < made, retries outcomes i = true) (attempts : log.attempts = made)
    (shifts : log.shifts = List.range made) :
    ∃ k, Ended policy outcomes k (final (sendAttempts checked policy outcomes made) log)
      (value (sendAttempts checked policy outcomes made) log) := by
  induction left generalizing made log with
  | zero => exact ⟨made, ended_of_stops (by omega) (by omega) before attempts shifts⟩
  | succ left ih =>
    cases retried : retries outcomes made with
    | false => exact ⟨made, ended_of_stops (by omega) (fun _ => retried) before attempts shifts⟩
    | true =>
      have again : made + 1 < policy.maxAttempts := by omega
      have before' (i : Nat) (earlier : i < made + 1) : retries outcomes i = true := by
        rcases Nat.lt_succ_iff_lt_or_eq.mp earlier with sooner | rfl
        · exact before i sooner
        · exact retried
      have shifts' (sleeps : List StdDuration) : (log.delayed made sleeps).shifts = List.range (made + 1) := by
        rw [List.range_succ, ← shifts]
        rfl
      have attempts' (sleeps : List StdDuration) : (log.delayed made sleeps).attempts = made + 1 :=
        congrArg (· + 1) attempts
      rcases sendAttempts_retried checked log again retried with ⟨overflow, panicked⟩ | ⟨delay, goes⟩
      · rw [panicked]
        exact ⟨made + 1, again, before', shifts' [], .panicked (Nat.succ_pos made) (attempts' []) overflow⟩
      · rw [final, value, goes]
        exact ih (by omega) before' (attempts' [delay]) (shifts' [delay])

theorem sendWithRetry_ended (checked : Bool) (outcomes : Nat → Except AttemptOutcome Unit)
    (allowed : 0 < policy.maxAttempts) :
    ∃ k, Ended policy outcomes k (final (sendWithRetry checked policy outcomes) {})
      (value (sendWithRetry checked policy outcomes) {}) :=
  sendAttempts_ended (policy.maxAttempts - 1) (by omega) (fun i before => absurd before (Nat.not_lt_zero i)) rfl rfl

end Runs

structure Sound (checked : Bool) (policy : RetryPolicy) (outcomes : Nat → Except AttemptOutcome Unit) : Prop where
  allowed : 1 ≤ (final (sendWithRetry checked policy outcomes) {}).attempts
  bounded : (final (sendWithRetry checked policy outcomes) {}).attempts ≤ policy.maxAttempts
  stops : ∀ i, i + 1 < (final (sendWithRetry checked policy outcomes) {}).attempts → retries outcomes i = true
  shifts : ∀ shift ∈ (final (sendWithRetry checked policy outcomes) {}).shifts, shift < 32
  products : ∀ shift ∈ (final (sendWithRetry checked policy outcomes) {}).shifts,
    policy.baseBackoff * factor shift < StdDuration.limit

def retriedAttempts (policy : RetryPolicy) (outcomes : Nat → Except AttemptOutcome Unit) : Nat :=
  retried (retries outcomes) (policy.maxAttempts - 1)

/-- At most 32 delays are needed, of which the greatest one is represented. -/
def Moderate (policy : RetryPolicy) (retried : Nat) : Prop :=
  retried ≤ 32 ∧ (0 < retried → policy.baseBackoff * 2^(min (retried - 1) 30) < StdDuration.limit)

section Sound

variable {checked : Bool} {policy : RetryPolicy} {outcomes : Nat → Except AttemptOutcome Unit}

theorem factor_eq {shift : Nat} (within : shift < 32) : factor shift = 2^(min shift 30) := by
  rw [factor, Nat.mod_eq_of_lt within]
  rcases Nat.le_total shift 30 with small | large
  · rw [Nat.min_eq_left small, Nat.min_eq_left (Nat.pow_le_pow_right (by decide) small)]
  · rw [Nat.min_eq_right large, Nat.min_eq_right (Nat.pow_le_pow_right (by decide) large)]

theorem safe_iff_moderate (n : Nat) : (∀ shift < n, Safe policy shift) ↔ Moderate policy n := by
  constructor
  · intro safe
    have few : n ≤ 32 := by
      by_contra many
      exact absurd (safe 32 (by omega)).1 (Nat.lt_irrefl 32)
    refine ⟨few, fun allowed => ?_⟩
    obtain ⟨within, fits⟩ := safe (n - 1) (by omega)
    rw [factor_eq within] at fits
    exact fits
  · intro ⟨few, fits⟩ shift before
    have within : shift < 32 := by omega
    refine ⟨within, Nat.lt_of_le_of_lt ?_ (fits (by omega))⟩
    rw [factor_eq within]
    exact Nat.mul_le_mul_left _ (Nat.pow_le_pow_right (by decide) (by omega))

theorem attempts_bounded (checked : Bool) (outcomes : Nat → Except AttemptOutcome Unit)
    (allowed : 0 < policy.maxAttempts) :
    1 ≤ (final (sendWithRetry checked policy outcomes) {}).attempts ∧
      (final (sendWithRetry checked policy outcomes) {}).attempts ≤ policy.maxAttempts ∧
      ∀ i, i + 1 < (final (sendWithRetry checked policy outcomes) {}).attempts → retries outcomes i = true := by
  obtain ⟨k, ended⟩ := sendWithRetry_ended checked outcomes allowed
  have within := ended.within
  cases ended.last with
  | answered _ attempts =>
    rw [attempts]
    exact ⟨by omega, by omega, fun i earlier => ended.retried i (by omega)⟩
  | panicked allowed attempts =>
    rw [attempts]
    exact ⟨allowed, by omega, fun i earlier => ended.retried i (by omega)⟩

theorem sound_iff_safe (allowed : 0 < policy.maxAttempts) :
    Sound checked policy outcomes ↔ ∀ shift < retriedAttempts policy outcomes, Safe policy shift := by
  obtain ⟨k, ended⟩ := sendWithRetry_ended checked outcomes allowed
  have within := ended.within
  cases ended.last with
  | answered stops attempts =>
    have count : retriedAttempts policy outcomes = k :=
      retried_eq (by omega) ended.retried fun before => stops (by omega)
    rw [count]
    constructor
    · intro sound shift before
      have member := List.mem_range.mpr before
      rw [← ended.shifts] at member
      exact ⟨sound.shifts shift member, sound.products shift member⟩
    · intro safe
      have each (shift : Nat) (member : shift ∈ (final (sendWithRetry checked policy outcomes) {}).shifts) :
          Safe policy shift := by
        rw [ended.shifts] at member
        exact safe shift (List.mem_range.mp member)
      obtain ⟨least, most, stopped⟩ := attempts_bounded checked outcomes allowed
      exact ⟨least, most, stopped, fun shift member => (each shift member).1,
        fun shift member => (each shift member).2⟩
  | panicked allowed attempts overflow =>
    have count : k ≤ retriedAttempts policy outcomes := le_retried (by omega) ended.retried
    have computed : k - 1 ∈ (final (sendWithRetry checked policy outcomes) {}).shifts := by
      rw [ended.shifts]
      exact List.mem_range.mpr (by omega)
    constructor
    · intro sound
      exact absurd ⟨sound.shifts _ computed, sound.products _ computed⟩ overflow
    · intro safe
      exact absurd (safe (k - 1) (by omega)) overflow

theorem sendWithRetry_answers (allowed : 0 < policy.maxAttempts)
    (moderate : Moderate policy (retriedAttempts policy outcomes)) :
    value (sendWithRetry checked policy outcomes) {} =
      answer (retriedAttempts policy outcomes + 1) (outcomes (retriedAttempts policy outcomes)) := by
  obtain ⟨k, ended⟩ := sendWithRetry_ended checked outcomes allowed
  have within := ended.within
  cases ended.last with
  | answered stops _ result =>
    have count : retriedAttempts policy outcomes = k :=
      retried_eq (by omega) ended.retried fun before => stops (by omega)
    rw [result, count]
  | panicked allowed _ overflow =>
    have count : k ≤ retriedAttempts policy outcomes := le_retried (by omega) ended.retried
    exact absurd ((safe_iff_moderate _).mpr moderate (k - 1) (by omega)) overflow

theorem always_sound_iff (allowed : 0 < policy.maxAttempts) :
    (∀ outcomes, Sound checked policy outcomes) ↔ Moderate policy (policy.maxAttempts - 1) := by
  constructor
  · intro sound
    have count : retriedAttempts policy (fun _ => .error (.retry "")) = policy.maxAttempts - 1 :=
      retried_eq (Nat.le_refl _) (fun _ _ => rfl) fun before => absurd before (Nat.lt_irrefl _)
    rw [← count, ← safe_iff_moderate]
    exact (sound_iff_safe allowed).mp (sound _)
  · intro moderate outcomes
    have few : retriedAttempts policy outcomes ≤ policy.maxAttempts - 1 := retried_le _ _
    rw [sound_iff_safe allowed]
    exact fun shift before => (safe_iff_moderate _).mpr moderate shift (by omega)

example : Moderate {} (({} : RetryPolicy).maxAttempts - 1) := by
  unfold Moderate
  decide

end Sound

end TelegramSink

open TelegramSink

/-- For every policy and all outcomes of the attempts, in both builds: a run is sound just when the attempts that are
    retried need no shift that leaves the word and no delay that is not represented. -/
theorem send_with_retry_sound (checked : Bool) (maxAttempts : Nat) (baseBackoff : StdDuration)
    (outcomes : Nat → Except AttemptOutcome Unit) :
    Sound checked (withRetry maxAttempts baseBackoff) outcomes ↔
      Moderate (withRetry maxAttempts baseBackoff) (retriedAttempts (withRetry maxAttempts baseBackoff) outcomes) := by
  rw [sound_iff_safe (withRetry_some maxAttempts baseBackoff), safe_iff_moderate]

/-- Thirty-four attempts without a delay between them, of which the delay after the thirty-third shifts by 32, and the
    longest delay there is, whose double is not represented. -/
theorem send_with_retry_overflows :
    let outcomes : Nat → Except AttemptOutcome Unit := fun _ => .error (.retry "telegram returned 502 Bad Gateway")
    ¬ Sound true (withRetry 34 0) outcomes ∧ ¬ Sound false (withRetry 34 0) outcomes ∧
      ¬ Sound true (withRetry 3 (StdDuration.limit - 1)) outcomes ∧
      ¬ Sound false (withRetry 3 (StdDuration.limit - 1)) outcomes := by
  intro outcomes
  have shift : ¬ ∀ shift < retriedAttempts (withRetry 34 0) outcomes, Safe (withRetry 34 0) shift :=
    fun safe => absurd (safe 32 (by decide)).1 (by decide)
  have product : ¬ ∀ shift < retriedAttempts (withRetry 3 (StdDuration.limit - 1)) outcomes,
      Safe (withRetry 3 (StdDuration.limit - 1)) shift :=
    fun safe => absurd (safe 1 (by decide)).2 (by decide)
  exact ⟨(sound_iff_safe (by decide)).not.mpr shift, (sound_iff_safe (by decide)).not.mpr shift,
    (sound_iff_safe (by decide)).not.mpr product, (sound_iff_safe (by decide)).not.mpr product⟩

end Rieko
