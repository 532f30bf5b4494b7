import Rieko.Cli.Health
import Rieko.Cli.MonitorMemory

namespace Rieko

open StatefulResult CycleM Backoff

namespace Monitor

structure RetryPolicy where
  maxAttempts : Nat := 3
  initialDelay : StdDuration := 1000000000
  maxDelay : StdDuration := 30 * 1000000000
deriving DecidableEq, Repr

namespace RetryPolicy

def attempts (policy : RetryPolicy) : Nat := max policy.maxAttempts 1

/-- The delay after an attempt that failed, of which the first has the number one. -/
def delay (policy : RetryPolicy) (attempt : Nat) : StdDuration :=
  let multiplier := (checkedShl 32 (attempt - 1)).getD (2^32 - 1)
  min ((policy.initialDelay.checkedMul multiplier).getD policy.maxDelay) policy.maxDelay

theorem delay_mono (policy : RetryPolicy) {attempt later : Nat} (order : attempt ≤ later) :
    policy.delay attempt ≤ policy.delay later :=
  capped_mono (checkedShl_mono (Nat.sub_le_sub_right order 1))

theorem delay_le (policy : RetryPolicy) (attempt : Nat) : policy.delay attempt ≤ policy.maxDelay := capped_le

example : [1, 2, 3, 40].map (RetryPolicy.mk 3 10 15).delay = [10, 15, 15, 15] := by decide

end RetryPolicy

structure BuiltGraph where
  graph : InMemoryGraph
  newest : Option DateTime

inductive IngestionEvent where
  | attempted
  | built (succeeded : Bool)
  | succeeded
  | failed
  | slept (delay : StdDuration)
deriving DecidableEq, Repr

structure Ingestion (σ : Type) where
  world : World σ
  calls : Nat := 0
  events : List IngestionEvent := []

section Loop

variable {σ : Type}

def recorded (event : IngestionEvent) (record : CycleM σ Unit) : EStateM CycleError (Ingestion σ) Unit := fun r =>
  match record r.world with
  | .ok u world => .ok u { r with world, events := r.events ++ [event] }
  | .error e world => .error e { r with world, events := r.events ++ [event] }

def callBuild (build : Nat → Except String BuiltGraph) :
    EStateM CycleError (Ingestion σ) (Except String BuiltGraph) := fun r =>
  .ok (build r.calls) { r with calls := r.calls + 1, events := r.events ++ [.built (build r.calls).isOk] }

def sleep (delay : StdDuration) : EStateM CycleError (Ingestion σ) Unit := fun r =>
  .ok () { r with events := r.events ++ [.slept delay] }

variable [Storage σ]

def ingestAttempts (env : CycleEnv) (source : GraphSource) (policy : RetryPolicy)
    (build : Nat → Except String BuiltGraph) :
    Nat → Nat → EStateM CycleError (Ingestion σ) (Option InMemoryGraph)
  | _, 0 => return none
  | attempt, left + 1 => do
    recorded .attempted (recordIngestionAttempt env source)
    match ← callBuild build with
    | .ok built =>
      recorded .succeeded (recordIngestionSuccess env source built.newest)
      return some built.graph
    | .error e =>
      recorded .failed
        (mapError (addContext s!"recording ingestion failure after: {e}") (recordIngestionFailure source))
      if source.lndRest.isNone then throw ⟨[], .ingestion e⟩
      if attempt = policy.attempts then return none
      sleep (policy.delay attempt)
      ingestAttempts env source policy build (attempt + 1) left

def ingestWithRetry (env : CycleEnv) (source : GraphSource) (policy : RetryPolicy)
    (build : Nat → Except String BuiltGraph) : EStateM CycleError (Ingestion σ) (Option InMemoryGraph) :=
  ingestAttempts env source policy build 1 policy.attempts

end Loop

/-- The operational state is seen through a view of the storage, and its updates do not fail while the storage works. -/
structure Updatable {σ : Type} [Storage σ] (view : σ → OperationalState) (works : σ → Prop) : Prop where
  updated : ∀ {f s s' u}, Storage.updateOperationalState f s = .ok u s' → view s' = f (view s)
  succeeds : ∀ f {s}, works s → ∃ s', Storage.updateOperationalState f s = .ok () s' ∧ works s'

namespace Updatable

variable {σ : Type} [Storage σ] {view : σ → OperationalState} {works : σ → Prop} {env : CycleEnv}
  {source : GraphSource} {w w' : World σ} {u : Unit}

theorem success_source (updatable : Updatable view works) {newest : Option DateTime}
    (ran : recordIngestionSuccess env source newest w = .ok u w') :
    (view w'.storage).source = sourceState source true := by
  obtain ⟨now, m, read, ran⟩ := bind_ok.mp ran
  obtain ⟨s, updated, rfl⟩ := lift_ok.mp ran
  rw [updatable.updated updated]

theorem failure_source (updatable : Updatable view works) {context : String}
    (ran : mapError (addContext context) (recordIngestionFailure source) w = .ok u w') :
    (view w'.storage).source = sourceState source false := by
  obtain ⟨s, updated, rfl⟩ := lift_ok.mp (mapError_ok.mp ran)
  rw [updatable.updated updated]

theorem operational_succeeds (updatable : Updatable view works) (f : OperationalState → OperationalState)
    (working : works w.storage) :
    ∃ w', operational (Storage.updateOperationalState f) w = .ok () w' ∧ works w'.storage := by
  obtain ⟨s, ran, still⟩ := updatable.succeeds f working
  exact ⟨_, lift_ok.mpr ⟨s, ran, rfl⟩, still⟩

theorem timed_succeeds (updatable : Updatable view works) (env : CycleEnv)
    (f : DateTime → OperationalState → OperationalState) (working : works w.storage) : ∃ w',
    (do let now ← now env; operational (Storage.updateOperationalState (f now)) : CycleM σ Unit) w = .ok () w' ∧
      works w'.storage := by
  have read : CycleM.now env w = .ok (env.clock w.ticks) { w with ticks := w.ticks + 1 } := rfl
  rw [bind_of_ok read]
  exact updatable.operational_succeeds _ working

theorem attempt_succeeds (updatable : Updatable view works) (env : CycleEnv) (source : GraphSource)
    (working : works w.storage) : ∃ w', recordIngestionAttempt env source w = .ok () w' ∧ works w'.storage :=
  updatable.timed_succeeds env _ working

theorem success_succeeds (updatable : Updatable view works) (env : CycleEnv) (source : GraphSource)
    (newest : Option DateTime) (working : works w.storage) :
    ∃ w', recordIngestionSuccess env source newest w = .ok () w' ∧ works w'.storage :=
  updatable.timed_succeeds env _ working

theorem failure_succeeds (updatable : Updatable view works) (source : GraphSource) (context : String)
    (working : works w.storage) :
    ∃ w', mapError (addContext context) (recordIngestionFailure source) w = .ok () w' ∧ works w'.storage := by
  obtain ⟨w', ran, still⟩ := updatable.operational_succeeds (fun state => { state with source := _ }) working
  exact ⟨w', mapError_ok.mpr ran, still⟩

end Updatable

def memoryState (s : MemoryStorage) : OperationalState := s.operationalState.getD {}

theorem memory_updatable : Updatable memoryState fun _ => True where
  updated ran := by
    cases ran
    rfl
  succeeds _ _ _ := ⟨_, rfl, trivial⟩

def sqliteState (s : SqliteStorage) : OperationalState := s.conn.tables.operationalState.getD {}

theorem sqlite_updatable : Updatable sqliteState fun s => s.Idle ∧ ∀ n, s.conn.fails n = none where
  updated {f s s' u} ran := by
    unfold sqliteState
    rw [(SqliteStorage.updateOperationalState_ok ran).1]
    rfl
  succeeds f s working := by
    obtain ⟨s', ran, idle, fails⟩ := SqliteStorage.updateOperationalState_quiet f working.1 working.2
    exact ⟨s', ran, idle, fun n => (congrFun fails n).trans (working.2 n)⟩

def failedAttempt (policy : RetryPolicy) (attempt : Nat) : List IngestionEvent :=
  [.attempted, .built false, .failed, .slept (policy.delay attempt)]

def failedAttempts (policy : RetryPolicy) (k : Nat) : List IngestionEvent :=
  (List.range k).flatMap fun i => failedAttempt policy (i + 1)

theorem failedAttempts_succ (policy : RetryPolicy) (k : Nat) :
    failedAttempts policy (k + 1) = failedAttempts policy k ++ failedAttempt policy (k + 1) := by
  simp [failedAttempts, List.range_succ]

structure Retried {σ : Type} (policy : RetryPolicy) (build : Nat → Except String BuiltGraph) (k : Nat)
    (last : List IngestionEvent) (r : Ingestion σ) : Prop where
  bounded : k < policy.attempts
  earlier : ∀ i < k, (build i).isOk = false
  events : r.events = failedAttempts policy k ++ last

/-- The loop ends at the first graph that is built and returns it, or at the last attempt. The source is then stored
    as connected, or not. -/
inductive Completed {σ : Type} (view : σ → OperationalState) (policy : RetryPolicy)
    (build : Nat → Except String BuiltGraph) : Option InMemoryGraph → Ingestion σ → Prop
  | built {k : Nat} {built : BuiltGraph} {r : Ingestion σ} (success : build k = .ok built)
    (retried : Retried policy build k [.attempted, .built true, .succeeded] r) (calls : r.calls = k + 1)
    (connected : (view r.world.storage).source = .lndRest true) : Completed view policy build (some built.graph) r
  | exhausted {k : Nat} {e : String} {r : Ingestion σ} (failure : build k = .error e)
    (last : k + 1 = policy.attempts)
    (retried : Retried policy build k [.attempted, .built false, .failed] r) (calls : r.calls = k + 1)
    (disconnected : (view r.world.storage).source = .lndRest false) : Completed view policy build none r

/-- A record that the storage refuses ends the loop, be it of an attempt or of how `build` ended. -/
inductive Interrupted {σ : Type} (policy : RetryPolicy) (build : Nat → Except String BuiltGraph) :
    Ingestion σ → Prop
  | attempting {k : Nat} {r : Ingestion σ} (retried : Retried policy build k [.attempted] r) (calls : r.calls = k) :
    Interrupted policy build r
  | succeeding {k : Nat} {built : BuiltGraph} {r : Ingestion σ} (success : build k = .ok built)
    (retried : Retried policy build k [.attempted, .built true, .succeeded] r) (calls : r.calls = k + 1) :
    Interrupted policy build r
  | failing {k : Nat} {e : String} {r : Ingestion σ} (failure : build k = .error e)
    (retried : Retried policy build k [.attempted, .built false, .failed] r) (calls : r.calls = k + 1) :
    Interrupted policy build r

section Runs

variable {σ : Type} {env : CycleEnv} {source : GraphSource} {policy : RetryPolicy}
  {build : Nat → Except String BuiltGraph} {r r' : Ingestion σ} {world : World σ} {k : Nat}

theorem recorded_of_ok {event : IngestionEvent} {record : CycleM σ Unit} {u : Unit}
    (ran : record r.world = .ok u world) :
    recorded event record r = .ok u { r with world, events := r.events ++ [event] } := by
  rw [recorded, ran]

theorem recorded_of_error {event : IngestionEvent} {record : CycleM σ Unit} {e : CycleError}
    (refused : record r.world = .error e world) :
    recorded event record r = .error e { r with world, events := r.events ++ [event] } := by
  rw [recorded, refused]

theorem callBuild_of_calls (calls : r.calls = k) : callBuild build r =
    .ok (build k) { r with calls := k + 1, events := r.events ++ [.built (build k).isOk] } := by
  rw [callBuild, calls]

theorem Retried.extend {last : List IngestionEvent} (retried : Retried policy build k [] r)
    (events : r'.events = r.events ++ last) : Retried policy build k last r' where
  bounded := retried.bounded
  earlier := retried.earlier
  events := by rw [events, retried.events, List.append_nil]

theorem Retried.ended {succeeded : Bool} {event : IngestionEvent} (retried : Retried policy build k [] r)
    (events : r'.events = r.events ++ [.attempted] ++ [.built succeeded] ++ [event]) :
    Retried policy build k [.attempted, .built succeeded, event] r' := by
  rw [List.append_assoc, List.append_assoc] at events
  exact retried.extend events

variable [Storage σ] {view : σ → OperationalState} {works : σ → Prop}

theorem ingestAttempts_step (updatable : Updatable view works) (live : source.lndRest.isSome = true)
    (left : Nat) (retried : Retried policy build k [] r) (calls : r.calls = k) :
    Ends (Completed view policy build) (Interrupted policy build)
        (ingestAttempts env source policy build (k + 1) (left + 1)) r ∨
      ∃ r', Retried policy build (k + 1) [] r' ∧ r'.calls = k + 1 ∧
        ingestAttempts env source policy build (k + 1) (left + 1) r =
          ingestAttempts env source policy build (k + 2) left r' := by
  have state (connected : Bool) : sourceState source connected = .lndRest connected := if_pos live
  have reachable : source.lndRest.isNone = false := Option.isNone_eq_false_iff.mpr live
  rw [ingestAttempts]
  unfold Ends
  cases attempted : recordIngestionAttempt env source r.world with
  | error e world =>
    rw [bind_of_error (recorded_of_error attempted)]
    exact .inl (.attempting (retried.extend rfl) calls)
  | ok u world =>
    have counted : ({ r with world, events := r.events ++ [.attempted] } : Ingestion σ).calls = k := calls
    rw [bind_of_ok (recorded_of_ok attempted), bind_of_ok (callBuild_of_calls counted)]
    cases outcome : build k with
    | ok built =>
      dsimp only
      cases succeeded : recordIngestionSuccess env source built.newest world with
      | error e world =>
        rw [bind_of_error (recorded_of_error succeeded)]
        exact .inl (.succeeding outcome (retried.ended rfl) rfl)
      | ok u world =>
        rw [bind_of_ok (recorded_of_ok succeeded)]
        have connected := (updatable.success_source succeeded).trans (state true)
        exact .inl (.built outcome (retried.ended rfl) rfl connected)
    | error e =>
      dsimp only
      cases failed : mapError (addContext s!"recording ingestion failure after: {e}")
        (recordIngestionFailure source) world with
      | error e' world =>
        rw [bind_of_error (recorded_of_error failed)]
        exact .inl (.failing outcome (retried.ended rfl) rfl)
      | ok u world =>
        have disconnected := (updatable.failure_source failed).trans (state false)
        rw [bind_of_ok (recorded_of_ok failed), reachable, if_neg (by decide)]
        by_cases last : k + 1 = policy.attempts
        · rw [if_pos last]
          exact .inl (.exhausted outcome last (retried.ended rfl) rfl disconnected)
        · rw [if_neg last]
          have failure : (build k).isOk = false := by rw [outcome]; rfl
          have bounded : k + 1 < policy.attempts := Nat.lt_of_le_of_ne retried.bounded last
          have earlier (i : Nat) (before : i < k + 1) : (build i).isOk = false := by
            rcases Nat.lt_succ_iff_lt_or_eq.mp before with sooner | rfl
            · exact retried.earlier i sooner
            · exact failure
          refine .inr ⟨_, ⟨bounded, earlier, ?_⟩, ?_, rfl⟩
          · rw [failedAttempts_succ]
            simp [retried.events, failedAttempt, Except.isOk, Except.toBool]
          · rfl

theorem ingestAttempts_ends (env : CycleEnv) (updatable : Updatable view works) (live : source.lndRest.isSome = true)
    (left : Nat) (total : k + (left + 1) = policy.attempts) (retried : Retried policy build k [] r)
    (calls : r.calls = k) : Ends (Completed view policy build) (Interrupted policy build)
      (ingestAttempts env source policy build (k + 1) (left + 1)) r := by
  induction left generalizing k r with
  | zero =>
    rcases ingestAttempts_step updatable live 0 retried calls with ends | ⟨r', later, _⟩
    · exact ends
    · exact absurd total (Nat.ne_of_lt later.bounded)
  | succ left ih =>
    rcases ingestAttempts_step updatable live (left + 1) retried calls with ends | ⟨r', later, calls', goes⟩
    · exact ends
    · have rest := ih (by omega) later calls'
      unfold Ends at rest ⊢
      rw [goes]
      exact rest

theorem ingestAttempts_succeeds (updatable : Updatable view works) (live : source.lndRest.isSome = true)
    (attempt left : Nat) (working : works r.world.storage) :
    ∃ graph r', ingestAttempts env source policy build attempt left r = .ok graph r' := by
  have reachable : source.lndRest.isNone = false := Option.isNone_eq_false_iff.mpr live
  induction left generalizing attempt r with
  | zero => exact ⟨none, r, rfl⟩
  | succ left ih =>
    obtain ⟨world, attempted, working⟩ := updatable.attempt_succeeds env source working
    rw [ingestAttempts, bind_of_ok (recorded_of_ok attempted), bind_of_ok (callBuild_of_calls rfl)]
    cases build r.calls with
    | ok built =>
      obtain ⟨world, succeeded, working⟩ := updatable.success_succeeds env source built.newest working
      dsimp only
      rw [bind_of_ok (recorded_of_ok succeeded)]
      exact ⟨_, _, rfl⟩
    | error e =>
      obtain ⟨world, failed, working⟩ :=
        updatable.failure_succeeds source s!"recording ingestion failure after: {e}" working
      dsimp only
      rw [bind_of_ok (recorded_of_ok failed), reachable, if_neg (by decide)]
      by_cases last : attempt = policy.attempts
      · rw [if_pos last]
        exact ⟨_, _, rfl⟩
      · rw [if_neg last]
        exact ih (attempt + 1) working

theorem ingestWithRetry_ends (updatable : Updatable view works) (live : source.lndRest.isSome = true) (w : World σ) :
    Ends (Completed view policy build) (Interrupted policy build)
      (ingestWithRetry env source policy build) { world := w } := by
  have allowed : 0 < policy.attempts := Nat.lt_of_lt_of_le Nat.one_pos (Nat.le_max_right _ _)
  have fresh : Retried policy build 0 [] ({ world := w } : Ingestion σ) :=
    ⟨allowed, fun i before => absurd before (Nat.not_lt_zero i), rfl⟩
  have ends := ingestAttempts_ends env updatable live (policy.attempts - 1) (by omega) fresh rfl
  rw [Nat.sub_add_cancel allowed] at ends
  exact ends

end Runs

section Forget

variable {σ : Type} {settings : CycleSettings} {policy : RetryPolicy}

def builds (source : GraphSource) (attempts : List Outside) (i : Nat) : Except String BuiltGraph :=
  match attempts[i]? with
  | none => .error "no attempt"
  | some outside => (source.build outside).map fun graph => ⟨graph, newestSourceDataAt graph outside⟩

def forget {α : Type} : EStateM.Result CycleError (Ingestion σ) α → EStateM.Result CycleError (World σ) α
  | .ok a r => .ok a r.world
  | .error e r => .error e r.world

theorem builds_append (source : GraphSource) (done later : List Outside) (outside : Outside) :
    builds source (done ++ outside :: later) done.length =
      (source.build outside).map fun graph => ⟨graph, newestSourceDataAt graph outside⟩ := by
  simp [builds]

variable [Storage σ]

theorem ingestAttempts_forget (settings : CycleSettings) (done later : List Outside) (r : Ingestion σ)
    (calls : r.calls = done.length)
    (total : policy.attempts = (done ++ later).length) :
    forget (ingestAttempts settings.env settings.source policy (builds settings.source (done ++ later))
      (done.length + 1) later.length r) = Rieko.ingestWithRetry settings later r.world := by
  induction later generalizing done r with
  | nil => rfl
  | cons outside later ih =>
    rw [List.length_cons, ingestAttempts, Rieko.ingestWithRetry]
    cases attempted : recordIngestionAttempt settings.env settings.source r.world with
    | error e world =>
      rw [bind_of_error (recorded_of_error attempted), bind_of_error attempted]
      rfl
    | ok u world =>
      have counted : ({ r with world, events := r.events ++ [.attempted] } : Ingestion σ).calls = done.length := calls
      rw [bind_of_ok (recorded_of_ok attempted), bind_of_ok attempted, bind_of_ok (callBuild_of_calls counted),
        builds_append]
      cases settings.source.build outside with
      | ok graph =>
        dsimp only [Except.map]
        cases succeeded : recordIngestionSuccess settings.env settings.source (newestSourceDataAt graph outside)
          world with
        | error e world =>
          rw [bind_of_error (recorded_of_error succeeded), bind_of_error succeeded]
          rfl
        | ok u world =>
          rw [bind_of_ok (recorded_of_ok succeeded), bind_of_ok succeeded]
          rfl
      | error e =>
        dsimp only [Except.map]
        cases failed : mapError (addContext s!"recording ingestion failure after: {e}")
          (recordIngestionFailure settings.source) world with
        | error e world =>
          rw [bind_of_error (recorded_of_error failed), bind_of_error failed]
          rfl
        | ok u world =>
          rw [bind_of_ok (recorded_of_ok failed), bind_of_ok failed]
          cases settings.source.lndRest.isNone with
          | true => rfl
          | false =>
            rw [if_neg Bool.false_ne_true, if_neg Bool.false_ne_true]
            rw [List.length_append, List.length_cons] at total
            by_cases last : done.length + 1 = policy.attempts
            · have none_left : later = [] := List.eq_nil_of_length_eq_zero (by omega)
              rw [if_pos last, none_left]
              rfl
            · let next : Ingestion σ := {
                world
                calls := done.length + 1
                events := r.events ++ [.attempted] ++ [.built false] ++ [.failed] ++
                  [.slept (policy.delay (done.length + 1))] }
              have counted : next.calls = (done ++ [outside]).length := by
                rw [List.length_append]
                rfl
              have longer : policy.attempts = (done ++ [outside] ++ later).length := by
                simp only [List.length_append, List.length_singleton]
                omega
              have rest := ih (done ++ [outside]) next counted longer
              rw [List.append_assoc, List.length_append] at rest
              rw [if_neg last]
              exact rest

theorem ingestWithRetry_forget (attempts : List Outside) (total : policy.attempts = attempts.length) (w : World σ) :
    forget (ingestWithRetry settings.env settings.source policy (builds settings.source attempts) { world := w }) =
      Rieko.ingestWithRetry settings attempts w := by
  have run := ingestAttempts_forget settings [] attempts { world := w } rfl total
  rw [← total] at run
  exact run

end Forget

end Monitor

open Monitor

/-- For every policy and whatever `build` returns, on a live source: at most as many calls as the policy has attempts,
    each between the record of an attempt and that of how it ended, one sleep between two attempts, for delays that
    do not fall and do not exceed the maximum, and an end at the first success or the last attempt. Only a record
    that the storage refuses ends the round otherwise. -/
theorem ingest_with_retry_retries (env : CycleEnv) (source : GraphSource) (live : source.lndRest.isSome = true)
    (policy : Monitor.RetryPolicy) (build : Nat → Except String BuiltGraph) :
    (∀ attempt later, attempt ≤ later → policy.delay attempt ≤ policy.delay later ∧
      policy.delay later ≤ policy.maxDelay) ∧
    (∀ w : World MemoryStorage, ∃ graph r,
      Monitor.ingestWithRetry env source policy build { world := w } = .ok graph r ∧
        Completed memoryState policy build graph r) ∧
    (∀ w : World SqliteStorage, Ends (Completed sqliteState policy build) (Interrupted policy build)
      (Monitor.ingestWithRetry env source policy build) { world := w }) ∧
    ∀ w : World SqliteStorage, Working w → ∃ graph r,
      Monitor.ingestWithRetry env source policy build { world := w } = .ok graph r := by
  refine ⟨fun attempt later order => ⟨policy.delay_mono order, policy.delay_le later⟩, fun w => ?_,
    fun w => ingestWithRetry_ends sqlite_updatable live w,
    fun w working => ingestAttempts_succeeds sqlite_updatable live 1 policy.attempts working⟩
  have returns : ∃ graph r, Monitor.ingestWithRetry env source policy build { world := w } = .ok graph r :=
    ingestAttempts_succeeds memory_updatable live 1 policy.attempts trivial
  obtain ⟨graph, r, ran⟩ := returns
  exact ⟨graph, r, ran, (ingestWithRetry_ends memory_updatable live w).ok ran⟩

/-- A node that is reached at the second attempt of three. -/
theorem ingest_with_retry_recovers :
    let env : CycleEnv := ⟨⟨fun _ => "digest", fun _ => "null", fun _ => "instant", fun _ => "instant"⟩,
      fun tick => 60 * nanosPerSecond * tick, fun _ => "uuid"⟩
    let source : GraphSource := { network := .regtest, lndRest := some "https://localhost:8080", node := "node" }
    let policy : Monitor.RetryPolicy := { maxAttempts := 3, initialDelay := 10000000, maxDelay := 15000000 }
    let build : Nat → Except String BuiltGraph := fun i =>
      if i = 0 then .error "unreachable" else .ok ⟨InMemoryGraph.new, some 0⟩
    let ended := Monitor.ingestWithRetry env source policy build { world := ⟨({} : MemoryStorage), 0, 0⟩ }
    (∃ graph r, ended = .ok graph r ∧ Completed memoryState policy build graph r) ∧
      ∃ graph r, ended = .ok (some graph) r ∧ r.calls = 2 ∧
        (memoryState r.world.storage).source = .lndRest true ∧
        r.events = [.attempted, .built false, .failed, .slept 10000000, .attempted, .built true, .succeeded] := by
  intro env source policy build ended
  have delay : policy.delay 1 = 10000000 := by decide
  have events : failedAttempt policy 1 = [.attempted, .built false, .failed, .slept 10000000] := by
    rw [failedAttempt, delay]
  refine ⟨(ingest_with_retry_retries env source rfl policy build).2.1 _, _, _, rfl, rfl, rfl, ?_⟩
  show failedAttempt policy 1 ++ [.attempted, .built true, .succeeded] = _
  rw [events]
  rfl

end Rieko
