import Rieko.Status.State

namespace Rieko

inductive OverallState where
  | notInitialized | healthy | degraded | unhealthy
deriving DecidableEq, Repr

def OverallState.asStr : OverallState → String
  | .notInitialized => "not_initialized"
  | .healthy => "healthy"
  | .degraded => "degraded"
  | .unhealthy => "unhealthy"

structure HealthPolicy where
  freshness : TimeDelta := 2 * 3600 * nanosPerSecond
deriving DecidableEq, Repr

def assess (state : OperationalState) (policy : HealthPolicy) (now : DateTime) (dbIntegrityOk : Bool) :
    OverallState :=
  if !dbIntegrityOk then .unhealthy
  else
    match state.lastIngestionSuccess with
    | none => if !state.source.connected then .unhealthy else .notInitialized
    | some lastSuccess =>
      if state.lastIngestionAttempt.any (fun attempt => lastSuccess < attempt) ||
          !state.source.connected ||
          state.lastCycleAttempt.any (fun attempt => state.lastCycleSuccess.all fun success => success < attempt) ||
          state.sourceDataAt.any (fun dataAt => policy.freshness < now - dataAt) ||
          (state.llm = .configured || state.llm = .failing) ||
          state.alertSink = .failing || state.cleanup = .failing then
        .degraded
      else .healthy

namespace OperationalState

/-- What `assess` asks of a state besides the age of its source data. -/
structure Operating (state : OperationalState) : Prop where
  ingestion : ∃ lastSuccess, state.lastIngestionSuccess = some lastSuccess ∧
    state.lastIngestionAttempt.any (fun attempt => lastSuccess < attempt) = false
  connected : state.source.connected = true
  cycle : state.lastCycleAttempt.any
    (fun attempt => state.lastCycleSuccess.all fun success => success < attempt) = false
  llm : state.llm ≠ .configured ∧ state.llm ≠ .failing
  alertSink : state.alertSink ≠ .failing
  cleanup : state.cleanup ≠ .failing

structure FreshAt (state : OperationalState) (policy : HealthPolicy) (now : DateTime) : Prop where
  ingestion : ∃ lastSuccess, state.lastIngestionSuccess = some lastSuccess ∧ now - lastSuccess ≤ policy.freshness
  data : ∃ dataAt, state.sourceDataAt = some dataAt ∧ now - dataAt ≤ policy.freshness

/-- A successful ingestion is dated no earlier than the source data. -/
def Dated (state : OperationalState) : Prop :=
  ∀ lastSuccess, state.lastIngestionSuccess = some lastSuccess →
    ∃ dataAt, state.sourceDataAt = some dataAt ∧ dataAt ≤ lastSuccess

variable {state : OperationalState} {policy : HealthPolicy} {now : DateTime} {dbIntegrityOk : Bool}

theorem assess_healthy :
    assess state policy now dbIntegrityOk = .healthy ↔
      dbIntegrityOk = true ∧ state.Operating ∧
        ∀ dataAt, state.sourceDataAt = some dataAt → now - dataAt ≤ policy.freshness := by
  cases integrity : dbIntegrityOk with
  | false => simp [assess]
  | true =>
    cases succeeded : state.lastIngestionSuccess with
    | none =>
      have never : ¬state.Operating := by
        intro operating
        obtain ⟨lastSuccess, found, -⟩ := operating.ingestion
        rw [succeeded] at found
        cases found
      cases connected : state.source.connected <;> simp [assess, succeeded, connected, never]
    | some lastSuccess =>
      have fresh : state.sourceDataAt.any (fun dataAt => policy.freshness < now - dataAt) = false ↔
          ∀ dataAt, state.sourceDataAt = some dataAt → now - dataAt ≤ policy.freshness := by
        simp [Option.any_eq_false]
      constructor
      · intro healthy
        simp only [assess, succeeded, Bool.not_true, Bool.false_eq_true, if_false, ite_eq_right_iff,
          reduceCtorEq, imp_false, Bool.not_eq_true, Bool.or_eq_false_iff] at healthy
        obtain ⟨⟨⟨⟨⟨⟨ingestion, connected⟩, cycle⟩, data⟩, llm⟩, alertSink⟩, cleanup⟩ := healthy
        exact ⟨rfl, ⟨⟨lastSuccess, succeeded, ingestion⟩, by simpa using connected, cycle, by simpa using llm,
          by simpa using alertSink, by simpa using cleanup⟩, fresh.mp data⟩
      · rintro ⟨-, operating, data⟩
        obtain ⟨found, same, ingestion⟩ := operating.ingestion
        rw [succeeded] at same
        cases same
        simp [assess, succeeded, ingestion, operating.connected, operating.cycle, fresh.mpr data, operating.llm,
          operating.alertSink, operating.cleanup]

theorem Dated.freshAt (dated : state.Dated) (healthy : assess state policy now dbIntegrityOk = .healthy) :
    state.FreshAt policy now := by
  obtain ⟨-, operating, data⟩ := assess_healthy.mp healthy
  obtain ⟨lastSuccess, succeeded, -⟩ := operating.ingestion
  obtain ⟨dataAt, found, earlier⟩ := dated lastSuccess succeeded
  have fresh := data dataAt found
  have younger : now - lastSuccess ≤ now - dataAt := Int.sub_le_sub_left earlier now
  exact ⟨⟨lastSuccess, succeeded, Int.le_trans younger fresh⟩, dataAt, found, fresh⟩

theorem Dated.ends_healthy (dated : state.Dated) (policy : HealthPolicy) :
    ∃ last, ∀ now, last < now → ∀ dbIntegrityOk, assess state policy now dbIntegrityOk ≠ .healthy := by
  cases succeeded : state.lastIngestionSuccess with
  | none =>
    refine ⟨0, fun now _ dbIntegrityOk healthy => ?_⟩
    obtain ⟨-, operating, -⟩ := assess_healthy.mp healthy
    obtain ⟨lastSuccess, found, -⟩ := operating.ingestion
    rw [succeeded] at found
    cases found
  | some lastSuccess =>
    obtain ⟨dataAt, found, -⟩ := dated lastSuccess succeeded
    refine ⟨dataAt + policy.freshness, fun now later dbIntegrityOk healthy => ?_⟩
    have fresh := (assess_healthy.mp healthy).2.2 dataAt found
    exact absurd fresh (Int.not_le.mpr (Int.lt_sub_left_of_add_lt later))

theorem Operating.dated_iff (operating : state.Operating) (policy : HealthPolicy) :
    state.Dated ↔ ∀ now, assess state policy now true = .healthy → state.FreshAt policy now := by
  obtain ⟨lastSuccess, succeeded, -⟩ := operating.ingestion
  constructor
  · intro dated now healthy
    exact dated.freshAt healthy
  · intro fresh found same
    rw [succeeded] at same
    cases same
    cases data : state.sourceDataAt with
    | none =>
      have healthy : assess state policy 0 true = .healthy :=
        assess_healthy.mpr ⟨rfl, operating, fun dataAt found => by simp [data] at found⟩
      obtain ⟨dataAt, found, -⟩ := (fresh 0 healthy).data
      simp [data] at found
    | some dataAt =>
      have healthy : assess state policy (dataAt + policy.freshness) true = .healthy := by
        apply assess_healthy.mpr
        refine ⟨rfl, operating, fun found same => ?_⟩
        rw [data] at same
        cases same
        exact Int.sub_left_le_of_le_add (Int.le_refl _)
      obtain ⟨success, same, age⟩ := (fresh _ healthy).ingestion
      rw [succeeded] at same
      cases same
      exact ⟨dataAt, rfl, Int.le_of_add_le_add_right (Int.le_add_of_sub_left_le age)⟩

end OperationalState

end Rieko
