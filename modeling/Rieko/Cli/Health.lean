import Rieko.Cli.Monitor
import Rieko.Cli.Polling
import Rieko.Status.Health

namespace Rieko

open StatefulResult CycleM Transition OperationalState

inductive CycleRecord where
  | ingestionAttempt (source : GraphSource)
  | ingestionSuccess (source : GraphSource) (sourceDataAt : Option DateTime)
  | ingestionFailure (source : GraphSource)
  | cycleAttempt
  | cycleSuccess
  | component (kind : ComponentKind) (state : ComponentState)
deriving DecidableEq, Repr

namespace CycleRecord

def record {σ : Type} [Storage σ] (env : CycleEnv) : CycleRecord → CycleM σ Unit
  | ingestionAttempt source => recordIngestionAttempt env source
  | ingestionSuccess source sourceDataAt => recordIngestionSuccess env source sourceDataAt
  | ingestionFailure source => recordIngestionFailure source
  | cycleAttempt => recordCycleAttempt env
  | cycleSuccess => recordCycleSuccess env
  | component kind state => recordComponent kind state

def apply (record : CycleRecord) (now : DateTime) (state : OperationalState) : OperationalState :=
  match record with
  | ingestionAttempt source =>
    { state with
      source := sourceState source (state.source = .lndRest true)
      lastIngestionAttempt := some now }
  | ingestionSuccess source sourceDataAt =>
    { state with
      source := sourceState source true
      lastIngestionSuccess := some now
      sourceDataAt := sourceDataAt.or state.sourceDataAt }
  | ingestionFailure source => { state with source := sourceState source false }
  | cycleAttempt => { state with lastCycleAttempt := some now }
  | cycleSuccess => { state with lastCycleSuccess := some now, lastPersistSuccess := some now }
  | component .llm llm => { state with llm }
  | component .alertSink alertSink => { state with alertSink }

theorem record_updates (env : CycleEnv) (w : World SqliteStorage) (record : CycleRecord) :
    Updates (record.record env) (record.apply (env.clock w.ticks)) w := by
  cases record with
  | ingestionAttempt _ | ingestionSuccess _ _ | cycleAttempt | cycleSuccess =>
    exact now_updates (operational_updates _)
  | ingestionFailure _ => exact operational_updates _
  | component kind state => cases kind <;> exact operational_updates _

/-- A success brings source data, or finds some, that is no newer than the success itself. -/
def BringsSourceTime (state : OperationalState) (now : DateTime) : CycleRecord → Prop
  | ingestionSuccess _ sourceDataAt => ∃ dataAt, sourceDataAt.or state.sourceDataAt = some dataAt ∧ dataAt ≤ now
  | _ => True

theorem apply_dated {state : OperationalState} {now : DateTime} {record : CycleRecord} (dated : state.Dated)
    (brings : record.BringsSourceTime state now) : (record.apply now state).Dated := by
  cases record with
  | ingestionSuccess source sourceDataAt =>
    intro lastSuccess succeeded
    cases succeeded
    exact brings
  | component kind _ => cases kind <;> exact dated
  | _ => exact dated

end CycleRecord

def afterRecord (env : CycleEnv) (w : World SqliteStorage) (record : CycleRecord) : World SqliteStorage :=
  final (record.record env) w

def runRecords (env : CycleEnv) (w : World SqliteStorage) (records : List CycleRecord) : World SqliteStorage :=
  run (afterRecord env) w records

def RecordsSourceTime (env : CycleEnv) (w : World SqliteStorage) (record : CycleRecord) : Prop :=
  record.BringsSourceTime w.operationalState (env.clock w.ticks)

theorem afterRecord_dated {env : CycleEnv} {w : World SqliteStorage} {record : CycleRecord}
    (dated : w.operationalState.Dated) (records : RecordsSourceTime env w record) :
    (afterRecord env w record).operationalState.Dated := by
  have updates := record.record_updates env w
  have updated := CycleRecord.apply_dated dated records
  unfold afterRecord final
  cases result : record.record env w with
  | ok u w' =>
    rw [updates.ok result]
    exact updated
  | error e w' =>
    rcases updates.error result with same | made
    · rw [same]
      exact dated
    · rw [made]
      exact updated

/-- From a database that holds no operational state, whichever statements of the connection fail: after a run in
    which every successful ingestion records source data no newer than itself, a healthy state is a fresh one, and
    from some moment on it is not healthy any more. -/
theorem stopped_pipeline_degrades (env : CycleEnv) (w : World SqliteStorage) (records : List CycleRecord)
    (unused : w.storage.conn.tables.operationalState = none)
    (timed : EachStep (afterRecord env) (RecordsSourceTime env) w records) (policy : HealthPolicy) :
    (∀ now dbIntegrityOk,
      assess (runRecords env w records).operationalState policy now dbIntegrityOk = .healthy →
        (runRecords env w records).operationalState.FreshAt policy now) ∧
    ∃ last, ∀ now, last < now → ∀ dbIntegrityOk,
      assess (runRecords env w records).operationalState policy now dbIntegrityOk ≠ .healthy := by
  have start : w.operationalState.Dated := by
    unfold World.operationalState
    rw [unused]
    exact fun _ succeeded => by cases succeeded
  have step (w : World SqliteStorage) (record : CycleRecord) (dated : w.operationalState.Dated)
      (timed : RecordsSourceTime env w record) : (afterRecord env w record).operationalState.Dated :=
    afterRecord_dated dated timed
  have dated : (runRecords env w records).operationalState.Dated := timed.invariant step start
  exact ⟨fun now dbIntegrityOk healthy => dated.freshAt healthy, dated.ends_healthy policy⟩

theorem stopped_fixture_degrades :
    let env : CycleEnv := ⟨⟨fun _ => "digest", fun _ => "null", fun _ => "instant", fun _ => "instant"⟩,
      fun tick => 60 * nanosPerSecond * tick, fun _ => "uuid"⟩
    let w : World SqliteStorage := ⟨⟨{ tables := {}, fails := fun _ => none }, false⟩, 0, 0⟩
    let source : GraphSource := { network := .regtest, fixture := some "channels.json", node := "node" }
    let records := [.ingestionAttempt source, .ingestionSuccess source (some 0), .cycleAttempt, .cycleSuccess]
    let state := (runRecords env w records).operationalState
    assess state {} (3600 * nanosPerSecond) true = .healthy ∧
      (∀ now, assess state {} now true = .healthy → state.FreshAt {} now) ∧
      ∃ last, ∀ now, last < now → ∀ ok, assess state {} now ok ≠ .healthy := by
  intro env w source records state
  have timed : EachStep (afterRecord env) (RecordsSourceTime env) w records :=
    ⟨trivial, ⟨0, rfl, by decide⟩, trivial, trivial, trivial⟩
  obtain ⟨fresh, ends⟩ := stopped_pipeline_degrades env w records rfl timed {}
  exact ⟨by decide, fun now => fresh now true, ends⟩

/-- A node without channels brings no source time, so its last ingestion stays healthy at any age. -/
theorem empty_node_stays_healthy :
    let env : CycleEnv := ⟨⟨fun _ => "digest", fun _ => "null", fun _ => "instant", fun _ => "instant"⟩,
      fun tick => 60 * nanosPerSecond * tick, fun _ => "uuid"⟩
    let w : World SqliteStorage := ⟨⟨{ tables := {}, fails := fun _ => none }, false⟩, 0, 0⟩
    let source : GraphSource := { network := .mainnet, lndRest := some "https://localhost:8080", node := "node" }
    let records := [.ingestionAttempt source, .ingestionSuccess source none, .cycleAttempt, .cycleSuccess]
    let state := (runRecords env w records).operationalState
    state.lastIngestionSuccess = some (60 * nanosPerSecond) ∧
      (∀ now, assess state {} now true = .healthy) ∧
      ¬∀ now, assess state {} now true = .healthy → state.FreshAt {} now := by
  intro env w source records state
  have recorded : state = { ({} : OperationalState) with
      source := .lndRest true
      lastIngestionAttempt := some 0
      lastIngestionSuccess := some (60 * nanosPerSecond)
      lastCycleAttempt := some (120 * nanosPerSecond)
      lastCycleSuccess := some (180 * nanosPerSecond)
      lastPersistSuccess := some (180 * nanosPerSecond) } := by decide
  have always (now : DateTime) : assess state {} now true = .healthy := by
    rw [recorded]
    rfl
  refine ⟨by rw [recorded], always, fun fresh => ?_⟩
  obtain ⟨lastSuccess, succeeded, age⟩ := (fresh (4 * 3600 * nanosPerSecond) (always _)).ingestion
  rw [recorded] at succeeded
  cases succeeded
  revert age
  decide

end Rieko
