import Rieko.Simulation.Confinement
import Rieko.Simulation.Panics
import Rieko.Storage.Snapshots
import Rieko.Storage.SqliteSimulations
import Rieko.Storage.SqliteTransactions
import Rieko.Storage.TextStorage

/-! The calls of the simulation service over SQLite. Findings, recommendations and simulations are read from the
    columns that they were written to. -/

namespace Rieko

open SqlConnection SqlValue StatefulResult SimulationService

namespace RowText

variable (text : RowText) (ext : SimulationExternal) (displayRead : String → String)

def rereadFinding (finding : Finding) : Except StorageError Finding :=
  let row := (TextTables.findingDefaults.set
    (TextTables.findingValues text finding (instantText finding.firstSeenAt))).set
    [("lifecycle", .text finding.lifecycle.columnText)]
  (text.rowToFinding (row.select findingColumns)).mapError text.rowError

def rereadRecommendation (recommendation : Recommendation) : Except StorageError Recommendation :=
  let row := (TextTables.recommendationDefaults.set (TextTables.recommendationValues text recommendation)).set
    [("lifecycle", ofOption .text recommendation.lifecycle)]
  (text.rowToRecommendation (row.select recommendationColumns)).mapError text.rowError

def rereadSimulation (record : SimulationRecord) : Except StorageError SimulationRecord :=
  let row := TextTables.nullRow.set (TextTables.simulationValues text record)
  (text.rowToSimulationV2 ext displayRead (row.select simulationColumns)).mapError text.rowError

section Storable

variable {text ext displayRead}

theorem rereadFinding_storable (documented : text.Documented) {finding : Finding}
    (storable : text.StorableFinding finding) (supported : validateFindingSchema finding.schemaVersion = .ok ()) :
    text.rereadFinding finding = .ok finding := by
  have inserted := FindingStands.inserted storable supported storable.firstSeenAt
  have columns : FindingColumns text written
      ((TextTables.findingDefaults.set (TextTables.findingValues text finding (instantText finding.firstSeenAt))).set
        [("lifecycle", .text finding.lifecycle.columnText)]) finding :=
    { inserted.columns with lifecycle := rfl }
  rw [rereadFinding, rowToFinding_ok.mpr (columns.imp fun _ _ _ => documented.reads)]
  rfl

theorem rereadRecommendation_storable (documented : text.Documented) {recommendation : Recommendation}
    (storable : text.StorableRecommendation recommendation) :
    text.rereadRecommendation recommendation = .ok recommendation := by
  have columns : RecommendationColumns text written
      ((TextTables.recommendationDefaults.set (TextTables.recommendationValues text recommendation)).set
        [("lifecycle", ofOption .text recommendation.lifecycle)]) recommendation := {
    findingId := rfl, actionId := rfl, actionType := rfl, stage := rfl, target := rfl
    params := ⟨_, rfl, storable.params⟩, summary := rfl, rationale := ⟨_, rfl, storable.rationale⟩
    createdAt := ⟨rfl, storable.createdAt⟩, updatedAt := ⟨rfl, storable.updatedAt⟩
    lifecycle := by
      show recommendationLifecycle (ofOption .text recommendation.lifecycle) = _
      cases recommendation.lifecycle <;> rfl }
  rw [rereadRecommendation, rowToRecommendation_ok.mpr (columns.imp fun _ _ _ => documented.reads)]
  rfl

theorem rereadSimulation_storable {record : SimulationRecord} (storable : text.StorableSimulation record)
    (valid : validateSimulationRecord ext displayRead record = .ok ()) :
    text.rereadSimulation ext displayRead record = .ok record := by
  rw [rereadSimulation, rowToSimulationV2_ok.mpr ⟨TextTables.simulationColumns_written storable, valid⟩]
  rfl

end Storable

end RowText

namespace SqliteStorage

variable (text : RowText) (ext : SimulationExternal) (displayRead : String → String)

/-- The first row of a query, read from its texts. -/
def queryReread {α : Type} (reread : α → Except StorageError α) (row : Tables → Option α) : SqliteM (Option α) := do
  ofExcept (Option.mapM reread (← sql .backend (query row)))

def simulationV2ByInputHash (inputHash : String) : SqliteM (Option SimulationRecord) :=
  if inputHash.isEmpty then pure none
  else queryReread (text.rereadSimulation ext displayRead) (Tables.latestOfInput inputHash)

@[reducible] def simulationStorage : SimulationStorage SqliteStorage where
  toStorage := { (inferInstance : Storage SqliteStorage) with
    recommendationForAction := fun actionId => queryReread text.rereadRecommendation fun tables =>
      Rows.lookup (·.action.id) tables.recommendations actionId }
  findingById findingId := queryReread text.rereadFinding fun tables =>
    (Rows.lookup FindingRow.id tables.findings findingId).map (·.finding)
  channelSnapshotAt := SqliteStorage.channelSnapshotAt
  simulationV2ByInputHash := simulationV2ByInputHash text ext displayRead
  saveSimulationV2 := saveSimulationV2 ext displayRead
  appendSimulationEvent := appendSimulationEvent ext

section Exact

variable {text ext displayRead} {s : SqliteStorage}

theorem queryReread_eq {α : Type} {reread : α → Except StorageError α} {row : Tables → Option α}
    (reads : ∀ a ∈ row s.conn.tables, reread a = .ok a) :
    queryReread reread row s = sql StorageError.backend (query row) s := by
  unfold queryReread
  cases ran : sql StorageError.backend (query row) s with
  | error e s' => rw [bind_of_error ran]
  | ok found s' =>
    rw [bind_of_ok ran]
    obtain ⟨conn, queried, rfl⟩ := sql_ok.mp ran
    obtain ⟨-, rfl, -⟩ := query_ok.mp queried
    cases held : row s.conn.tables with
    | none => rfl
    | some a =>
      have read : Option.mapM reread (some a) = .ok (some a) := congrArg (some <$> ·) (reads a held)
      exact ofExcept_ok.mpr ⟨read, rfl⟩

/-- What is stored is read back as it was written. -/
structure Exact (text : RowText) (ext : SimulationExternal) (displayRead : String → String) (tables : Tables) :
    Prop where
  findings : ∀ row ∈ tables.findings, text.StorableFinding row.finding ∧
    validateFindingSchema row.finding.schemaVersion = .ok ()
  recommendations : ∀ recommendation ∈ tables.recommendations, text.StorableRecommendation recommendation
  simulations : ∀ record ∈ tables.simulations, text.StorableSimulation record ∧
    validateSimulationRecord ext displayRead record = .ok ()

/-- Over tables that are read back as they were written, the service finds the records themselves. -/
theorem simulation_queries_exact (documented : text.Documented) (exact : Exact text ext displayRead s.conn.tables) :
    let storage := simulationStorage text ext displayRead
    (∀ actionId, storage.recommendationForAction actionId s = SqliteStorage.recommendationForAction actionId s) ∧
    (∀ findingId, storage.findingById findingId s = SqliteStorage.findingById findingId s) ∧
    ∀ inputHash, inputHash ≠ "" →
      storage.simulationV2ByInputHash inputHash s = sql .backend (query (Tables.latestOfInput inputHash)) s := by
  refine ⟨fun actionId => queryReread_eq fun recommendation found => ?_,
    fun findingId => queryReread_eq fun finding found => ?_, fun inputHash filled => ?_⟩
  · exact RowText.rereadRecommendation_storable documented
      (exact.recommendations recommendation (Rows.mem_of_lookup found))
  · obtain ⟨row, looked, rfl⟩ := Option.map_eq_some_iff.mp found
    obtain ⟨storable, supported⟩ := exact.findings row (Rows.mem_of_lookup looked)
    exact RowText.rereadFinding_storable documented storable supported
  · show SqliteStorage.simulationV2ByInputHash text ext displayRead inputHash s = _
    unfold SqliteStorage.simulationV2ByInputHash
    rw [if_neg (by simpa using filled)]
    refine queryReread_eq fun record found => ?_
    have listed := (Ranking.latestFirst_perm _ _).mem_iff.mp (List.mem_of_head? found)
    obtain ⟨storable, valid⟩ := exact.simulations record (List.mem_of_mem_filter listed)
    exact RowText.rereadSimulation_storable storable valid

end Exact

section Keeps

variable {property : SqliteStorage → Prop}

theorem queryReread_keeps {α : Type} (stable : ∀ s s', SameTransaction s s' → property s → property s')
    (reread : α → Except StorageError α) (row : Tables → Option α) : Preserves property (queryReread reread row) :=
  (sql_statement_keeps stable _ _).bind fun _ => Preserves.ofExcept _

theorem simulation_statements_keep (stable : ∀ s s', SameTransaction s s' → property s → property s') :
    @StatementsKeep SqliteStorage (simulationStorage text ext displayRead) (fun _ => True) property :=
  letI := simulationStorage text ext displayRead
  { recommendationForAction := fun _ => queryReread_keeps stable _ _
    findingById := fun _ => queryReread_keeps stable _ _
    channelSnapshotAt := fun _ _ _ _ => sql_statement_keeps stable _ _
    simulationV2ByInputHash := by
      intro hash
      show Preserves property (SqliteStorage.simulationV2ByInputHash text ext displayRead hash)
      unfold SqliteStorage.simulationV2ByInputHash
      split
      · exact .pure _
      · exact queryReread_keeps stable _ _
    saveSimulationV2 := by
      intro record _
      show Preserves property (SqliteStorage.saveSimulationV2 ext displayRead record)
      unfold SqliteStorage.saveSimulationV2
      split
      · exact .throw _
      · exact sql_statement_keeps stable _ _
    appendSimulationEvent := fun event =>
      (Preserves.ofExcept _).bind fun _ => (Preserves.ofExcept _).bind fun _ => sql_statement_keeps stable _ _ }

end Keeps

end SqliteStorage

def SimulationCall.runSqlite (text : RowText) (ext : SimulationExternal) (displayRead : String → String)
    (call : SimulationCall) : EStateM (Stopped SimulationView) SqliteStorage Answer :=
  @SimulationCall.run SqliteStorage (SqliteStorage.simulationStorage text ext displayRead) ext call

/-- The call comes to evaluate an input that the model accepts, and cuts a channel id inside a character. -/
def SimulationCall.Unwinds (text : RowText) (ext : SimulationExternal) (displayRead : String → String)
    (call : SimulationCall) (s : SqliteStorage) : Prop :=
  ¬call.command.Sliceable ∧ ∃ recommendation input,
    @Evaluates SqliteStorage (SqliteStorage.simulationStorage text ext displayRead) ext call s recommendation input ∧
      Accepts ext call recommendation input

namespace SqliteStorage

section Runs

variable (text : RowText) (ext : SimulationExternal) (displayRead : String → String) {s : SqliteStorage}

theorem createSimulation_idle {V : Type} {body : CreateSimulationCommand → Nat →
      EStateM (SimulationAppError V) SqliteStorage (CreateSimulationOutcome V × Bool)}
    (keeps : ∀ command amountMsat, Preserves Begun (body command amountMsat)) (command : CreateSimulationCommand)
    (idle : s.Idle) :
    (final (@createSimulation V SqliteStorage
      (simulationStorage text ext displayRead).toStorage body command) s).Idle := by
  have committing := brackets.adapt (SimulationAppError.ofStorage (V := V))
  have undoing := undo_brackets.adapt (SimulationAppError.ofStorage (V := V))
  unfold createSimulation
  cases command.amountMsat (V := V) with
  | error e => exact idle
  | ok amountMsat =>
    dsimp only
    have opened := committing.opens s idle
    rw [final_bind]
    cases first : @createSimulation.opening V SqliteStorage (simulationStorage text ext displayRead).toStorage s with
    | error e m =>
      simp only [show beginTransaction.adaptExcept _ s = _ from first] at opened
      exact opened
    | ok u m =>
      simp only [show beginTransaction.adaptExcept _ s = _ from first] at opened
      have ran := keeps command amountMsat m opened
      unfold final at ran
      dsimp only
      rw [final_bind]
      cases middle : body command amountMsat m with
      | error e m' =>
        rw [middle] at ran
        rw [attempt_of_error middle]
        dsimp only
        rw [final_bind_of_stays fun _ _ => rfl]
        split
        · exact committing.closeOrUndo_idle ran
        · exact committing.undoes m' ran
      | ok a m' =>
        rw [middle] at ran
        rw [attempt_of_ok middle]
        dsimp only
        rw [final_bind_of_stays fun _ _ => rfl]
        cases a.2
        · exact undoing.closeOrUndo_idle ran
        · exact committing.closeOrUndo_idle ran

theorem createInTransaction_begun (draws : SimulationDraws) (command : CreateSimulationCommand) (amountMsat : Nat) :
    Preserves Begun (@createInTransaction SqliteStorage (simulationStorage text ext displayRead) ext draws command
      amountMsat) :=
  letI := simulationStorage text ext displayRead
  createInTransaction_confined (simulation_statements_keep text ext displayRead Begun.stable) draws command amountMsat

variable {text ext displayRead} {call : SimulationCall}

theorem runSqlite_panicked {left : SqliteStorage}
    (ran : call.runSqlite text ext displayRead s = .error .panicked left) :
    call.Unwinds text ext displayRead s ∧ left.Begun := by
  let := simulationStorage text ext displayRead
  obtain ⟨amountMsat, begun, valid, opened, panicked⟩ := run_panicked.mp ran
  obtain ⟨recommendation, input, looked, existing, asked, found, unanswered, accepts, cut⟩ :=
    createInTransaction_panicked.mp panicked
  have open' : begun.Begun := by
    obtain ⟨-, rfl⟩ := beginTransaction_ok opened
    exact ⟨rfl, rfl⟩
  have kept := createInTransaction_begun text ext displayRead call.draws call.command amountMsat begun open'
  rw [final, panicked] at kept
  exact ⟨⟨cut, recommendation, input,
    ⟨amountMsat, begun, looked, existing, left, valid, opened, asked, found, unanswered⟩, accepts⟩, kept⟩

theorem runSqlite_unwinds (unwinds : call.Unwinds text ext displayRead s) :
    (final (call.runSqlite text ext displayRead) s).Begun := by
  let := simulationStorage text ext displayRead
  obtain ⟨cut, recommendation, input, ⟨amountMsat, begun, looked, existing, left, valid, opened, asked, found,
    unanswered⟩, accepts⟩ := unwinds
  have ran : call.runSqlite text ext displayRead s = .error .panicked left :=
    run_panicked.mpr ⟨amountMsat, begun, valid, opened, createInTransaction_panicked.mpr
      ⟨recommendation, input, looked, existing, asked, found, unanswered, accepts, cut⟩⟩
  rw [final, ran]
  exact (runSqlite_panicked ran).2

/-- A call that does not unwind ends its transaction, whatever statements fail. -/
theorem runSqlite_idle (returns : ¬call.Unwinds text ext displayRead s) (idle : s.Idle) :
    (final (call.runSqlite text ext displayRead) s).Idle := by
  let := simulationStorage text ext displayRead
  cases panics : unwound (createInTransaction (σ := SqliteStorage) ext call.draws) call.command s with
  | some left =>
    have ran : call.runSqlite text ext displayRead s = .error .panicked left := by
      show create _ _ s = _
      rw [create, panics]
    exact absurd (runSqlite_panicked ran).1 returns
  | none =>
    have ran : call.runSqlite text ext displayRead s =
        (createSimulation (calm (createInTransaction ext call.draws)) call.command).adaptExcept .failed s := by
      show create _ _ s = _
      rw [create, panics]
    rw [final, ran]
    have ends : (final (createSimulation (calm (createInTransaction ext call.draws)) call.command) s).Idle :=
      createSimulation_idle text ext displayRead (fun command amountMsat =>
        (createInTransaction_begun text ext displayRead call.draws command amountMsat).adapt _) call.command idle
    rw [← final_adapt Stopped.failed] at ends
    exact ends

end Runs

end SqliteStorage

end Rieko
