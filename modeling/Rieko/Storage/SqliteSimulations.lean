import Rieko.Lib.Ranking
import Rieko.Storage.SimulationRecords
import Rieko.Storage.Sqlite

namespace Rieko

namespace Tables

/-- `INSERT INTO simulations`, under the primary key and the unique index over the inputs of replayable results. -/
def insertSimulation (record : SimulationRecord) (tables : Tables) : Except String (Tables × Unit) :=
  if tables.simulations.any (·.id = record.id) then .error "UNIQUE constraint failed: simulations.id"
  else if record.inputHash ≠ "" ∧ record.replayable ∧ tables.simulations.any fun row =>
      row.inputHash = record.inputHash ∧ row.replayable then
    .error "UNIQUE constraint failed: simulations.input_hash"
  else .ok ({ tables with simulations := tables.simulations ++ [record] }, ())

/-- `INSERT INTO simulation_events`, under the primary key and the reference to the simulation. -/
def insertSimulationEvent (event : SimulationEvent) (tables : Tables) : Except String (Tables × Unit) :=
  if tables.simulationEvents.any (·.id = event.id) then .error "UNIQUE constraint failed: simulation_events.id"
  else if tables.simulations.any (·.id = event.simulationId) then
    .ok ({ tables with simulationEvents := tables.simulationEvents ++ [event] }, ())
  else .error "FOREIGN KEY constraint failed"

def latestOfInput (inputHash : String) (tables : Tables) : Option SimulationRecord :=
  (Ranking.latestFirst (·.createdAt) (tables.simulations.filter fun record =>
    record.inputHash = inputHash ∧ !record.canonicalInput.isNull)).head?

end Tables

namespace SqliteStorage

open SqlConnection

variable (ext : SimulationExternal) (displayRead : String → String)

def saveSimulationV2 (record : SimulationRecord) : SqliteM Unit :=
  match validateSimulationRecord ext displayRead record with
  | .error e => throw e
  | .ok () => sql .backend (statement (Tables.insertSimulation record))

def rowToSimulationV2 (record : SimulationRecord) : SqliteM SimulationRecord :=
  match validateSimulationRecord ext displayRead record with
  | .error e => throw e
  | .ok () => pure record

def simulationV2ById (simulationId : String) : SqliteM (Option SimulationRecord) := do
  match ← sql .backend (query fun tables => Rows.lookup SimulationRecord.id tables.simulations simulationId) with
  | some record => return some (← rowToSimulationV2 ext displayRead record)
  | none => return none

def appendSimulationEvent (event : SimulationEvent) : SqliteM Unit := do
  ofExcept (validateSimulationStatus ext event.status)
  ofExcept (validateRfc3339 ext "simulation event timestamp" event.timestamp)
  sql .backend (statement (Tables.insertSimulationEvent event))

end SqliteStorage

end Rieko
