import Rieko.Lib.Ladder
import Rieko.Lib.Text
import Rieko.Storage.Types

namespace Rieko

open StatefulResult

def simulationModelId : String := "liquidity-redistribution"

structure CreateSimulationCommand where
  recommendationId : String
  modelId : String
  sourceChannel : String
  destinationChannel : String
  amountSats : Nat
  allowStale : Bool
deriving DecidableEq, Repr

inductive SimulationAppErrorKind where
  | invalidRequest | unknownModel | recommendationNotFound | findingNotFound | simulationNotFound
  | findingInactive | missingContext | snapshotNotFound | staleInput | futureDatedInput
  | unsupportedRecommendation | invalidInput | incompatibleSimulations | storage | modelFailure
deriving DecidableEq, Repr

/-- An error of the application service. It carries a view of the simulation where one was recorded. -/
structure SimulationAppError (V : Type) where
  kind : SimulationAppErrorKind
  message : String
  simulation : Option V

namespace SimulationAppError

variable {V : Type}

def new (kind : SimulationAppErrorKind) (message : String) : SimulationAppError V := ⟨kind, message, none⟩

def ofStorage (error : StorageError) : SimulationAppError V := new .storage error.toString

end SimulationAppError

structure CreateSimulationOutcome (V : Type) where
  simulation : V
  reused : Bool

section Create

variable {V σ : Type}

def CreateSimulationCommand.validate (command : CreateSimulationCommand) :
    Except (SimulationAppError V) Unit := do
  for (name, value) in [("recommendation_id", command.recommendationId), ("model_id", command.modelId),
      ("source_channel", command.sourceChannel), ("destination_channel", command.destinationChannel)] do
    if Text.isBlank value then throw (.new .invalidRequest s!"{name} cannot be empty")
  if command.amountSats = 0 then throw (.new .invalidRequest "amount_sats must be greater than zero")

/-- What is checked before the transaction: the amount in millisatoshi of a command for the known model. -/
def CreateSimulationCommand.amountMsat (command : CreateSimulationCommand) :
    Except (SimulationAppError V) Nat := do
  command.validate
  if command.modelId ≠ simulationModelId then
    throw (.new .unknownModel s!"unknown simulation model: {command.modelId}")
  if 2^64 ≤ command.amountSats * 1000 then throw (.new .invalidRequest "amount_sats is too large")
  return command.amountSats * 1000

/-- The transaction of one command. Its body says whether it wrote; a recorded failure is committed too. -/
def createSimulation [Storage σ]
    (createInTransaction : CreateSimulationCommand → Nat →
      EStateM (SimulationAppError V) σ (CreateSimulationOutcome V × Bool))
    (command : CreateSimulationCommand) :
    EStateM (SimulationAppError V) σ (CreateSimulationOutcome V) :=
  match command.amountMsat with
  | .error e => throw e
  | .ok amountMsat => do
    opening
    match ← attempt (createInTransaction command amountMsat) with
    | .ok (outcome, wrote) =>
      closeOrUndo (if wrote then commit else undo) undo
      return outcome
    | .error e =>
      (if e.simulation.isSome then closeOrUndo commit undo else undo)
      throw e
where
  opening : EStateM (SimulationAppError V) σ Unit := (Storage.beginTransaction (σ := σ)).adaptExcept .ofStorage
  commit : EStateM (SimulationAppError V) σ Unit := (Storage.commitTransaction (σ := σ)).adaptExcept .ofStorage
  undo : EStateM (SimulationAppError V) σ Unit := (Storage.rollbackTransaction (σ := σ)).adaptExcept .ofStorage

end Create

end Rieko
