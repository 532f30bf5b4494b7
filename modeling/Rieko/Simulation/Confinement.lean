import Rieko.Simulation.Replay

namespace Rieko

open StatefulResult

namespace SimulationService

abbrev CallsKeep {σ : Type} [SimulationStorage σ] (property : σ → Prop) : Prop :=
  SimulationsKeep (fun _ => True) property

section Confined

variable {σ : Type} [SimulationStorage σ] {property : σ → Prop} {ext : SimulationExternal}

theorem CallsKeep.among (keeps : CallsKeep property) (good : SimulationRecord → Prop) :
    SimulationsKeep good property :=
  { keeps with saveSimulationV2 := fun record _ => keeps.saveSimulationV2 record trivial }

theorem createInTransaction_confined (keeps : StatementsKeep (fun _ => True) property) (draws : SimulationDraws)
    (command : CreateSimulationCommand) (amountMsat : Nat) :
    Preserves property (createInTransaction ext draws command amountMsat) := by
  refine ((simulationInput_preserves keeps command amountMsat).adapt _).bind fun asked => ?_
  refine (((keeps.simulationV2ByInputHash _).adapt _).adapt _).bind fun existing => ?_
  refine (Preserves.ofExcept _).bind fun answer => ?_
  cases answer with
  | some view => exact Preserves.pure _
  | none =>
    refine (Preserves.ofExcept _).bind fun record => ?_
    refine ((persistOutcome_preserves keeps draws trivial _).adapt _).bind fun _ => ?_
    exact ((Preserves.ofExcept _).adapt _).bind fun view => Preserves.ofExcept _

theorem run_confined (keeps : CallsKeep property) (ext : SimulationExternal) (call : SimulationCall) :
    Preserves property (call.run ext) := by
  have inside : ∀ command amountMsat, Preserves property (createInTransaction ext call.draws command amountMsat) :=
    createInTransaction_confined keeps.toStatementsKeep call.draws
  intro s held
  unfold final SimulationCall.run create
  cases unwinds : unwound (createInTransaction ext call.draws) call.command s with
  | some left =>
    obtain ⟨amountMsat, begun, -, opened, panicked⟩ := (unwound_some _).mp unwinds
    have began := keeps.beginTransaction s held
    unfold final at began
    rw [opened] at began
    have ended := inside call.command amountMsat begun began
    unfold final at ended
    rw [panicked] at ended
    exact ended
  | none =>
    have calm : Preserves property (createSimulation (calm (createInTransaction ext call.draws)) call.command) :=
      createSimulation_preserves (keeps.among (ReplaysProjection ext))
        (fun command amountMsat => (inside command amountMsat).adapt _) call.command
    exact calm.adapt _ s held

end Confined

end SimulationService

end Rieko
