import Rieko.Simulation.Conservation
import Rieko.Simulation.FutureDated

namespace Rieko

open StatefulResult SimulationService

namespace LiquidityRedistributionModel

theorem simulate_ok (ext : External) (codec : SimulationCodec) (input : SimulationInput) :
    (∃ result, simulate ext codec input = .ok result) ↔ validate ext input = .ok () := by
  constructor
  · rintro ⟨result, simulated⟩
    simp only [simulate] at simulated
    obtain ⟨_, valid, -⟩ := bind_ok.mp simulated
    exact valid
  · intro valid
    obtain ⟨direction, accepted⟩ := validate_ok valid
    obtain ⟨sourceLocal, sourceRemote, destinationLocal, destinationRemote⟩ := accepted.calculations
    simp only [simulate, valid, sourceLocal, sourceRemote, destinationLocal, destinationRemote]
    exact ⟨_, rfl⟩

end LiquidityRedistributionModel

def CreateSimulationCommand.Sliceable (command : CreateSimulationCommand) : Prop :=
  Text.BoundaryAt 8 command.sourceChannel.toList ∧ Text.BoundaryAt 8 command.destinationChannel.toList

namespace SimulationService

structure Accepts (ext : SimulationExternal) (call : SimulationCall) (recommendation : Recommendation)
    (input : SimulationInput) : Prop where
  supported : LiquidityRedistributionModel.supports recommendation = true
  observed : input.isFutureAt call.draws.requestedAt = false
  fresh : staleRefused input call.draws.requestedAt call.command.allowStale = false
  valid : LiquidityRedistributionModel.validate ext.toExternal input = .ok ()

/-- The call comes to evaluate the input: the store asks for it, and no record of it answers. -/
def Evaluates {σ : Type} [SimulationStorage σ] (ext : SimulationExternal) (call : SimulationCall) (s : σ)
    (recommendation : Recommendation) (input : SimulationInput) : Prop :=
  ∃ amountMsat begun looked existing left,
    call.command.amountMsat (V := SimulationView) = .ok amountMsat ∧ Storage.beginTransaction s = .ok () begun ∧
    simulationInput ext call.command amountMsat begun = .ok (recommendation, input) looked ∧
    SimulationStorage.simulationV2ByInputHash (inputHash ext input) looked = .ok existing left ∧
    ∀ record, existing = some record →
      record.projection.isNull = true ∧ replaceable call.command.allowStale record = true

theorem plainly_not_panicked {σ α : Type} {program : EStateM PlainError σ α} {s left : σ} :
    plainly program s ≠ .error .panicked left := by
  intro ran
  obtain ⟨inner, -, widened⟩ := adapt_error.mp ran
  cases widened

section Panics

variable {σ : Type} [SimulationStorage σ] {ext : SimulationExternal} {call : SimulationCall} {s left : σ}
  {recommendation : Recommendation} {input : SimulationInput}

theorem evaluated_iff_simulated :
    (∃ result, evaluate ext recommendation input call.draws.requestedAt call.command.allowStale =
    .ok result) ↔ Accepts ext call recommendation input := by
  constructor
  · rintro ⟨result, evaluated⟩
    obtain ⟨supported, observed, fresh, simulated⟩ := evaluate_eq_ok.mp evaluated
    exact ⟨supported, observed, fresh,
      (LiquidityRedistributionModel.simulate_ok ext.toExternal ext.codec input).mp ⟨result, simulated⟩⟩
  · intro accepts
    obtain ⟨result, simulated⟩ :=
      (LiquidityRedistributionModel.simulate_ok ext.toExternal ext.codec input).mpr accepts.valid
    exact ⟨result, evaluate_eq_ok.mpr ⟨accepts.supported, accepts.observed, accepts.fresh, simulated⟩⟩

theorem projection_settle (requestedAt : DateTime) (allowStale : Bool) (outcome : Except ModelError SimulationResult) :
    (settle input requestedAt allowStale outcome).projection = outcome.toOption := by
  cases outcome with
  | ok result => rfl
  | error e =>
    cases e with
    | unsupported modelId => rfl
    | calculationFailed message => rfl
    | serialization message => rfl
    | invalidInput message =>
      simp only [settle]
      split
      · rfl
      split <;> rfl

theorem generateSummary_eq_none (projection : Option SimulationResult) :
    generateSummary input projection = none ↔ projection.isSome = true ∧
      ¬(Text.BoundaryAt 8 input.parameters.sourceChannel.toList ∧
        Text.BoundaryAt 8 input.parameters.destinationChannel.toList) := by
  rw [← Text.leadingBytes_isSome, ← Text.leadingBytes_isSome]
  cases projection with
  | none => simp [generateSummary]
  | some result =>
    simp only [generateSummary]
    cases Text.leadingBytes 8 input.parameters.sourceChannel.toList with
    | none => simp
    | some source => cases Text.leadingBytes 8 input.parameters.destinationChannel.toList <;> simp

theorem simulationInput_parameters {command : CreateSimulationCommand} {amountMsat : Nat}
    (ran : simulationInput ext command amountMsat s = .ok (recommendation, input) left) :
    input.parameters = ⟨command.sourceChannel, command.destinationChannel, amountMsat⟩ := by
  obtain ⟨_, _, -, ran⟩ := bind_ok.mp ran
  obtain ⟨_, _, -, ran⟩ := bind_ok.mp ran
  obtain ⟨_, _, -, ran⟩ := bind_ok.mp ran
  obtain ⟨_, _, -, ran⟩ := bind_ok.mp ran
  obtain ⟨_, _, -, ran⟩ := bind_ok.mp ran
  obtain ⟨_, _, -, ran⟩ := bind_ok.mp ran
  obtain ⟨_, _, -, ran⟩ := bind_ok.mp ran
  obtain ⟨_, _, -, ran⟩ := bind_ok.mp ran
  cases ran
  rfl

theorem evaluateAndPersist_panicked {draws : SimulationDraws} {hash : String} {allowStale : Bool} :
    evaluateAndPersist ext draws recommendation input hash allowStale s = .error .panicked left ↔
      left = s ∧ simulationRecord ext recommendation input draws hash (settle input draws.requestedAt allowStale
        (evaluate ext recommendation input draws.requestedAt allowStale)) = none := by
  simp only [evaluateAndPersist]
  generalize settle input draws.requestedAt allowStale
    (evaluate ext recommendation input draws.requestedAt allowStale) = settlement
  constructor
  · intro ran
    rcases bind_error.mp ran with stopped | ⟨record, begun, built, persisting⟩
    · obtain ⟨missing, rfl⟩ := ofExcept_error.mp stopped
      cases made : simulationRecord ext recommendation input draws hash settlement with
      | none => exact ⟨rfl, rfl⟩
      | some record => rw [made] at missing; cases missing
    rcases bind_error.mp persisting with stopped | ⟨_, persisted, saved, showing⟩
    · exact absurd stopped plainly_not_panicked
    rcases bind_error.mp showing with stopped | ⟨view, shown, viewed, ending⟩
    · exact absurd stopped plainly_not_panicked
    · obtain ⟨concluded, -⟩ := ofExcept_error.mp ending
      simp only [conclude] at concluded
      split at concluded <;> cases concluded
  · rintro ⟨rfl, missing⟩
    rw [missing]
    rfl

theorem answerOfExisting_none_iff {now : DateTime} {allowStale : Bool} {existing : SimulationRecord} :
    answerOfExisting ext now allowStale existing = .ok none ↔
      existing.projection.isNull = true ∧ replaceable allowStale existing = true := by
  constructor
  · exact fun again => ⟨answerOfExisting_none again, answerOfExisting_replaced again⟩
  · rintro ⟨unprojected, replaced⟩
    simp only [replaceable] at replaced
    simp only [answerOfExisting, unprojected, replaced]
    rfl

theorem simulationRecord_eq_none {hash : String} :
    simulationRecord ext recommendation input call.draws hash
      (settle input call.draws.requestedAt call.command.allowStale
        (evaluate ext recommendation input call.draws.requestedAt call.command.allowStale)) = none ↔
      Accepts ext call recommendation input ∧
        ¬(Text.BoundaryAt 8 input.parameters.sourceChannel.toList ∧
          Text.BoundaryAt 8 input.parameters.destinationChannel.toList) := by
  simp only [simulationRecord]
  rw [Option.map_eq_none_iff, generateSummary_eq_none, projection_settle, ← evaluated_iff_simulated]
  cases evaluate ext recommendation input call.draws.requestedAt call.command.allowStale <;> simp [Except.toOption]

theorem answered_none {existing : Option SimulationRecord} {now : DateTime} {allowStale : Bool} :
    (match existing with
      | some record => answerOfExisting ext now allowStale record
      | none => .ok none).mapError Stopped.failed = .ok none ↔
      ∀ record, existing = some record → record.projection.isNull = true ∧ replaceable allowStale record = true := by
  cases existing with
  | none => simp [Except.mapError]
  | some record =>
    simp only [Option.some.injEq, forall_eq']
    rw [← @answerOfExisting_none_iff ext now]
    cases answerOfExisting ext now allowStale record <;> simp [Except.mapError]

theorem createInTransaction_panicked {amountMsat : Nat} :
    createInTransaction ext call.draws call.command amountMsat s = .error .panicked left ↔
      ∃ recommendation input looked existing,
        simulationInput ext call.command amountMsat s = .ok (recommendation, input) looked ∧
        SimulationStorage.simulationV2ByInputHash (inputHash ext input) looked = .ok existing left ∧
        (∀ record, existing = some record →
          record.projection.isNull = true ∧ replaceable call.command.allowStale record = true) ∧
        Accepts ext call recommendation input ∧ ¬call.command.Sliceable := by
  simp only [createInTransaction]
  constructor
  · intro ran
    rcases bind_error.mp ran with stopped | ⟨⟨recommendation, input⟩, looked, asked, looking⟩
    · exact absurd stopped plainly_not_panicked
    rcases bind_error.mp looking with stopped | ⟨existing, found, held, answering⟩
    · exact absurd stopped plainly_not_panicked
    rcases bind_error.mp answering with stopped | ⟨answer, answered, silent, evaluating⟩
    · obtain ⟨inner, -, wrapped⟩ := mapError_error.mp (ofExcept_error.mp stopped).1
      cases wrapped
    obtain ⟨unanswered, rfl⟩ := ofExcept_ok.mp silent
    cases answer with
    | some view => cases evaluating
    | none =>
      have input_ran := adapt_ok.mp asked
      obtain ⟨rfl, missing⟩ := evaluateAndPersist_panicked.mp evaluating
      obtain ⟨accepts, cut⟩ := simulationRecord_eq_none.mp missing
      rw [simulationInput_parameters input_ran] at cut
      exact ⟨recommendation, input, looked, existing, input_ran, adapt_ok.mp (adapt_ok.mp held),
        answered_none.mp unanswered, accepts, cut⟩
  · rintro ⟨recommendation, input, looked, existing, ran, found, unanswered, accepts, cut⟩
    have missing := (@simulationRecord_eq_none ext call recommendation input (inputHash ext input)).mpr
      ⟨accepts, by rw [simulationInput_parameters ran]; exact cut⟩
    rw [bind_of_ok (show plainly _ _ = _ from adapt_of_ok ran)]
    dsimp only
    rw [bind_of_ok (show plainly (stored _) looked = .ok existing left from adapt_of_ok (adapt_of_ok found))]
    exact (bind_of_ok (ofExcept_ok.mpr ⟨answered_none.mpr unanswered, rfl⟩) _).trans
      (evaluateAndPersist_panicked.mpr ⟨rfl, missing⟩)

theorem run_panicked : call.run ext s = .error .panicked left ↔
    ∃ amountMsat begun, call.command.amountMsat (V := SimulationView) = .ok amountMsat ∧
      Storage.beginTransaction s = .ok () begun ∧
      createInTransaction ext call.draws call.command amountMsat begun = .error .panicked left := by
  simp only [SimulationCall.run, create]
  constructor
  · intro ran
    cases panics : unwound (createInTransaction ext call.draws) call.command s with
    | none =>
      rw [panics] at ran
      obtain ⟨inner, -, wrapped⟩ := adapt_error.mp ran
      cases wrapped
    | some stopped =>
      rw [panics] at ran
      cases ran
      exact (unwound_some _).mp panics
  · intro panics
    rw [(unwound_some _).mpr panics]

end Panics

end SimulationService

/-- A call panics where it evaluates an input that the model accepts and eight bytes of a channel id end inside a
    character. The only other step that the source leaves unchecked, the sum in the warnings, fits 64 bits. -/
theorem create_simulation_panics_iff {σ : Type} [SimulationStorage σ] (ext : SimulationExternal) (call : SimulationCall)
    (s : σ) :
    ((∀ left, call.run ext s ≠ .error .panicked left) ↔
      ∀ recommendation input, Evaluates ext call s recommendation input → Accepts ext call recommendation input →
        call.command.Sliceable) ∧
    ∀ input, LiquidityRedistributionModel.validate ext.toExternal input = .ok () →
      input.destinationSnapshot.localBalanceMsat + input.parameters.amountMsat < 2^64 := by
  constructor
  · constructor
    · intro returns recommendation input evaluates accepts
      by_contra cut
      obtain ⟨amountMsat, begun, looked, existing, left, valid, begins, ran, found, unanswered⟩ := evaluates
      apply returns left
      exact run_panicked.mpr ⟨amountMsat, begun, valid, begins, createInTransaction_panicked.mpr
        ⟨recommendation, input, looked, existing, ran, found, unanswered, accepts, cut⟩⟩
    · intro sliceable left panics
      obtain ⟨amountMsat, begun, valid, begins, inside⟩ := run_panicked.mp panics
      obtain ⟨recommendation, input, looked, existing, ran, found, unanswered, accepts, cut⟩ :=
        createInTransaction_panicked.mp inside
      exact cut (sliceable recommendation input
        ⟨amountMsat, begun, looked, existing, left, valid, begins, ran, found, unanswered⟩ accepts)
  · intro input valid
    obtain ⟨direction, accepted⟩ := LiquidityRedistributionModel.validate_ok valid
    exact accepted.fits

/-- The source channel's id has its eighth byte inside its last character. -/
theorem create_simulation_panics_in_character :
    ∃ left, (Rebalance.call "channelé" "drained" Rebalance.late "first").run (Rebalance.service "channelé" "drained")
      (Rebalance.store "channelé" "drained") = .error .panicked left := by
  have panics : fails (fun stopped _ => stopped.isPanic)
      ((Rebalance.call "channelé" "drained" Rebalance.late "first").run (Rebalance.service "channelé" "drained"))
      (Rebalance.store "channelé" "drained") = true := by decide +kernel
  obtain ⟨stopped, left, ran, panicked⟩ := exists_of_fails panics
  cases stopped with
  | panicked => exact ⟨left, ran⟩
  | failed error => cases panicked

end Rieko
