import Rieko.Findings.Action
import Rieko.Lib.Text

namespace Rieko

inductive ExecutionError where
  | illegalTransition (source target : ActionStage)
  | needsHuman (actor : String)
  | notExecutable (actionId : String)
  | unsupported (actionType : String)
  | missingParams (message : String)
  | node (message : String)
deriving DecidableEq, Repr

def systemActor : String := "system"

def canTransition : ActionStage → ActionStage → Bool
  | .recommended, .simulated | .recommended, .approved | .simulated, .approved | .approved, .executed
  | .recommended, .rejected | .simulated, .rejected | .approved, .rejected | .approved, .failed => true
  | _, _ => false

/-- Promotes an action to a later stage. Only a human may approve. -/
def transition (action : Action) (target : ActionStage) (actor : String) : Except ExecutionError ActionStage :=
  if !canTransition action.stage target then .error (.illegalTransition action.stage target)
  else if target = .approved ∧ (Text.isBlank actor ∨ actor = systemActor) then .error (.needsHuman actor)
  else .ok target

def isExecutable (action : Action) : Bool := action.stage = .approved

theorem transition_ok {action : Action} {target next : ActionStage} {actor : String}
    (accepted : transition action target actor = .ok next) :
    canTransition action.stage target = true ∧ next = target := by
  unfold transition at accepted
  split at accepted
  · cases accepted
  next legal =>
    split at accepted
    · cases accepted
    · cases accepted
      exact ⟨by simpa using legal, rfl⟩

theorem rejected_is_final (target : ActionStage) : canTransition .rejected target = false := by
  cases target <;> rfl

end Rieko
