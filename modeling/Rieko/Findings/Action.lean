import Rieko.Findings.Finding

namespace Rieko

inductive ActionStage where
  | recommended | simulated | approved | executed | rejected | failed
deriving DecidableEq, Repr

inductive ActionType where
  | rebalanceChannel | updateFeePolicy | restartService | custom
deriving DecidableEq, Repr

def ActionType.asStr : ActionType → String
  | .rebalanceChannel => "rebalance_channel"
  | .updateFeePolicy => "update_fee_policy"
  | .restartService => "restart_service"
  | .custom => "custom"

structure Action where
  id : String
  actionType : ActionType
  stage : ActionStage
  target : Option String
  params : Json
  summary : String
  createdAt : DateTime
  updatedAt : DateTime

inductive Actionability where
  | informational | operatorActionable
deriving DecidableEq, Repr

structure Rationale where
  evidence : List String
  preconditions : List String
  expectedEffect : String
  risks : List String
  limitations : List String
  actionability : Actionability
deriving DecidableEq, Repr

/-- A missing lifecycle reads as active. -/
structure Recommendation where
  findingId : String
  action : Action
  rationale : Rationale
  lifecycle : Option String

namespace Recommendation

def isActive (recommendation : Recommendation) : Bool :=
  recommendation.lifecycle.getD "active" = "active"

end Recommendation

/-- One row of the append-only audit log. Creation entries have no previous stage. -/
structure AuditEntry where
  id : String
  actionId : String
  actionType : ActionType
  previousStage : Option ActionStage
  stage : ActionStage
  actor : String
  details : Json
  timestamp : DateTime

namespace AuditEntry

def fromAction (id : String) (timestamp : DateTime) (action : Action) (actor : String) (details : Json) :
    AuditEntry where
  id
  actionId := action.id
  actionType := action.actionType
  previousStage := none
  stage := action.stage
  actor
  details
  timestamp

def fromTransition (id : String) (timestamp : DateTime) (action : Action) (source : ActionStage)
    (actor : String) (details : Json) : AuditEntry where
  id
  actionId := action.id
  actionType := action.actionType
  previousStage := some source
  stage := action.stage
  actor
  details
  timestamp

end AuditEntry

structure SimulationProjection where
  localRatioBefore : Binary64
  localRatioAfter : Binary64
  localBalanceMsatAfter : Nat
  remoteBalanceMsatAfter : Nat
  deltaMsat : Nat
  clearsFinding : Bool
  summary : String
deriving DecidableEq, Repr

structure Simulation where
  id : String
  actionId : String
  findingId : String
  actionType : ActionType
  projection : SimulationProjection
  createdAt : DateTime
deriving DecidableEq, Repr

end Rieko
