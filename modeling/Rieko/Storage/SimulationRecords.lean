import Rieko.Simulation.Service

namespace Rieko

open Json
open Identity (utf8 beBytes)

section Validation

-- `displayRead` is the text of an instant that was read from a text, with its offset.
variable (ext : SimulationExternal) (displayRead : String → String)

def uncorrupted (condition : Bool) (message : String) : Except StorageError Unit :=
  if condition then .ok () else .error (.corrupt message)

def validateSimulationStatus (status : String) : Except StorageError Unit :=
  uncorrupted (["requested", "completed", "unsupported", "invalid_input", "stale", "failed"].contains status)
    s!"invalid simulation status {ext.debugText status}"

def validateRfc3339 (label timestamp : String) : Except StorageError Unit :=
  match ext.parseRfc3339 timestamp with
  | .ok _ => .ok ()
  | .error error => .error (.corrupt s!"invalid {label} {ext.debugText timestamp}: {error}")

def isAsciiHexdigit (byte : UInt8) : Bool :=
  (48 ≤ byte && byte ≤ 57) || (65 ≤ byte && byte ≤ 70) || (97 ≤ byte && byte ≤ 102)

def canonicalHash (canonicalInput : Json) : String :=
  let canonical := utf8 (ext.jsonText canonicalInput)
  ext.sha256 (utf8 "rieko-simulation-input-v3" ++ beBytes 8 canonical.length ++ canonical)

def validateFields (value : Json) (complaint : String → String) : List (String × String) → Except StorageError Unit
  | [] => .ok ()
  | (field, expected) :: fields => do
    uncorrupted (value.field field asStr = some expected) (complaint field)
    validateFields value complaint fields

def canonicalActionType (canonicalInput : Json) : Except StorageError String :=
  match canonicalInput.field "action_type" asStr with
  | some "RebalanceChannel" => .ok "rebalance_channel"
  | some "UpdateFeePolicy" => .ok "update_fee_policy"
  | some "RestartService" => .ok "restart_service"
  | some "Custom" => .ok "custom"
  | _ => .error (.corrupt "canonical simulation input has invalid action_type")

def presentText (value : Option String) (message : String) : Except StorageError String :=
  match value with
  | some text => .ok text
  | none => .error (.corrupt message)

def readTimestamp (label timestamp : String) : Except StorageError DateTime :=
  (ext.parseRfc3339 timestamp).mapError fun error => .corrupt s!"invalid {label} source timestamp: {error}"

def validateSourceTimestamp (record : SimulationRecord) : Except StorageError Unit := do
  let canonicalText ← presentText ((record.canonicalInput.get "source_snapshot").bind (·.field "ts" asStr))
    "canonical simulation input has no source timestamp"
  let recordedText ← presentText record.sourceObservedAt "simulation record has no source timestamp"
  let canonicalSource ← readTimestamp ext "canonical" canonicalText
  let recordedSource ← readTimestamp ext "recorded" recordedText
  uncorrupted (canonicalSource = recordedSource)
    (s!"simulation source timestamp {displayRead recordedText} disagrees with canonical input " ++
      displayRead canonicalText)

def validateCanonicalInput (record : SimulationRecord) : Except StorageError Unit := do
  uncorrupted (record.inputHash = canonicalHash ext record.canonicalInput)
    "simulation input hash does not match canonical input"
  validateFields record.canonicalInput (fun field => s!"canonical simulation input {field} disagrees with record")
    [("recommendation_id", record.actionId), ("finding_id", record.findingId), ("model_id", record.modelId),
      ("model_version", record.modelVersion)]
  let actionType ← canonicalActionType record.canonicalInput
  uncorrupted (actionType = record.actionType) "canonical simulation action type disagrees with record"
  validateSourceTimestamp ext displayRead record

def validateProjection (record : SimulationRecord) : Except StorageError Unit := do
  validateFields record.projection (fun field => s!"simulation projection {field} disagrees with record")
    [("model_id", record.modelId), ("model_version", record.modelVersion), ("input_hash", record.inputHash)]
  uncorrupted ((record.projection.get "assumptions").getD .null == record.assumptions &&
      (record.projection.get "warnings").getD .null == record.warnings &&
      record.projection.field "confidence" asStr = some record.confidence)
    "simulation projection metadata disagrees with record"

/-- A projection stands where the status asks for one, and not where it excludes one. -/
def validateEnding (record : SimulationRecord) : Except StorageError Unit :=
  match record.status with
  | "completed" =>
    uncorrupted (!record.projection.isNull) "completed simulation has no deterministic projection"
  | "unsupported" | "invalid_input" | "failed" =>
    uncorrupted record.projection.isNull s!"{record.status} simulation must not contain a projection"
  | _ => .ok ()

def validateSimulationRecord (record : SimulationRecord) : Except StorageError Unit := do
  validateSimulationStatus ext record.status
  uncorrupted (["high", "medium", "low", "unknown"].contains record.confidence)
    s!"invalid simulation confidence {ext.debugText record.confidence}"
  uncorrupted (record.inputHash = "" || (record.inputHash.utf8ByteSize = 64 &&
    (utf8 record.inputHash).all isAsciiHexdigit)) "invalid simulation input hash"
  validateRfc3339 ext "simulation created_at" record.createdAt
  validateRfc3339 ext "simulation requested_at" record.requestedAt
  match record.sourceObservedAt with
  | some timestamp => validateRfc3339 ext "simulation source_observed_at" timestamp
  | none => pure ()
  match record.completedAt with
  | some timestamp => validateRfc3339 ext "simulation completed_at" timestamp
  | none => pure ()
  if !record.canonicalInput.isNull then validateCanonicalInput ext displayRead record
  if !record.canonicalInput.isNull && !record.projection.isNull then validateProjection record
  validateEnding record

end Validation

end Rieko
