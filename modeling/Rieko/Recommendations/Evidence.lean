import Rieko.Findings.Finding
import Rieko.Lib.Text

namespace Rieko

inductive RecommendationEngineError where
  | unsupportedDetector (findingId detector : String)
  | unsupportedDetectorVersion (findingId detector version : String)
  | unsupportedSchemaVersion (findingId : String) (version current : Nat)
  | inactiveFinding (findingId : String)
  | unsupportedSeverity (findingId : String) (severity : Severity)
  | missingChannel (findingId : String)
  | emptyChannel (findingId : String)
  | emptyEvidenceKey (findingId : String) (index : Nat)
  | duplicateEvidenceKey (findingId key : String)
  | missingEvidence (findingId key : String)
  | invalidEvidence (findingId key expected : String)
  | unknownDirection (findingId direction : String)
deriving DecidableEq, Repr

namespace RecommendationEngine

abbrev Parse := Except RecommendationEngineError

def validateEvidenceKeys (findingId : String) : Nat → List String → List Evidence → Parse Unit
  | _, _, [] => .ok ()
  | index, keys, evidence :: rest =>
    if Text.isBlank evidence.key then .error (.emptyEvidenceKey findingId index)
    else if evidence.key ∈ keys then .error (.duplicateEvidenceKey findingId evidence.key)
    else validateEvidenceKeys findingId (index + 1) (evidence.key :: keys) rest

def validateCommon (finding : Finding) : Parse Nat := do
  let version ← match finding.detectorVersion with
    | "1" => pure 1
    | "2" => pure 2
    | version => throw (.unsupportedDetectorVersion finding.id finding.detector version)
  if ¬(1 ≤ finding.schemaVersion ∧ finding.schemaVersion ≤ findingSchemaVersion) then
    throw (.unsupportedSchemaVersion finding.id finding.schemaVersion findingSchemaVersion)
  if finding.lifecycle ≠ .active then throw (.inactiveFinding finding.id)
  if finding.severity = .info then throw (.unsupportedSeverity finding.id finding.severity)
  validateEvidenceKeys finding.id 0 [] finding.evidence
  return version

def channel (finding : Finding) : Parse String :=
  match finding.channel with
  | none => .error (.missingChannel finding.id)
  | some channel => if Text.isBlank channel then .error (.emptyChannel finding.id) else .ok channel

def requiredValue (finding : Finding) (key : String) : Parse Json :=
  match finding.evidenceValue key with
  | none => .error (.missingEvidence finding.id key)
  | some value => .ok value

def requiredText (finding : Finding) (key : String) : Parse String := do
  match (← requiredValue finding key).asStr with
  | none => throw (.invalidEvidence finding.id key "a string")
  | some text => return text

def requiredNonemptyText (finding : Finding) (key : String) : Parse String := do
  let value ← requiredText finding key
  if Text.isBlank value then throw (.invalidEvidence finding.id key "a non-empty string")
  return value

def requiredNumber (finding : Finding) (key expected : String) : Parse Binary64 := do
  match (← requiredValue finding key).asF64 with
  | none => throw (.invalidEvidence finding.id key expected)
  | some value =>
    if !value.isFinite then throw (.invalidEvidence finding.id key expected)
    return value

def requiredNumberIn (finding : Finding) (key expected : String) (range : Binary64 → Bool) :
    Parse Binary64 := do
  let value ← requiredNumber finding key expected
  if !range value then throw (.invalidEvidence finding.id key expected)
  return value

def requiredRatio (finding : Finding) (key : String) : Parse Binary64 :=
  requiredNumberIn finding key "a finite number in 0..=1" fun value =>
    (Binary64.ofNat 0).le value && value.le (.ofNat 1)

def requiredNonnegativeNumber (finding : Finding) (key : String) : Parse Binary64 :=
  requiredNumberIn finding key "a finite non-negative number" fun value => !value.lt (.ofNat 0)

def requiredPositiveNumber (finding : Finding) (key : String) : Parse Binary64 :=
  requiredNumberIn finding key "a finite positive number" fun value => !value.le (.ofNat 0)

inductive LiquidityDirection where
  | outbound | inbound
deriving DecidableEq, Repr

structure ChannelLiquidityInput where
  channel : String
  direction : LiquidityDirection
deriving DecidableEq, Repr

structure LiquidityTrendInput where
  channel : String
  startRatio : Binary64
  currentRatio : Binary64
  decline : Binary64
  window : Nat
deriving DecidableEq, Repr

structure SettlementReliabilityInput where
  channel : Option String
  expiredInvoices : Binary64
  settledInvoices : Binary64
  failureRate : Binary64
  chainSynchronized : Bool
  rootCause : String
deriving DecidableEq, Repr

def ChannelLiquidityInput.parse (finding : Finding) : Parse ChannelLiquidityInput := do
  let version ← validateCommon finding
  let channel ← RecommendationEngine.channel finding
  let direction ← match ← requiredText finding "direction" with
    | "outbound" => pure .outbound
    | "inbound" => pure .inbound
    | direction => throw (.unknownDirection finding.id direction)
  discard (requiredRatio finding "local_ratio")
  discard (requiredNonnegativeNumber finding "local_balance_msat")
  discard (requiredNonnegativeNumber finding "remote_balance_msat")
  discard (requiredPositiveNumber finding "capacity_msat")
  discard (requiredNonemptyText finding "peer")
  if version = 2 then discard (requiredRatio finding "severity_threshold")
  return { channel, direction }

def LiquidityTrendInput.parse (finding : Finding) : Parse LiquidityTrendInput := do
  discard (validateCommon finding)
  let channel ← RecommendationEngine.channel finding
  let direction ← requiredText finding "direction"
  if direction ≠ "draining" then throw (.unknownDirection finding.id direction)
  let startRatio ← requiredRatio finding "start_ratio"
  let currentRatio ← requiredRatio finding "current_ratio"
  let decline ← requiredRatio finding "decline"
  discard (requiredRatio finding "min_in_window")
  discard (requiredNonemptyText finding "peer")
  let rawWindow ← requiredNumberIn finding "window" "a positive integral number" fun value =>
    !(value.le (.ofNat 0) || !value.fract.beq (.ofNat 0) || (Binary64.ofNat (2^64 - 1)).le value)
  return { channel, startRatio, currentRatio, decline, window := rawWindow.toU64 }

def SettlementReliabilityInput.parse (finding : Finding) : Parse SettlementReliabilityInput := do
  discard (validateCommon finding)
  let expiredInvoices ← requiredNonnegativeNumber finding "expired_invoices"
  let settledInvoices ← requiredNonnegativeNumber finding "settled_invoices"
  let failureRate ← requiredRatio finding "failure_rate"
  let chainSynchronized ← requiredNonemptyText finding "chain_synchronized"
  let rootCause ← requiredNonemptyText finding "root_cause"
  return {
    channel := finding.channel.filter fun channel => !Text.isBlank channel
    expiredInvoices, settledInvoices, failureRate, rootCause
    chainSynchronized := chainSynchronized = "true" }

end RecommendationEngine

end Rieko
