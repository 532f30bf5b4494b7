import Rieko.Execution.Transition
import Rieko.Findings.Identity

namespace Rieko

structure ExecutionReport where
  success : Bool
  detail : String
deriving DecidableEq, Repr

/-- The REST calls that change a node, and the reading of a JSON response. -/
structure LndMutator where
  updateChanPolicy : String → Except String String
  sendPayment : String → Except String String
  parse : String → Option Json

def Action.textParam (action : Action) (key : String) : Option String := (action.params.get key).bind Json.asStr

def Action.numberParam (action : Action) (key : String) : Option Nat := (action.params.get key).bind Json.asU64

def rebalanceRequest (ext : External) (paymentAddr : String) (action : Action) : Except ExecutionError String :=
  match action.textParam "chan_point" with
  | none => .error (.missingParams "chan_point required")
  | some chanPoint =>
    match action.numberParam "delta_msat" with
    | none => .error (.missingParams "delta_msat required")
    | some deltaMsat =>
      let peerPubkey := (action.textParam "peer_pubkey").getD ""
      let expiry : Json := .number (.posInt 144)
      let hop := [("chan_point", .string chanPoint), ("amt_to_forward_msat", .string (toString deltaMsat)),
        ("expiry", expiry)] ++ if peerPubkey = "" then [] else [("pub_key", .string peerPubkey)]
      .ok (ext.jsonText (.ofPairs [("payment_addr", .string paymentAddr),
        ("route", .ofPairs [("hops", .array [.ofPairs hop]), ("total_time_lock", expiry),
          ("total_amt_msat", .string (toString deltaMsat))])]))

/-- A policy update is global unless a channel point is given. -/
def feePolicyBody (action : Action) : List (String × Json) :=
  let number (key field : String) := ((action.numberParam key).map fun n => (field, Json.number (.posInt n))).toList
  number "fee_rate_ppm" "fee_rate_ppm" ++ number "base_fee_msat" "fee_base_msat" ++
    number "cltv_delta" "time_lock_delta" ++
    ((action.textParam "chan_point").map fun point => ("chan_point", Json.string point)).toList

def feePolicyRequest (ext : External) (action : Action) : Except ExecutionError String :=
  let body := feePolicyBody action
  if body.isEmpty then .error (.missingParams "no fee params on action") else .ok (ext.jsonText (.ofPairs body))

namespace LndExecutor

def execute (ext : External) (client : LndMutator) (paymentAddr : String) (action : Action) :
    Except ExecutionError ExecutionReport :=
  if !isExecutable action then .error (.notExecutable action.id)
  else
    match action.actionType with
    | .updateFeePolicy => do
      let body ← feePolicyRequest ext action
      let response ← (client.updateChanPolicy body).mapError .node
      return ⟨true, s!"update_channel_policy accepted: {response}"⟩
    | .rebalanceChannel => do
      let body ← rebalanceRequest ext paymentAddr action
      let response ← (client.sendPayment body).mapError .node
      let hash := ((client.parse response).bind fun value => (value.get "payment_hash").bind Json.asStr).getD "unknown"
      return ⟨true, s!"rebalance payment sent: payment_hash={hash}"⟩
    | .restartService | .custom => .error (.unsupported action.actionType.asStr)

end LndExecutor

def executionParams : List String := ["chan_point", "fee_rate_ppm", "base_fee_msat", "cltv_delta"]

section

variable {action : Action}

theorem rebalanceRequest_missing (absent : ∀ key ∈ executionParams, action.params.get key = none) (ext : External)
    (paymentAddr : String) :
    rebalanceRequest ext paymentAddr action = .error (.missingParams "chan_point required") := by
  have point : action.textParam "chan_point" = none := by
    unfold Action.textParam
    rw [absent "chan_point" (by decide)]
    rfl
  unfold rebalanceRequest
  rw [point]

theorem feePolicyRequest_missing (absent : ∀ key ∈ executionParams, action.params.get key = none) (ext : External) :
    feePolicyRequest ext action = .error (.missingParams "no fee params on action") := by
  have numbers (key : String) (member : key ∈ executionParams) : action.numberParam key = none := by
    unfold Action.numberParam
    rw [absent key member]
    rfl
  have point : action.textParam "chan_point" = none := by
    unfold Action.textParam
    rw [absent "chan_point" (by decide)]
    rfl
  have body : feePolicyBody action = [] := by
    unfold feePolicyBody
    dsimp only
    rw [point, numbers "fee_rate_ppm" (by decide), numbers "base_fee_msat" (by decide),
      numbers "cltv_delta" (by decide)]
    rfl
  unfold feePolicyRequest
  dsimp only
  rw [body]
  rfl

end

end Rieko
