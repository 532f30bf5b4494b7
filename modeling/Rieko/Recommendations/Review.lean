import Rieko.Execution.Lnd
import Rieko.Recommendations.Engine

namespace Rieko

namespace RecommendationEngine

/-- An action that waits for review, has its identity from its finding, and holds nothing to execute it with. -/
structure ForReview (ext : External) (finding : Finding) (recommendation : Recommendation) : Prop where
  linked : recommendation.findingId = finding.id
  identified : recommendation.action.id =
    actionIdentity ext finding.id recommendation.action.actionType recommendation.action.target
  stage : recommendation.action.stage = .recommended
  inert : ∀ key ∈ executionParams, recommendation.action.params.get key = none

theorem get_executionParam {pairs : List (String × Json)}
    (disjoint : ∀ key ∈ executionParams, key ∉ pairs.map Prod.fst) :
    ∀ key ∈ executionParams, (Json.ofPairs pairs).get key = none :=
  fun key needed => Json.get_ofPairs_of_absent (disjoint key needed)

theorem buildRebasedReview_forReview (ext : External) (now : DateTime) (finding : Finding)
    (channel direction : String) :
    ForReview ext finding (buildRebasedReview ext now finding channel direction) where
  linked := rfl
  identified := rfl
  stage := rfl
  inert := get_executionParam (by simp [executionParams])

theorem buildFeeReview_forReview (ext : External) (now : DateTime) (finding : Finding) (channel direction : String) :
    ForReview ext finding (buildFeeReview ext now finding channel direction) where
  linked := rfl
  identified := rfl
  stage := rfl
  inert := get_executionParam (by simp [executionParams])

theorem recommend_forReview {ext : External} {clock : Nat → DateTime} {finding : Finding}
    {recommendations : List Recommendation} (made : recommend ext clock finding = .ok recommendations) :
    ∀ recommendation ∈ recommendations, ForReview ext finding recommendation := by
  intro recommendation member
  rcases recommend_ok made with ⟨input, rfl⟩ | ⟨input, rfl⟩ | ⟨input, rfl⟩
  · unfold recommendLiquidity at member
    split at member
    · rw [List.mem_singleton.mp member]
      exact buildRebasedReview_forReview ..
    · rcases List.mem_cons.mp member with rfl | second
      · exact buildFeeReview_forReview ..
      · rw [List.mem_singleton.mp second]
        exact buildRebasedReview_forReview ..
  · rw [List.mem_singleton.mp member]
    exact ⟨rfl, rfl, rfl, get_executionParam (by simp [executionParams])⟩
  · rw [List.mem_singleton.mp member]
    exact ⟨rfl, rfl, rfl, get_executionParam (by simp [executionParams])⟩

theorem actionIdentityBytes_fee_ne_rebalance (findingId : String) (target target' : Option String) :
    Identity.actionIdentityBytes findingId .updateFeePolicy target ≠
      Identity.actionIdentityBytes findingId .rebalanceChannel target' := by
  intro same
  unfold Identity.actionIdentityBytes at same
  simp only [List.append_assoc] at same
  have rest :=
    List.append_cancel_left (List.append_cancel_left (List.append_cancel_left (List.append_cancel_left same)))
  have fee : (Identity.utf8 ActionType.updateFeePolicy.asStr).head? = some 117 := by decide
  have rebalance : (Identity.utf8 ActionType.rebalanceChannel.asStr).head? = some 114 := by decide
  have first := congrArg List.head? rest
  simp only [List.head?_append, fee, rebalance, Option.some_or] at first
  exact absurd first (by decide)

theorem recommend_identities {ext : External} {clock : Nat → DateTime} {finding : Finding}
    {recommendations : List Recommendation} (made : recommend ext clock finding = .ok recommendations) :
    recommendations.Pairwise fun a b =>
      Identity.actionIdentityBytes finding.id a.action.actionType a.action.target ≠
        Identity.actionIdentityBytes finding.id b.action.actionType b.action.target := by
  rcases recommend_ok made with ⟨input, rfl⟩ | ⟨input, rfl⟩ | ⟨input, rfl⟩
  · unfold recommendLiquidity
    split
    · exact List.pairwise_singleton _ _
    · refine List.pairwise_pair.mpr ?_
      exact actionIdentityBytes_fee_ne_rebalance finding.id _ _
  · exact List.pairwise_singleton _ _
  · exact List.pairwise_singleton _ _

/-- What the engine recommends cannot be executed before a review, and its parameters request nothing of a node
    even then. -/
theorem recommendations_need_review (ext : External) (clock : Nat → DateTime) (finding : Finding)
    (recommendations : List Recommendation) (made : recommend ext clock finding = .ok recommendations) :
    (recommendations.Pairwise fun a b =>
      Identity.actionIdentityBytes finding.id a.action.actionType a.action.target ≠
        Identity.actionIdentityBytes finding.id b.action.actionType b.action.target) ∧
    ∀ recommendation ∈ recommendations,
      recommendation.findingId = finding.id ∧
      recommendation.action.id =
        actionIdentity ext finding.id recommendation.action.actionType recommendation.action.target ∧
      recommendation.action.stage = .recommended ∧ isExecutable recommendation.action = false ∧
      let approved := { recommendation.action with stage := .approved }
      feePolicyRequest ext approved = .error (.missingParams "no fee params on action") ∧
        ∀ paymentAddr, rebalanceRequest ext paymentAddr approved = .error (.missingParams "chan_point required") := by
  refine ⟨recommend_identities made, fun recommendation member => ?_⟩
  have review := recommend_forReview made recommendation member
  refine ⟨review.linked, review.identified, review.stage, ?_, feePolicyRequest_missing review.inert ext,
    rebalanceRequest_missing review.inert ext⟩
  unfold isExecutable
  rw [review.stage]
  rfl

/-- A channel whose inbound side has run dry gets two recommendations. -/
theorem recommendations_need_review_inbound :
    let ext : External := ⟨fun _ => "digest", fun _ => "null", fun _ => "instant", fun _ => "instant"⟩
    let finding : Finding := { Finding.bare "finding" "channel_liquidity" 5 with
      channel := some "txx0"
      evidence := [.text "direction" "inbound", .number "local_ratio" (.ofRat (95/100)),
        .number "local_balance_msat" (.ofNat 95000), .number "remote_balance_msat" (.ofNat 5000),
        .number "capacity_msat" (.ofNat 100000), .text "peer" "peer"] }
    ∀ recommendation ∈ [buildFeeReview ext 7 finding "txx0" "inbound", buildRebasedReview ext 7 finding "txx0" "inbound"],
      isExecutable recommendation.action = false := by
  intro ext finding recommendation member
  have parsed : ChannelLiquidityInput.parse finding = .ok ⟨"txx0", .inbound⟩ := by decide +kernel
  have made : recommend ext (fun _ => 7) finding =
      .ok [buildFeeReview ext 7 finding "txx0" "inbound", buildRebasedReview ext 7 finding "txx0" "inbound"] := by
    show (ChannelLiquidityInput.parse finding).map _ = _
    rw [parsed]
    rfl
  exact ((recommendations_need_review ext _ finding _ made).2 recommendation member).2.2.2.1

end RecommendationEngine

end Rieko
