import Rieko.Findings.Identity
import Rieko.Recommendations.Evidence

namespace Rieko

namespace RecommendationEngine

def evidenceRefs (ext : External) (finding : Finding) : List String :=
  finding.evidence.map fun evidence => s!"{evidence.key}={ext.jsonText evidence.value}"

/-- A review of a channel's role before any rebalance. Its parameters name the drained side only. -/
def buildRebasedReview (ext : External) (now : DateTime) (finding : Finding) (channel direction : String) :
    Recommendation where
  findingId := finding.id
  action := .forRecommendation ext now finding.id .rebalanceChannel (some channel)
    (.ofPairs [("reason", .string s!"{direction} liquidity drained")])
    s!"Review the intended role of channel {channel} before considering a rebalance."
  rationale :=
    { evidence := evidenceRefs ext finding
      preconditions :=
        [s!"Confirm channel {channel} is meant to route in the {direction} direction.",
          "Confirm the imbalance is expected rather than a fault.",
          "Validate rebalancing cost and routing strategy before any action."]
      expectedEffect := "If rebalancing is warranted, restoring capacity on the drained side could let " ++
        "the channel route payments in that direction again."
      risks :=
        ["Rebalancing consumes on-chain fees and may not improve routing if demand is one-directional.",
          "Moving liquidity can reduce availability on the opposite side."]
      limitations :=
        ["The analysis is based on a single liquidity snapshot, not routing history.",
          "No fee or routing-cost model was used; the benefit of rebalancing is unquantified."]
      actionability := .operatorActionable }
  lifecycle := none

/-- A review of a channel's fee policy. It never proposes a fee. -/
def buildFeeReview (ext : External) (now : DateTime) (finding : Finding) (channel direction : String) :
    Recommendation where
  findingId := finding.id
  action := .forRecommendation ext now finding.id .updateFeePolicy (some channel)
    (.ofPairs [("reason", .string s!"{direction} liquidity drained")])
    s!"Review the fee policy on channel {channel} to understand inbound demand."
  rationale :=
    { evidence := evidenceRefs ext finding
      preconditions :=
        ["Inspect recent forwarding direction and demand for this channel.",
          "Compare the current fee policy against operator policy before changing anything."]
      expectedEffect := "Identifying the fee policy's role in inbound liquidity lets the operator make an " ++
        "informed, cost-aware decision."
      risks :=
        ["Lowering fees without demand evidence may reduce routing revenue for no benefit.",
          "A universal fee change is not justified by a single channel's balance."]
      limitations :=
        ["No fee optimization or routing-intelligence model exists; specific fee values are not recommended."]
      actionability := .operatorActionable }
  lifecycle := none

def recommendLiquidity (ext : External) (clock : Nat → DateTime) (finding : Finding)
    (input : ChannelLiquidityInput) : List Recommendation :=
  match input.direction with
  | .outbound => [buildRebasedReview ext (clock 0) finding input.channel "outbound"]
  | .inbound =>
    [buildFeeReview ext (clock 0) finding input.channel "inbound",
      buildRebasedReview ext (clock 1) finding input.channel "inbound"]

def recommendLiquidityTrend (ext : External) (clock : Nat → DateTime) (finding : Finding)
    (input : LiquidityTrendInput) : List Recommendation :=
  [{ findingId := finding.id
     action := .forRecommendation ext (clock 0) finding.id .rebalanceChannel (some input.channel)
      (.ofPairs [("reason", .string "channel liquidity is trending down"),
        ("decline", .ofF64 input.decline), ("start_ratio", .ofF64 input.startRatio),
        ("current_ratio", .ofF64 input.currentRatio), ("window", .number (.posInt input.window))])
      (s!"Channel {input.channel} is trending toward outbound drain: local ratio declined from " ++
        s!"{input.startRatio.toFixed 4} to {input.currentRatio.toFixed 4} over the last " ++
        s!"{input.window} snapshots. Inspect recent forwarding activity to confirm whether the trend " ++
        "is expected.")
     rationale :=
      { evidence := evidenceRefs ext finding
        preconditions :=
          [s!"Confirm channel {input.channel} is meant to route outbound; if it is a pure sink (revenue) " ++
              "channel the decline is expected.",
            "Confirm the decline is not caused by a single large payment.",
            "Validate the trend by comparing with forwarding history."]
        expectedEffect := "If the decline is unexpected, investigating routing demand and peer behaviour " ++
          "can help decide whether rebalancing is needed."
        risks :=
          ["Any decline in a revenue channel is normal — do not rebalance without confirming the " ++
              "channel's role.",
            "Rebalancing costs may exceed the benefit if the decline is temporary."]
        limitations :=
          ["The trend is based on snapshot ratios alone, not forwarding volume.",
            s!"The window covers only the last {input.window} snapshots; longer-term trends may look " ++
              "different."]
        actionability := .operatorActionable }
     lifecycle := none }]

def settlementSummary (input : SettlementReliabilityInput) (target : String) : String :=
  let percent := (input.failureRate.mul (.ofNat 100)).toFixed 1
  if input.chainSynchronized then
    s!"Lightning invoice settlement degradation detected: {percent}% failure rate " ++
      s!"({input.expiredInvoices.toU64} expired, {input.settledInvoices.toU64} settled). Bitcoin Core node " ++
      s!"is synchronized; rebalance channel {target} to restore outbound liquidity on merchant " ++
      "settlement paths."
  else
    s!"Invoice settlement failure rate is elevated ({percent}% failure rate). Bitcoin Core is not " ++
      "synchronized; verify chain synchronization before executing Lightning rebalances."

def recommendSettlementReliability (ext : External) (clock : Nat → DateTime) (finding : Finding)
    (input : SettlementReliabilityInput) : List Recommendation :=
  let target := input.channel.getD "primary-routing-path"
  [{ findingId := finding.id
     action := .forRecommendation ext (clock 0) finding.id .rebalanceChannel (some target)
      (.ofPairs [("reason", .string "lightning invoice settlement reliability degradation"),
        ("failure_rate", .ofF64 input.failureRate), ("expired_invoices", .ofF64 input.expiredInvoices),
        ("settled_invoices", .ofF64 input.settledInvoices),
        ("chain_synchronized", .bool input.chainSynchronized), ("root_cause", .string input.rootCause),
        ("target_channel", .string target)])
      (settlementSummary input target)
     rationale :=
      { evidence := evidenceRefs ext finding
        preconditions :=
          [s!"Inspect channel {target} local and remote balance split.",
            "Verify node on-chain and off-chain liquidity reserves.",
            "Confirm Bitcoin Core RPC connection remains responsive."]
        expectedEffect := "Restores local outbound liquidity on settlement channels, reducing invoice " ++
          "expiry failures."
        risks :=
          ["Circular rebalance consumes routing fees on intermediate hops.",
            "Opening or resizing channels during mempool congestion increases on-chain fee cost."]
        limitations :=
          ["Metric aggregates failures across recent webhook/event window.",
            "Individual payment failures may also be caused by destination invoice expiry or path " ++
              "unreachability."]
        actionability := .operatorActionable }
     lifecycle := none }]

/-- The recommendations of a finding. Each reads the clock once. -/
def recommend (ext : External) (clock : Nat → DateTime) (finding : Finding) : Parse (List Recommendation) :=
  match finding.detector with
  | "channel_liquidity" => (ChannelLiquidityInput.parse finding).map (recommendLiquidity ext clock finding)
  | "liquidity_trend" => (LiquidityTrendInput.parse finding).map (recommendLiquidityTrend ext clock finding)
  | "settlement_reliability" =>
    (SettlementReliabilityInput.parse finding).map (recommendSettlementReliability ext clock finding)
  | detector => .error (.unsupportedDetector finding.id detector)

theorem recommend_ok {ext : External} {clock : Nat → DateTime} {finding : Finding}
    {recommendations : List Recommendation} (made : recommend ext clock finding = .ok recommendations) :
    (∃ input, recommendations = recommendLiquidity ext clock finding input) ∨
      (∃ input, recommendations = recommendLiquidityTrend ext clock finding input) ∨
      ∃ input, recommendations = recommendSettlementReliability ext clock finding input := by
  unfold recommend at made
  split at made
  · cases parsed : ChannelLiquidityInput.parse finding with
    | error e => simp [parsed, Except.map] at made
    | ok input =>
      simp only [parsed, Except.map, Except.ok.injEq] at made
      exact .inl ⟨input, made.symm⟩
  · cases parsed : LiquidityTrendInput.parse finding with
    | error e => simp [parsed, Except.map] at made
    | ok input =>
      simp only [parsed, Except.map, Except.ok.injEq] at made
      exact .inr (.inl ⟨input, made.symm⟩)
  · cases parsed : SettlementReliabilityInput.parse finding with
    | error e => simp [parsed, Except.map] at made
    | ok input =>
      simp only [parsed, Except.map, Except.ok.injEq] at made
      exact .inr (.inr ⟨input, made.symm⟩)
  · cases made

theorem recommend_linked {ext : External} {clock : Nat → DateTime} {finding : Finding}
    {recommendations : List Recommendation} (made : recommend ext clock finding = .ok recommendations) :
    ∀ recommendation ∈ recommendations,
      recommendation.findingId = finding.id ∧ recommendation.lifecycle = none := by
  intro recommendation member
  rcases recommend_ok made with ⟨input, rfl⟩ | ⟨input, rfl⟩ | ⟨input, rfl⟩
  · unfold recommendLiquidity at member
    cases direction : input.direction with
    | outbound =>
      rw [direction] at member
      obtain rfl := List.mem_singleton.mp member
      exact ⟨rfl, rfl⟩
    | inbound =>
      rw [direction] at member
      rcases List.mem_cons.mp member with rfl | second
      · exact ⟨rfl, rfl⟩
      · obtain rfl := List.mem_singleton.mp second
        exact ⟨rfl, rfl⟩
  · obtain rfl := List.mem_singleton.mp member
    exact ⟨rfl, rfl⟩
  · obtain rfl := List.mem_singleton.mp member
    exact ⟨rfl, rfl⟩

theorem recommend_ids_of_clock (ext : External) (clock other : Nat → DateTime) (finding : Finding) :
    (recommend ext clock finding).map (List.map fun recommendation => recommendation.action.id) =
      (recommend ext other finding).map (List.map fun recommendation => recommendation.action.id) := by
  unfold recommend
  split
  · cases ChannelLiquidityInput.parse finding with
    | error e => rfl
    | ok input =>
      show Except.ok ((recommendLiquidity ext clock finding input).map _) =
        Except.ok ((recommendLiquidity ext other finding input).map _)
      unfold recommendLiquidity
      cases input.direction <;> rfl
  · cases LiquidityTrendInput.parse finding <;> rfl
  · cases SettlementReliabilityInput.parse finding <;> rfl
  · rfl

end RecommendationEngine

end Rieko
