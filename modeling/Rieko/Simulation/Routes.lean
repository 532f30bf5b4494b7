import Mathlib.Tactic.SplitIfs
import Rieko.Lib.StatefulResult
import Rieko.Simulation.Simulator

namespace Rieko

namespace Simulator

/-- A channel as the network allows it: its balances stand within its capacity, which is a 64-bit amount. -/
structure WithinCapacity (channel : Channel) : Prop where
  capacity : channel.capacityMsat < 2^64
  localBalance : channel.liquidity.localBalanceMsat ≤ channel.capacityMsat
  remoteBalance : channel.liquidity.remoteBalanceMsat ≤ channel.capacityMsat

structure Possible (hop : Channel) (projection : SimulationProjection) : Prop where
  localWithin : projection.localBalanceMsatAfter ≤ hop.capacityMsat
  sumWithin : projection.localBalanceMsatAfter + projection.remoteBalanceMsatAfter ≤ hop.capacityMsat
  moved : absDiff projection.localBalanceMsatAfter hop.liquidity.localBalanceMsat = projection.deltaMsat

def demand (share : Binary64 → Nat → Nat) (sourceChannel : Channel) (desiredRatio : Binary64) : Nat :=
  absDiff (share (desiredRatio.clamp (.ofNat 0) (.ofNat 1)) sourceChannel.capacityMsat)
    sourceChannel.liquidity.localBalanceMsat

/-- A later hop can take the amount, into its local balance at odd positions and out of it at even ones. -/
def Carries (amount i : Nat) (hop : Channel) : Prop :=
  if i % 2 = 0 then amount ≤ hop.liquidity.localBalanceMsat
  else hop.liquidity.localBalanceMsat + amount ≤ hop.capacityMsat

instance (amount i : Nat) (hop : Channel) : Decidable (Carries amount i hop) :=
  inferInstanceAs (Decidable (if i % 2 = 0 then amount ≤ hop.liquidity.localBalanceMsat
    else hop.liquidity.localBalanceMsat + amount ≤ hop.capacityMsat))

def AtHops (route : List ChannelId) (channels : ChannelId → Option Channel) (relation : Nat → Channel → Prop) : Prop :=
  ∀ i channelId hop, route[i]? = some channelId → channels channelId = some hop → relation i hop

section Hops

variable {share : Binary64 → Nat → Nat} {draws : Nat → SimulatorDraw} {desired : Binary64} {delta : Nat}
  {channels : ChannelId → Option Channel} {findingId : String}

theorem possible_iff_balances {i : Nat} {channelId : ChannelId} {hop : Channel} :
    Possible hop (hopProjection share desired delta i channelId hop) ↔
      (hopBalances share desired delta i hop).1 ≤ hop.capacityMsat ∧
        (hopBalances share desired delta i hop).1 + (hopBalances share desired delta i hop).2 ≤ hop.capacityMsat ∧
        absDiff (hopBalances share desired delta i hop).1 hop.liquidity.localBalanceMsat = delta :=
  ⟨fun possible => ⟨possible.localWithin, possible.sumWithin, possible.moved⟩,
    fun ⟨localWithin, sumWithin, moved⟩ => ⟨localWithin, sumWithin, moved⟩⟩

theorem source_possible {channelId : ChannelId} {hop : Channel}
    (bounded : share desired hop.capacityMsat ≤ hop.capacityMsat)
    (demanded : delta = absDiff (share desired hop.capacityMsat) hop.liquidity.localBalanceMsat) :
    Possible hop (hopProjection share desired delta 0 channelId hop) := by
  apply possible_iff_balances.mpr
  simp only [hopBalances, if_true]
  omega

theorem later_possible_iff {i : Nat} {channelId : ChannelId} {hop : Channel} (later : 0 < i)
    (within : WithinCapacity hop) :
    Possible hop (hopProjection share desired delta i channelId hop) ↔ Carries delta i hop := by
  obtain ⟨capacity, localBalance, -⟩ := within
  have notSource : i ≠ 0 := by omega
  rw [possible_iff_balances]
  simp only [hopBalances, notSource, if_false, Carries, absDiff, saturatingAdd]
  split_ifs <;> omega

theorem projectHops_get {start : Nat} {route : List ChannelId} {simulations : List Simulation}
    (ran : projectHops share draws desired delta channels findingId start route = .ok simulations)
    {k : Nat} {channelId : ChannelId} {hop : Channel} (placed : route[k]? = some channelId)
    (found : channels channelId = some hop) :
    (simulations[k]?).map (·.projection) = some (hopProjection share desired delta (start + k) channelId hop) := by
  induction route generalizing start k simulations with
  | nil => simp at placed
  | cons first route ih =>
    unfold projectHops at ran
    cases looked : channels first with
    | none =>
      rw [looked] at ran
      cases ran
    | some firstHop =>
      rw [looked] at ran
      obtain ⟨later, rest, returned⟩ := StatefulResult.except_bind_ok.mp ran
      cases returned
      cases k with
      | zero =>
        cases placed
        rw [looked] at found
        cases found
        rfl
      | succ k =>
        have next := ih rest placed
        rw [List.getElem?_cons_succ, next, Nat.add_right_comm, Nat.add_assoc]

end Hops

/-- The projections of a route from its source channel are possible, each for its hop, exactly when every later hop
    can take the amount that the source channel demands. -/
theorem route_possible_iff (share : Binary64 → Nat → Nat) (bounded : ∀ ratio capacity, share ratio capacity ≤ capacity)
    (draws : Nat → SimulatorDraw) (sourceChannel : Channel) (desiredRatio : Binary64) (route : List ChannelId)
    (channels : ChannelId → Option Channel) (findingId : String) (simulations : List Simulation)
    (starts : route.head? = some sourceChannel.id) (found : channels sourceChannel.id = some sourceChannel)
    (within : ∀ channelId hop, channels channelId = some hop → WithinCapacity hop)
    (ran : projectRebalanceRoute share draws sourceChannel desiredRatio route channels findingId = .ok simulations) :
    AtHops route channels (fun i hop => ∃ simulation, simulations[i]? = some simulation ∧
        Possible hop simulation.projection) ↔
      AtHops route channels fun i hop => 0 < i → Carries (demand share sourceChannel desiredRatio) i hop := by
  unfold projectRebalanceRoute at ran
  split at ran
  · cases ran
  split at ran
  · cases ran
  have projected (i : Nat) (channelId : ChannelId) (hop : Channel) (placed : route[i]? = some channelId)
      (looked : channels channelId = some hop) :
      (∃ simulation, simulations[i]? = some simulation ∧ Possible hop simulation.projection) ↔
        Possible hop (hopProjection share (desiredRatio.clamp (.ofNat 0) (.ofNat 1))
          (demand share sourceChannel desiredRatio) i channelId hop) := by
    have shown := projectHops_get ran placed looked
    rw [Nat.zero_add] at shown
    obtain ⟨simulation, listed, same⟩ := Option.map_eq_some_iff.mp shown
    constructor
    · rintro ⟨other, again, possible⟩
      rw [listed] at again
      cases again
      exact same ▸ possible
    · intro possible
      exact ⟨simulation, listed, same.symm ▸ possible⟩
  constructor
  · intro possible i channelId hop placed looked later
    have atHop := (projected i channelId hop placed looked).mp (possible i channelId hop placed looked)
    exact (later_possible_iff later (within channelId hop looked)).mp atHop
  · intro carries i channelId hop placed looked
    apply (projected i channelId hop placed looked).mpr
    rcases Nat.eq_zero_or_pos i with rfl | later
    · have first : channelId = sourceChannel.id := by
        rw [List.head?_eq_getElem?] at starts
        exact Option.some.inj (placed.symm.trans starts)
      rw [first, found] at looked
      cases looked
      exact source_possible (bounded _ _) rfl
    · exact (later_possible_iff later (within channelId hop looked)).mpr
        (carries i channelId hop placed looked later)

theorem wide_hop_possible :
    let share (ratio : Binary64) (capacity : Nat) := min (roundedShare ratio capacity) capacity
    let channel (id : ChannelId) (local_ remote : Nat) : Channel := {
      id, node := "node", peer := "peer", channelPoint := "tx:0", capacityMsat := local_ + remote, feePolicy := {}
      status := .active, liquidity := LiquidityProfile.compute (local_ + remote) local_ remote, lastSeen := 0
      openingHeight := none, localReserveMsat := none, remoteReserveMsat := none, isPrivate := false
      isInitiator := true, totalSentMsat := none, totalReceivedMsat := none }
    let channels (id : ChannelId) :=
      if id = "c1" then some (channel "c1" 10000 90000)
      else if id = "c2" then some (channel "c2" 500000 500000) else none
    ∃ simulations,
      projectRebalanceRoute share (fun _ => ⟨"hop", 0⟩) (channel "c1" 10000 90000) (.ofRat (1/2)) ["c1", "c2"] channels
        "finding" = .ok simulations ∧
      AtHops ["c1", "c2"] channels fun i hop => ∃ simulation, simulations[i]? = some simulation ∧
        Possible hop simulation.projection := by
  intro share channel channels
  have bounded (ratio : Binary64) (capacity : Nat) : share ratio capacity ≤ capacity := Nat.min_le_right _ _
  have within (channelId : ChannelId) (hop : Channel) (found : channels channelId = some hop) : WithinCapacity hop := by
    by_cases first : channelId = "c1"
    · simp only [channels, first, if_true] at found
      cases found
      exact ⟨by decide, by decide, by decide⟩
    by_cases second : channelId = "c2"
    · simp only [channels, second] at found
      cases found
      exact ⟨by decide, by decide, by decide⟩
    · simp [channels, first, second] at found
  have carries : AtHops ["c1", "c2"] channels fun i hop =>
      0 < i → Carries (demand share (channel "c1" 10000 90000) (.ofRat (1/2))) i hop := by
    intro i channelId hop placed found later
    cases i with
    | zero => exact absurd later (Nat.lt_irrefl 0)
    | succ i =>
      cases i with
      | zero =>
        cases placed
        cases found
        decide +kernel
      | succ i => simp at placed
  have ran : projectRebalanceRoute share (fun _ => ⟨"hop", 0⟩) (channel "c1" 10000 90000) (.ofRat (1/2)) ["c1", "c2"]
    channels "finding" = .ok _ := rfl
  exact ⟨_, ran, (route_possible_iff share bounded _ _ _ _ channels "finding" _ rfl rfl within ran).mpr carries⟩

/-- A route over a small channel: it cannot hold the balance that is projected for it. -/
theorem narrow_hop_overflows :
    let share (ratio : Binary64) (capacity : Nat) := min (roundedShare ratio capacity) capacity
    let channel (id : ChannelId) (local_ remote : Nat) : Channel := {
      id, node := "node", peer := "peer", channelPoint := "tx:0", capacityMsat := local_ + remote, feePolicy := {}
      status := .active, liquidity := LiquidityProfile.compute (local_ + remote) local_ remote, lastSeen := 0
      openingHeight := none, localReserveMsat := none, remoteReserveMsat := none, isPrivate := false
      isInitiator := true, totalSentMsat := none, totalReceivedMsat := none }
    let channels (id : ChannelId) :=
      if id = "c1" then some (channel "c1" 10000 90000)
      else if id = "c2" then some (channel "c2" 10000 10000) else none
    (∀ ratio capacity, share ratio capacity ≤ capacity) ∧
      share (.ofRat (1/2)) 100000 = roundedShare (.ofRat (1/2)) 100000 ∧
      ∃ simulations,
        projectRebalanceRoute share (fun _ => ⟨"hop", 0⟩) (channel "c1" 10000 90000) (.ofRat (1/2)) ["c1", "c2"]
          channels "finding" = .ok simulations ∧
        simulations.map (·.projection.localBalanceMsatAfter) = [50000, 50000] ∧
        ¬AtHops ["c1", "c2"] channels fun i hop => ∃ simulation, simulations[i]? = some simulation ∧
          Possible hop simulation.projection := by
  intro share channel channels
  refine ⟨fun _ _ => Nat.min_le_right _ _, by decide +kernel, _, rfl, by decide +kernel, fun possible => ?_⟩
  obtain ⟨simulation, listed, fits⟩ := possible 1 "c2" (channel "c2" 10000 10000) rfl rfl
  cases listed
  have within := fits.localWithin
  revert within
  decide +kernel

end Simulator

end Rieko
