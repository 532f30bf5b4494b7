import Rieko.Graph.Adjacency
import Rieko.Graph.Path

namespace Rieko

open ShortestPath FindPath

/-- The adjacency lists contain each channel at both its ends. -/
def ListsEnds (channels : ChannelMap) (peerEdge : PeerChannels) : Prop :=
  ∀ id channel, channels.lookup id = some channel →
    id ∈ peerEdge.listed channel.node ∧ id ∈ peerEdge.listed channel.peer

/-- Only the ends of a channel list it. -/
def ListsOnlyEnds (channels : ChannelMap) (peerEdge : PeerChannels) : Prop :=
  ∀ id channel, channels.lookup id = some channel → ∀ node, id ∈ peerEdge.listed node →
    node = channel.node ∨ node = channel.peer

def Joins (channels : ChannelMap) (u : NodeId) (id : ChannelId) (v : NodeId) : Prop :=
  ∃ channel, channels.lookup id = some channel ∧
    (u = channel.node ∧ v = channel.peer ∨ u = channel.peer ∧ v = channel.node)

theorem InMemoryGraph.Indexed.lists {graph : InMemoryGraph} (indexed : graph.Indexed) :
    ListsEnds graph.channels graph.peerChannels ∧ ListsOnlyEnds graph.channels graph.peerChannels := by
  have listed_iff {id : ChannelId} {channel : Channel} (stored : graph.channels.lookup id = some channel)
      (node : NodeId) : id ∈ graph.peerChannels.listed node ↔ node = channel.node ∨ node = channel.peer := by
    have once := indexed.once node id
    rw [show graph.channel id = some channel from stored, Option.any_some] at once
    have touches : channel.touches node = true ↔ node = channel.node ∨ node = channel.peer := by
      unfold Channel.touches
      rw [Bool.or_eq_true, decide_eq_true_iff, decide_eq_true_iff, or_comm]
    rw [← List.count_pos_iff, once, ← touches]
    cases channel.touches node <;> decide
  exact ⟨fun id channel stored => ⟨(listed_iff stored _).mpr (.inl rfl), (listed_iff stored _).mpr (.inr rfl)⟩,
    fun id channel stored node => (listed_iff stored node).mp⟩

section Optimal

variable {channels : ChannelMap} {peerEdge : PeerChannels} {u v : NodeId} {id : ChannelId} {amountMsat : Nat}
  {steps : List (ChannelId × NodeId)}

theorem exists_of_leads (leads : Leads channels peerEdge u id v) :
    ∃ channel, channels.lookup id = some channel ∧ id ∈ peerEdge.listed u ∧ v = channel.otherEnd u := by
  obtain ⟨id', listed, found⟩ := List.mem_filterMap.mp leads
  obtain ⟨channel, stored, same⟩ := Option.map_eq_some_iff.mp found
  obtain ⟨rfl, rfl⟩ := Prod.mk.inj same
  exact ⟨channel, stored, listed, rfl⟩

theorem ListsOnlyEnds.prefers (sound : ListsOnlyEnds channels peerEdge) : PrefersEnds amountMsat channels peerEdge := by
  intro u id v preferred channel stored
  obtain ⟨-, -, listed, -⟩ := exists_of_leads preferred.member
  exact sound id channel stored u listed

theorem joins_of_leads (leads : Leads channels peerEdge u id v)
    (isEnd : ∀ channel, channels.lookup id = some channel → u = channel.node ∨ u = channel.peer) :
    Joins channels u id v := by
  obtain ⟨channel, stored, -, rfl⟩ := exists_of_leads leads
  refine ⟨channel, stored, ?_⟩
  unfold Channel.otherEnd
  split
  next first => exact .inl ⟨first, rfl⟩
  next second => exact .inr ⟨(isEnd channel stored).resolve_left second, rfl⟩

theorem ListsEnds.leads (lists : ListsEnds channels peerEdge) (joins : Joins channels u id v) :
    Leads channels peerEdge u id v := by
  obtain ⟨channel, stored, isEnd⟩ := joins
  have listed : id ∈ peerEdge.listed u := by
    rcases isEnd with ⟨rfl, -⟩ | ⟨rfl, -⟩
    · exact (lists id channel stored).1
    · exact (lists id channel stored).2
  refine List.mem_filterMap.mpr ⟨id, listed, Option.map_eq_some_iff.mpr ⟨channel, stored, ?_⟩⟩
  unfold Channel.otherEnd
  rcases isEnd with ⟨rfl, rfl⟩ | ⟨rfl, rfl⟩
  · rw [if_pos rfl]
  · split
    next loop => rw [loop]
    next => rfl

theorem ListsEnds.walk (lists : ListsEnds channels peerEdge) (walk : Walk (Joins channels) u steps v) :
    Walk (Leads channels peerEdge) u steps v :=
  walk.mono fun _ _ _ => lists.leads

theorem FindPath.Cheapest.joins (cheapest : Cheapest u v amountMsat channels peerEdge steps)
    (prefers : PrefersEnds amountMsat channels peerEdge) : Walk (Joins channels) u steps v :=
  cheapest.preferred.mono fun u id v preferred => joins_of_leads preferred.member (prefers u id v preferred)

end Optimal

def feeChannel (id : ChannelId) (node peer : NodeId) (baseFeeMsat feeRatePpm : Nat) : Channel where
  id
  node
  peer
  channelPoint := "c1:0"
  capacityMsat := 1000000
  feePolicy := { baseFeeMsat, feeRatePpm }
  status := .active
  liquidity := .compute 1000000 500000 500000
  lastSeen := 0
  openingHeight := none
  localReserveMsat := none
  remoteReserveMsat := none
  isPrivate := false
  isInitiator := true
  totalSentMsat := none
  totalReceivedMsat := none

def feeGraph (baseFeeMsat feeRatePpm : Nat) : InMemoryGraph :=
  InMemoryGraph.new.upsertChannel (feeChannel "c1" "alice" "bob" baseFeeMsat feeRatePpm)

theorem feeGraph_lookup {base rate : Nat} {id : ChannelId} {channel : Channel}
    (stored : (feeGraph base rate).channels.lookup id = some channel) :
    id = "c1" ∧ channel = feeChannel "c1" "alice" "bob" base rate := by
  have found := InMemoryGraph.channel_upsertChannel.symm.trans stored
  split at found
  next same => exact ⟨same, (Option.some.inj found).symm⟩
  next => cases found

theorem feeGraph_listed (base rate : Nat) (node : NodeId) : (feeGraph base rate).peerChannels.listed node =
    if node = "alice" ∨ node = "bob" then ["c1"] else [] := by
  show (PeerChannels.push "alice" "c1" (PeerChannels.push "bob" "c1" ∅)).listed node = _
  rw [PeerChannels.listed_push, PeerChannels.listed_push]
  by_cases alice : node = "alice"
  · subst alice
    rfl
  · by_cases bob : node = "bob"
    · subst bob
      rfl
    · rw [if_neg alice, if_neg bob, if_neg (by tauto)]
      rfl

theorem feeGraph_lists (base rate : Nat) :
    ListsEnds (feeGraph base rate).channels (feeGraph base rate).peerChannels ∧
      ListsOnlyEnds (feeGraph base rate).channels (feeGraph base rate).peerChannels := by
  constructor
  · intro id channel stored
    obtain ⟨rfl, rfl⟩ := feeGraph_lookup stored
    simp [feeGraph_listed, feeChannel]
  · intro id channel stored node listed
    obtain ⟨rfl, rfl⟩ := feeGraph_lookup stored
    rw [feeGraph_listed] at listed
    split at listed
    next isEnd => exact isEnd
    next => cases listed

/-- A channel that moves from carol to alice stays in the list of carol. -/
def movedGraph : InMemoryGraph :=
  (InMemoryGraph.new.upsertChannel (feeChannel "c1" "carol" "bob" 6 0)).upsertChannel (feeChannel "c1" "alice" "bob" 6 0)

theorem movedGraph_lookup {id : ChannelId} {channel : Channel}
    (stored : movedGraph.channels.lookup id = some channel) :
    id = "c1" ∧ channel = feeChannel "c1" "alice" "bob" 6 0 := by
  have found := InMemoryGraph.channel_upsertChannel.symm.trans stored
  rw [InMemoryGraph.channel_upsertChannel] at found
  split at found
  next same => exact ⟨same, (Option.some.inj found).symm⟩
  next other =>
    split at found
    next same => exact absurd same other
    next => cases found

section Prices

variable (channels : ChannelMap) (peerEdge : PeerChannels)

/-- What a call reports is what it has minimised, and a target within reach is found. -/
def Priced (source target : NodeId) (amountMsat : Nat) : Prop :=
  ∃ result, Finds source target amountMsat channels peerEdge result ∧
    (∀ path, result = some path →
      (∀ hop ∈ path.hops, ∃ channel, channels.lookup hop.channelId = some channel ∧
        hop.costMsat = channelCost channel amountMsat) ∧
      path.totalCostMsat = path.hops.foldl (fun total hop => saturatingAdd total hop.costMsat) 0 ∧
      SettlesAt source target amountMsat channels peerEdge path.totalCostMsat) ∧
    ((∃ steps, Walk (Leads channels peerEdge) source steps target) → result.isSome)

/-- The costs of no amount serve for an amount: nodes that are connected are so below the largest number, and where a
    channel is the preferred connection of its ends, its proportional fee on the amount is none. -/
structure FlatFees (amountMsat : Nat) : Prop where
  affordable : ∀ u v, (∃ steps, Walk (Leads channels peerEdge) u steps v) →
    ∃ steps, Walk (Leads channels peerEdge) u steps v ∧ cost (weight amountMsat channels) steps < u64Max
  flat : ∀ u id v, Preferred (edges channels peerEdge) (weight amountMsat channels) u id v →
    ∀ channel, channels.lookup id = some channel → channel.feePolicy.feeRatePpm * amountMsat < 1000000

variable {channels peerEdge} {amountMsat : Nat} {channel : Channel}

theorem channelCost_flat (flat : channel.feePolicy.feeRatePpm * amountMsat < 1000000) :
    channelCost channel 0 = channelCost channel amountMsat := by
  unfold channelCost saturatingMul saturatingAdd u64Max
  omega

theorem flat_of_channelCost (small : channelCost channel amountMsat < u64Max)
    (same : channelCost channel 0 = channelCost channel amountMsat) :
    channel.feePolicy.feeRatePpm * amountMsat < 1000000 := by
  unfold channelCost saturatingMul saturatingAdd u64Max at small same
  generalize channel.feePolicy.feeRatePpm * amountMsat = fee at *
  omega

theorem total_eq (hops : List PathHop) {total : Nat} (small : total ≤ u64Max) :
    hops.foldl (fun total hop => saturatingAdd total hop.costMsat) total =
      min (total + (hops.map (·.costMsat)).sum) u64Max := by
  induction hops generalizing total with
  | nil => simp [small]
  | cons hop hops ih =>
    rw [List.foldl_cons, saturatingAdd, ih (Nat.min_le_right _ _), List.map_cons, List.sum_cons]
    omega

theorem sum_hops (steps : List (ChannelId × NodeId)) :
    ((steps.map (hop channels)).map (·.costMsat)).sum = cost (weight 0 channels) steps := by
  rw [List.map_map]
  rfl

theorem FlatFees.priced (fees : FlatFees channels peerEdge amountMsat)
    (prefers : PrefersEnds amountMsat channels peerEdge) (source target : NodeId) :
    Priced channels peerEdge source target amountMsat := by
  rcases findPath_ends prefers source target with ⟨steps, cheapest⟩ | ⟨nothing, dear⟩
  · have flat (step : ChannelId × NodeId) (member : step ∈ steps) : ∃ channel, channels.lookup step.1 = some channel ∧
        channelCost channel 0 = channelCost channel amountMsat := by
      obtain ⟨u, preferred⟩ := cheapest.preferred.exists_of_mem member
      obtain ⟨channel, stored, -⟩ := exists_of_leads preferred.member
      exact ⟨channel, stored, channelCost_flat (fees.flat u step.1 step.2 preferred channel stored)⟩
    have same : cost (weight 0 channels) steps = cost (weight amountMsat channels) steps := by
      unfold cost
      congr 1
      refine List.map_congr_left fun step member => ?_
      obtain ⟨channel, stored, equal⟩ := flat step member
      rw [weight_of_lookup stored, weight_of_lookup stored, equal]
    refine ⟨_, cheapest.finds, ?_, fun _ => rfl⟩
    intro path found
    cases found
    refine ⟨fun reported member => ?_, ?_, ?_⟩
    · obtain ⟨step, among, rfl⟩ := List.mem_map.mp member
      obtain ⟨channel, stored, equal⟩ := flat step among
      exact ⟨channel, stored, (weight_of_lookup stored).trans equal⟩
    · rw [total_eq _ (Nat.zero_le _), Nat.zero_add, sum_hops]
    · rw [same, Nat.min_eq_left (Nat.le_of_lt cheapest.bounded)]
      exact cheapest.settles
  · refine ⟨none, nothing, fun path found => absurd found (by simp), fun reachable => ?_⟩
    obtain ⟨steps, walk, cheap⟩ := fees.affordable source target reachable
    exact absurd cheap (Nat.not_lt.mpr (dear steps walk))

theorem Priced.flatFees (prefers : PrefersEnds amountMsat channels peerEdge)
    (priced : ∀ source target, Priced channels peerEdge source target amountMsat) :
    FlatFees channels peerEdge amountMsat := by
  have found (u v : NodeId) (reachable : ∃ steps, Walk (Leads channels peerEdge) u steps v) :
      ∃ steps, Cheapest u v amountMsat channels peerEdge steps := by
    rcases findPath_ends prefers u v with cheapest | ⟨nothing, -⟩
    · exact cheapest
    · obtain ⟨result, finds, -, reaches⟩ := priced u v
      rw [finds.unique nothing] at reaches
      exact absurd (reaches reachable) (by simp)
  refine ⟨fun u v reachable => ?_, fun u id v preferred channel stored => ?_⟩
  · obtain ⟨steps, cheapest⟩ := found u v reachable
    exact ⟨steps, cheapest.walk, cheapest.bounded⟩
  · have single : Walk (Leads channels peerEdge) u [(id, v)] v := .single preferred.member
    obtain ⟨steps, cheapest⟩ := found u v ⟨_, single⟩
    have small : channelCost channel amountMsat < u64Max := by
      have least := preferred.cheapest steps cheapest.walk
      rw [weight_of_lookup stored] at least
      exact Nat.lt_of_le_of_lt least cheapest.bounded
    refine flat_of_channelCost small ?_
    by_cases loop : u = v
    · have zero := preferred.cheapest [] (loop ▸ .stay u)
      rw [weight_of_lookup stored] at zero
      have costless : channelCost channel amountMsat = 0 := Nat.le_zero.mp zero
      have less : channelCost channel 0 ≤ channelCost channel amountMsat := by
        unfold channelCost saturatingMul saturatingAdd
        omega
      omega
    · have direct := cheapest.direct loop id preferred
      subst direct
      obtain ⟨result, finds, reports, -⟩ := priced u v
      obtain ⟨reported, stored', charged⟩ := (reports _ (finds.unique cheapest.finds)).1 _ (List.mem_singleton_self _)
      cases stored.symm.trans stored'
      exact (weight_of_lookup stored).symm.trans charged

end Prices

/-- While no node but its ends prefers a channel, calls for an amount report what they have minimised, whatever their
    ends, exactly where the fees are flat. -/
theorem findPath_priced_iff {channels : ChannelMap} {peerEdge : PeerChannels} {amountMsat : Nat}
    (prefers : PrefersEnds amountMsat channels peerEdge) :
    (∀ source target, Priced channels peerEdge source target amountMsat) ↔ FlatFees channels peerEdge amountMsat :=
  ⟨Priced.flatFees prefers, fun fees => fees.priced prefers⟩

theorem findPath_priced_free : Priced (feeGraph 0 0).channels (feeGraph 0 0).peerChannels "alice" "bob" 1000000 := by
  let graph := feeGraph 0 0
  have free (id : ChannelId) : weight 1000000 graph.channels id = 0 := by
    unfold weight
    cases stored : graph.channels.lookup id with
    | none => rfl
    | some channel =>
      obtain ⟨rfl, rfl⟩ := feeGraph_lookup stored
      show channelCost (feeChannel "c1" "alice" "bob" 0 0) 1000000 = 0
      decide
  have fees : FlatFees graph.channels graph.peerChannels 1000000 := by
    refine ⟨fun u v ⟨steps, walk⟩ => ⟨steps, walk, ?_⟩, fun u id v preferred channel stored => ?_⟩
    · have nothing : cost (weight 1000000 graph.channels) steps = 0 := by simp [cost, free]
      rw [nothing]
      decide
    · obtain ⟨rfl, rfl⟩ := feeGraph_lookup stored
      decide
  exact (findPath_priced_iff (feeGraph_lists 0 0).2.prefers).mpr fees "alice" "bob"

/-- A fee of 500 millionths on an amount of 1000000: the search minimises 1500 and reports 1000. -/
theorem findPath_reports_base_fee :
    ¬ Priced (feeGraph 1000 500).channels (feeGraph 1000 500).peerChannels "alice" "bob" 1000000 := by
  rintro ⟨result, finds, reports, -⟩
  have ran : findPath 10 "alice" "bob" 1000000 (feeGraph 1000 500).channels (feeGraph 1000 500).peerChannels =
      some (some ⟨[⟨"c1", 1000⟩], 1000⟩) := by decide +kernel
  obtain ⟨channel, stored, charged⟩ := (reports _ (finds.unique (.of_run ran))).1 _ (List.mem_singleton_self _)
  obtain ⟨-, rfl⟩ := feeGraph_lookup stored
  exact absurd charged (by decide)

theorem moved_channel_overprices :
    let graph := movedGraph.upsertChannel (feeChannel "c2" "carol" "bob" 10 0)
    (∀ id channel, graph.channels.lookup id = some channel → channel.feePolicy.feeRatePpm = 0) ∧
      ¬ Priced graph.channels graph.peerChannels "carol" "alice" 1 := by
  intro graph
  constructor
  · intro id channel stored
    have found := InMemoryGraph.channel_upsertChannel.symm.trans stored
    split at found
    next => cases found; rfl
    next => obtain ⟨-, rfl⟩ := movedGraph_lookup found; rfl
  · rintro ⟨result, finds, reports, -⟩
    have ran : findPath 10 "carol" "alice" 1 graph.channels graph.peerChannels =
        some (some ⟨[⟨"c2", 10⟩, ⟨"c1", 6⟩], 16⟩) := by decide
    obtain ⟨-, -, settles⟩ := reports _ (finds.unique (.of_run ran))
    unfold SettlesAt at settles
    rw [if_neg (by decide)] at settles
    obtain ⟨fuel, prev, searched⟩ := settles
    have minimised : (search "alice" 1 graph.channels graph.peerChannels 3 (start "carol")).map (·.map Prod.fst) =
        some (some 6) := by decide
    obtain ⟨settled, ended, least⟩ := Option.map_eq_some_iff.mp minimised
    have same :=
      (search_mono searched (Nat.le_max_left fuel 3)).symm.trans (search_mono ended (Nat.le_max_right fuel 3))
    cases same
    cases least

end Rieko
