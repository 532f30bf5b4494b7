import Rieko.Graph.Store

namespace Rieko

open Transition

def Channel.touches (channel : Channel) (node : NodeId) : Bool := node = channel.peer || node = channel.node

namespace InMemoryGraph

variable {graph : InMemoryGraph} {channel : Channel} {node : NodeId} {id : ChannelId}

def ends (graph : InMemoryGraph) (node : NodeId) : List Channel := graph.storedChannels.filter (·.touches node)

/-- A node lists the channels that it is an end of, each once, and the queries count each of them once. -/
structure Indexed (graph : InMemoryGraph) : Prop where
  once : ∀ node id, (graph.peerChannels.listed node).count id = if (graph.channel id).any (·.touches node) then 1 else 0
  forPeer : ∀ node, (graph.channelsForPeer node).Perm (graph.ends node)
  count : ∀ node, graph.channelCountWithPeer node = (graph.ends node).countP (·.status.isOpen)
  capacity : ∀ node, graph.totalCapacityWithPeer node = ((graph.ends node).map (·.capacityMsat)).sum % 2^64

structure SameAnswers (graph graph' : InMemoryGraph) : Prop where
  node : ∀ id, graph'.nodes.lookup id = graph.nodes.lookup id
  channel : ∀ id, graph'.channel id = graph.channel id
  channels : graph'.storedChannels.Perm graph.storedChannels
  forPeer : ∀ node, (graph'.channelsForPeer node).Perm (graph.channelsForPeer node)
  count : ∀ node, graph'.channelCountWithPeer node = graph.channelCountWithPeer node
  capacity : ∀ node, graph'.totalCapacityWithPeer node = graph.totalCapacityWithPeer node

/-- The channel runs between two nodes, and it is new or moves to another peer of the same node. -/
structure Extends (graph : InMemoryGraph) (channel : Channel) : Prop where
  apart : channel.peer ≠ channel.node
  moves : ∀ old, graph.channel channel.id = some old → old.peer ≠ channel.peer ∧ old.node = channel.node

structure Inv (graph : InMemoryGraph) : Prop where
  keyed : ∀ id channel, graph.channel id = some channel → channel.id = id
  apart : ∀ id channel, graph.channel id = some channel → channel.peer ≠ channel.node
  once : ∀ node id, (graph.peerChannels.listed node).count id = if (graph.channel id).any (·.touches node) then 1 else 0

theorem count_withoutReplaced_of_ne (other : id ≠ channel.id) :
    ((graph.withoutReplaced channel).listed node).count id = (graph.peerChannels.listed node).count id := by
  unfold withoutReplaced
  split
  · rfl
  · split
    · rw [PeerChannels.count_retainOthers, PeerChannels.count_retainOthers,
        if_neg fun both => other both.2, if_neg fun both => other both.2]
    · rfl

theorem count_upsertChannel_of_ne (other : id ≠ channel.id) :
    ((graph.upsertChannel channel).peerChannels.listed node).count id = (graph.peerChannels.listed node).count id := by
  show (((graph.withoutReplaced channel).push channel.peer channel.id).push channel.node channel.id |>.listed node).count
    id = _
  rw [PeerChannels.count_push, PeerChannels.count_push, if_neg fun both => other both.2,
    if_neg fun both => other both.2, count_withoutReplaced_of_ne other]
  rfl

theorem count_upsertChannel_self :
    ((graph.upsertChannel channel).peerChannels.listed node).count channel.id =
      ((graph.withoutReplaced channel).listed node).count channel.id +
        (if node = channel.peer then 1 else 0) + if node = channel.node then 1 else 0 := by
  show (((graph.withoutReplaced channel).push channel.peer channel.id).push channel.node channel.id |>.listed node).count
    channel.id = _
  rw [PeerChannels.count_push, PeerChannels.count_push]
  simp

theorem Inv.count_withoutReplaced (inv : graph.Inv) :
    ((graph.withoutReplaced channel).listed node).count channel.id =
      match graph.channel channel.id with
      | none => 0
      | some old =>
        if old.peer ≠ channel.peer ∧ (node = channel.node ∨ node = old.peer) then 0
        else if old.touches node then 1 else 0 := by
  have before := inv.once node channel.id
  unfold withoutReplaced
  cases stored : graph.channel channel.id with
  | none => simpa [stored] using before
  | some old =>
    simp only [stored, Option.any_some] at before
    dsimp only
    by_cases moved : old.peer ≠ channel.peer
    · rw [if_pos moved, PeerChannels.count_retainOthers, PeerChannels.count_retainOthers, before]
      by_cases atNode : node = channel.node
      · simp [atNode, moved]
      · by_cases atPeer : node = old.peer <;> simp [atNode, atPeer, moved]
    · have uncleared : ¬(old.peer ≠ channel.peer ∧ (node = channel.node ∨ node = old.peer)) := fun both => moved both.1
      rw [if_neg moved, before, if_neg uncleared]

theorem Inv.cleared (inv : graph.Inv) (extends_ : graph.Extends channel) :
    ((graph.withoutReplaced channel).listed node).count channel.id = 0 := by
  rw [inv.count_withoutReplaced]
  cases stored : graph.channel channel.id with
  | none => rfl
  | some old =>
    obtain ⟨moved, same⟩ := extends_.moves old stored
    dsimp only
    by_cases cleared : node = channel.node ∨ node = old.peer
    · rw [if_pos ⟨moved, cleared⟩]
    · rw [not_or] at cleared
      have outside : old.touches node = false := by simp [Channel.touches, same, cleared.1, cleared.2]
      simp [outside, cleared.1, cleared.2]

theorem Inv.upsertChannel (inv : graph.Inv) (extends_ : graph.Extends channel) : (graph.upsertChannel channel).Inv where
  keyed := Keyed.upsertChannel inv.keyed channel
  apart id stored found := by
    rw [channel_upsertChannel] at found
    split at found
    · cases found
      exact extends_.apart
    · exact inv.apart id stored found
  once node id := by
    rw [channel_upsertChannel]
    by_cases same : id = channel.id
    · subst same
      have apart := extends_.apart
      rw [count_upsertChannel_self, inv.cleared extends_, if_pos rfl, Option.any_some]
      unfold Channel.touches
      by_cases atPeer : node = channel.peer
      · simp [atPeer, apart]
      · by_cases atNode : node = channel.node
        · simp [atNode, apart.symm]
        · simp [atPeer, atNode]
    · rw [if_neg same, count_upsertChannel_of_ne same]
      exact inv.once node id

theorem Inv.extends_of_once (inv : graph.Inv)
    (once : ∀ node, ((graph.upsertChannel channel).peerChannels.listed node).count channel.id =
      if channel.touches node then 1 else 0) : graph.Extends channel := by
  have atPeer := once channel.peer
  have atNode := once channel.node
  rw [count_upsertChannel_self] at atPeer atNode
  have touchesPeer : channel.touches channel.peer = true := by simp [Channel.touches]
  have touchesNode : channel.touches channel.node = true := by simp [Channel.touches]
  rw [touchesPeer, if_pos rfl, if_pos rfl] at atPeer
  rw [touchesNode, if_pos rfl, if_pos rfl] at atNode
  have apart : channel.peer ≠ channel.node := by
    intro same
    rw [if_pos same] at atPeer
    omega
  rw [if_neg apart] at atPeer
  rw [if_neg apart.symm] at atNode
  refine ⟨apart, fun old stored => ?_⟩
  have cleared (node : NodeId) : ((graph.withoutReplaced channel).listed node).count channel.id = _ :=
    inv.count_withoutReplaced
  simp only [stored] at cleared
  have moved : old.peer ≠ channel.peer := by
    intro same
    have left := cleared channel.peer
    have touched : old.touches channel.peer = true := by simp [Channel.touches, same]
    rw [if_neg fun both => both.1 same, if_pos touched] at left
    omega
  refine ⟨moved, ?_⟩
  by_contra elsewhere
  have oldApart := inv.apart _ _ stored
  have left := cleared old.node
  have touched : old.touches old.node = true := by simp [Channel.touches]
  have uncleared : ¬(old.peer ≠ channel.peer ∧ (old.node = channel.node ∨ old.node = old.peer)) := by
    rintro ⟨-, also | also⟩
    · exact elsewhere also
    · exact oldApart also.symm
  rw [if_neg uncleared, if_pos touched] at left
  have counted := once old.node
  rw [count_upsertChannel_self, left, if_neg elsewhere] at counted
  by_cases becomesPeer : old.node = channel.peer
  · rw [if_pos becomesPeer] at counted
    split at counted <;> omega
  · have outside : channel.touches old.node = false := by simp [Channel.touches, becomesPeer, elsewhere]
    simp [outside, becomesPeer] at counted

theorem Inv.new : InMemoryGraph.new.Inv where
  keyed := Keyed.new
  apart _ _ found := by cases found
  once _ _ := rfl

theorem Inv.perm_channelsForPeer (inv : graph.Inv) (node : NodeId) :
    (graph.channelsForPeer node).Perm (graph.ends node) := by
  have listed (id : ChannelId) : id ∈ graph.peerChannels.listed node ↔
      (graph.channel id).any (·.touches node) = true := by
    rw [← List.count_pos_iff, inv.once]
    split <;> simp_all
  have distinct : (graph.peerChannels.listed node).Nodup := by
    refine List.nodup_iff_count_le_one.mpr fun id => ?_
    rw [inv.once]
    split <;> omega
  have stored (channel : Channel) : channel ∈ graph.storedChannels ↔ graph.channel channel.id = some channel := by
    unfold storedChannels
    rw [List.mem_map]
    constructor
    · rintro ⟨⟨id, held⟩, member, rfl⟩
      have found : graph.channel id = some held := AList.mem_lookup_iff.mpr member
      rwa [inv.keyed id held found]
    · intro found
      exact ⟨⟨channel.id, channel⟩, AList.mem_lookup_iff.mp found, rfl⟩
  have storedDistinct : graph.storedChannels.Nodup := List.Nodup.of_map (·.id) (Keyed.distinct inv.keyed)
  refine (List.perm_ext_iff_of_nodup ?_ (storedDistinct.filter _)).mpr fun channel => ?_
  · refine List.Nodup.filterMap (fun a b channel foundA foundB => ?_) distinct
    rw [← inv.keyed a channel foundA, inv.keyed b channel foundB]
  · unfold channelsForPeer
    rw [List.mem_filterMap, List.mem_filter, stored]
    constructor
    · rintro ⟨id, member, found⟩
      have touched := (listed id).mp member
      rw [found, Option.any_some] at touched
      have own := inv.keyed id channel found
      exact ⟨own ▸ found, touched⟩
    · rintro ⟨found, touched⟩
      exact ⟨channel.id, (listed channel.id).mpr (by rw [found, Option.any_some, touched]), found⟩

theorem Inv.indexed (inv : graph.Inv) : graph.Indexed where
  once := inv.once
  forPeer := inv.perm_channelsForPeer
  count node := by
    rw [← (inv.perm_channelsForPeer node).countP_eq]
    unfold channelCountWithPeer channelsForPeer
    rw [List.countP_filterMap]
  capacity node := by
    unfold totalCapacityWithPeer
    rw [((inv.perm_channelsForPeer node).map (·.capacityMsat)).sum_eq]

inductive GraphCall where
  | upsertChannel (channel : Channel)
  | upsertChannels (channels : List Channel)

def GraphCall.channels : GraphCall → List Channel
  | .upsertChannel channel => [channel]
  | .upsertChannels channels => channels

def call (graph : InMemoryGraph) : GraphCall → InMemoryGraph
  | .upsertChannel channel => graph.upsertChannel channel
  | .upsertChannels channels => (graph.upsertChannels channels).1

theorem run_call (graph : InMemoryGraph) (calls : List GraphCall) :
    run call graph calls = run InMemoryGraph.upsertChannel graph (calls.flatMap GraphCall.channels) := by
  induction calls generalizing graph with
  | nil => rfl
  | cons first calls ih =>
    rw [List.flatMap_cons, run_append]
    have single : graph.call first = run InMemoryGraph.upsertChannel graph first.channels := by cases first <;> rfl
    rw [← single]
    exact ih (graph.call first)

/-- The graph is indexed after every upsert, and no repeated upsert changes an answer, exactly where every upsert
    adds a channel between two nodes or moves one to another peer of the same node. -/
theorem upserts_index_iff (calls : List GraphCall) :
    run call new calls = run InMemoryGraph.upsertChannel new (calls.flatMap GraphCall.channels) ∧
      (EachStep InMemoryGraph.upsertChannel (fun graph channel => (graph.upsertChannel channel).Indexed ∧
          (graph.channel channel.id = some channel → graph.SameAnswers (graph.upsertChannel channel)))
        new (calls.flatMap GraphCall.channels) ↔
      EachStep InMemoryGraph.upsertChannel Extends new (calls.flatMap GraphCall.channels)) := by
  refine ⟨run_call new calls, eachStep_iff (fun graph channel (inv : graph.Inv) => ⟨fun both => ?_, fun extends_ => ?_⟩)
    (fun graph channel inv extends_ => inv.upsertChannel extends_) Inv.new⟩
  · refine inv.extends_of_once fun node => ?_
    have counted := both.1.once node channel.id
    rwa [channel_upsertChannel, if_pos rfl, Option.any_some] at counted
  · refine ⟨(inv.upsertChannel extends_).indexed, fun stored => ?_⟩
    exact absurd rfl (extends_.moves channel stored).1

/-- The same channel twice, as any second poll of a source reports it. -/
theorem repeated_upsert_counts_twice :
    let channel : Channel :=
      { id := "txx0", node := "local", peer := "peer", channelPoint := "tx:0", capacityMsat := 100000, feePolicy := {},
        status := .active, liquidity := .compute 100000 40000 60000, lastSeen := 0, openingHeight := none,
        localReserveMsat := none, remoteReserveMsat := none, isPrivate := false, isInitiator := true,
        totalSentMsat := none, totalReceivedMsat := none }
    let once := new.upsertChannel channel
    let twice := run InMemoryGraph.upsertChannel new [channel, channel]
    once.totalCapacityWithPeer "peer" = 100000 ∧ twice.totalCapacityWithPeer "peer" = 200000 ∧
      twice.channelCountWithPeer "peer" = 2 ∧ ¬twice.Indexed ∧ ¬once.SameAnswers twice := by
  intro channel once twice
  have single : once.totalCapacityWithPeer "peer" = 100000 := by decide
  have doubled : twice.totalCapacityWithPeer "peer" = 200000 := by decide
  have entries : (twice.peerChannels.listed "peer").count "txx0" = 2 := by decide
  refine ⟨single, doubled, by decide, fun indexed => ?_, fun same => ?_⟩
  · have expected := indexed.once "peer" "txx0"
    rw [entries] at expected
    split at expected <;> omega
  · have unchanged := same.capacity "peer"
    rw [single, doubled] at unchanged
    omega

end InMemoryGraph

end Rieko
