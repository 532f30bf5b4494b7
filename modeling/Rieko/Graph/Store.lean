import Rieko.Detectors.Registry
import Rieko.Lib.Transition
import Mathlib.Data.List.AList

namespace Rieko

open Transition

inductive NodeStatus where
  | active | disconnected | unknown
deriving DecidableEq, Repr

structure Node where
  id : NodeId
  alias_ : Option String
  status : NodeStatus
  lastSeen : DateTime
deriving DecidableEq, Repr

abbrev PeerChannels := AList fun _ : NodeId => List ChannelId

namespace PeerChannels

variable {lists : PeerChannels} {node other : NodeId} {id : ChannelId}

def listed (lists : PeerChannels) (node : NodeId) : List ChannelId := (lists.lookup node).getD []

def push (node : NodeId) (id : ChannelId) (lists : PeerChannels) : PeerChannels :=
  lists.insert node (lists.listed node ++ [id])

def retainOthers (node : NodeId) (id : ChannelId) (lists : PeerChannels) : PeerChannels :=
  match lists.lookup node with
  | some list => lists.insert node (list.filter (· ≠ id))
  | none => lists

theorem listed_push :
    (push node id lists).listed other = if other = node then lists.listed other ++ [id] else lists.listed other := by
  unfold push
  by_cases same : other = node
  · subst same
    rw [if_pos rfl]
    conv_lhs => rw [listed, AList.lookup_insert, Option.getD_some]
  · rw [if_neg same]
    conv_lhs => rw [listed, AList.lookup_insert_ne same, ← listed]

theorem listed_retainOthers : (retainOthers node id lists).listed other =
    if other = node then (lists.listed other).filter (· ≠ id) else lists.listed other := by
  unfold retainOthers
  by_cases same : other = node
  · subst same
    rw [if_pos rfl]
    cases found : lists.lookup other with
    | none => simp [listed, found]
    | some list => simp [listed, found]
  · rw [if_neg same]
    cases found : lists.lookup node with
    | none => rfl
    | some list => simp [listed, AList.lookup_insert_ne same]

theorem count_push {wanted : ChannelId} : ((push node id lists).listed other).count wanted =
    (lists.listed other).count wanted + if other = node ∧ wanted = id then 1 else 0 := by
  rw [listed_push]
  by_cases same : other = node
  · by_cases pushed : wanted = id
    · simp [same, pushed]
    · have absent : ([id] : List ChannelId).count wanted = 0 :=
        List.count_eq_zero.mpr fun member => pushed (List.mem_singleton.mp member)
      rw [if_pos same, List.count_append, absent, if_neg fun both => pushed both.2]
  · simp [same]

theorem count_retainOthers {wanted : ChannelId} : ((retainOthers node id lists).listed other).count wanted =
    if other = node ∧ wanted = id then 0 else (lists.listed other).count wanted := by
  rw [listed_retainOthers]
  by_cases same : other = node
  · by_cases removed : wanted = id
    · simp [same, removed, List.count_eq_zero]
    · have kept : decide (wanted ≠ id) = true := by simpa using removed
      rw [if_pos same, if_neg (fun both => removed both.2)]
      exact List.count_filter (p := fun other => decide (other ≠ id)) kept
  · simp [same]

end PeerChannels

structure InMemoryGraph where
  nodes : AList fun _ : NodeId => Node := ∅
  channels : AList fun _ : ChannelId => Channel := ∅
  peerChannels : PeerChannels := ∅

namespace InMemoryGraph

def new : InMemoryGraph := {}

def channel (graph : InMemoryGraph) (id : ChannelId) : Option Channel := graph.channels.lookup id

def storedChannels (graph : InMemoryGraph) : List Channel := graph.channels.entries.map (·.2)

def view (graph : InMemoryGraph) : GraphView := ⟨graph.storedChannels⟩

def channelsForPeer (graph : InMemoryGraph) (peer : NodeId) : List Channel :=
  (graph.peerChannels.listed peer).filterMap graph.channel

/-- Sums of `u64` wrap around in a release build. -/
def totalCapacityWithPeer (graph : InMemoryGraph) (peer : NodeId) : Nat :=
  ((graph.channelsForPeer peer).map (·.capacityMsat)).sum % 2^64

def channelCountWithPeer (graph : InMemoryGraph) (peer : NodeId) : Nat :=
  (graph.peerChannels.listed peer).countP fun id => ((graph.channel id).map (·.status.isOpen)).getD false

/-- The adjacency lists once the entries of a channel that is being replaced are removed, which happens where its
    peer changes. -/
def withoutReplaced (graph : InMemoryGraph) (channel : Channel) : PeerChannels :=
  match graph.channel channel.id with
  | none => graph.peerChannels
  | some old =>
    if old.peer ≠ channel.peer then
      (graph.peerChannels.retainOthers old.peer channel.id).retainOthers channel.node channel.id
    else graph.peerChannels

def upsertChannel (graph : InMemoryGraph) (channel : Channel) : InMemoryGraph where
  nodes := if channel.peer ∈ graph.nodes then graph.nodes else
    graph.nodes.insert channel.peer ⟨channel.peer, none, .unknown, channel.lastSeen⟩
  channels := graph.channels.insert channel.id channel
  peerChannels := ((graph.withoutReplaced channel).push channel.peer channel.id).push channel.node channel.id

def upsertChannels (graph : InMemoryGraph) (channels : List Channel) : InMemoryGraph × Nat :=
  (channels.foldl upsertChannel graph, channels.length)

def Keyed (graph : InMemoryGraph) : Prop := ∀ id channel, graph.channel id = some channel → channel.id = id

variable {graph : InMemoryGraph} {upserted : Channel} {id : ChannelId}

theorem channel_upsertChannel :
    (graph.upsertChannel upserted).channel id = if id = upserted.id then some upserted else graph.channel id := by
  show (graph.channels.insert upserted.id upserted).lookup id = _
  by_cases same : id = upserted.id
  · rw [if_pos same, same, AList.lookup_insert]
  · rw [if_neg same, AList.lookup_insert_ne same]
    rfl

theorem Keyed.new : new.Keyed := by
  intro id channel found
  cases found

theorem Keyed.upsertChannel (keyed : graph.Keyed) (upserted : Channel) : (graph.upsertChannel upserted).Keyed := by
  intro id channel found
  rw [channel_upsertChannel] at found
  split at found
  next same =>
    cases found
    exact same.symm
  · exact keyed id channel found

theorem Keyed.upsertChannels (keyed : graph.Keyed) (channels : List Channel) :
    (channels.foldl InMemoryGraph.upsertChannel graph).Keyed := by
  induction channels generalizing graph with
  | nil => exact keyed
  | cons first rest ih => exact ih (keyed.upsertChannel first)

theorem Keyed.ids (keyed : graph.Keyed) : graph.storedChannels.map (·.id) = graph.channels.keys := by
  unfold storedChannels AList.keys List.keys
  rw [List.map_map]
  refine List.map_congr_left fun entry member => ?_
  exact keyed entry.1 entry.2 (AList.mem_lookup_iff.mpr member)

theorem Keyed.distinct (keyed : graph.Keyed) : (graph.storedChannels.map (·.id)).Nodup := by
  rw [keyed.ids]
  exact graph.channels.keys_nodup

end InMemoryGraph

end Rieko
