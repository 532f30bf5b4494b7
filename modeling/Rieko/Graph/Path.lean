import Rieko.Graph.Store
import Rieko.Lib.ShortestPath

namespace Rieko

open ShortestPath

def u64Max : Nat := 2^64 - 1

def saturatingAdd (a b : Nat) : Nat := min (a + b) u64Max

def saturatingMul (a b : Nat) : Nat := min (a * b) u64Max

structure PathHop where
  channelId : ChannelId
  costMsat : Nat
deriving DecidableEq, Repr

structure Path where
  hops : List PathHop := []
  totalCostMsat : Nat := 0
deriving DecidableEq, Repr

/-- An entry of the queue. Nothing reads the channel that it came through. -/
structure Distanced where
  node : NodeId
  cost : Nat
  prevChannel : Option ChannelId
deriving DecidableEq, Repr

/-- The least cost is the greatest entry. -/
def Distanced.cmp (self other : Distanced) : Ordering :=
  (compare other.cost self.cost).then (compare self.node other.node)

abbrev ChannelMap := AList fun _ : ChannelId => Channel

def channelCost (channel : Channel) (amountMsat : Nat) : Nat :=
  saturatingAdd channel.feePolicy.baseFeeMsat (saturatingMul channel.feePolicy.feeRatePpm amountMsat / 1000000)

def Channel.otherEnd (channel : Channel) (node : NodeId) : NodeId :=
  if node = channel.node then channel.peer else channel.node

namespace FindPath

structure SearchState where
  dist : AList fun _ : NodeId => Nat
  prevChannel : AList fun _ : NodeId => ChannelId
  heap : List Distanced

def popMax : List Distanced → Option (Distanced × List Distanced)
  | [] => none
  | entry :: heap => match popMax heap with
    | none => some (entry, [])
    | some (top, rest) => if top.cmp entry = .lt then some (entry, heap) else some (top, entry :: rest)

def start (source : NodeId) : SearchState where
  dist := AList.insert source 0 ∅
  prevChannel := ∅
  heap := [⟨source, 0, none⟩]

variable (target : NodeId) (amountMsat : Nat) (channels : ChannelMap) (peerEdge : PeerChannels)

def relax (node : NodeId) (cost : Nat) (state : SearchState) (eid : ChannelId) : SearchState :=
  match channels.lookup eid with
  | none => state
  | some channel =>
    let neighbor := channel.otherEnd node
    let next := saturatingAdd cost (channelCost channel amountMsat)
    if next < (state.dist.lookup neighbor).getD u64Max then
      { dist := state.dist.insert neighbor next
        prevChannel := state.prevChannel.insert neighbor eid
        heap := state.heap ++ [⟨neighbor, next, some eid⟩] }
    else state

def search : Nat → SearchState → Option (Option (Nat × AList fun _ : NodeId => ChannelId))
  | 0, _ => none
  | fuel + 1, state => match popMax state.heap with
    | none => some none
    | some (top, heap) =>
      if top.node = target then some (some (top.cost, state.prevChannel))
      else if (state.dist.lookup top.node).getD u64Max < top.cost then search fuel { state with heap }
      else search fuel ((peerEdge.listed top.node).foldl (relax amountMsat channels top.node top.cost)
        { state with heap })

def walkBack (prev : AList fun _ : NodeId => ChannelId) : Nat → NodeId → List PathHop → Nat → Option (Option Path)
  | 0, _, _, _ => none
  | fuel + 1, cur, hops, total => match prev.lookup cur with
    | none => some (some ⟨hops.reverse, total⟩)
    | some cid => match channels.lookup cid with
      | none => some none
      | some channel =>
        let hopCost := channelCost channel 0
        walkBack prev fuel (channel.otherEnd cur) (hops ++ [⟨cid, hopCost⟩]) (saturatingAdd total hopCost)

def reconstructPath (fuel : Nat) (prev : AList fun _ : NodeId => ChannelId) : Option (Option Path) :=
  walkBack channels prev fuel target [] 0

end FindPath

open FindPath

/-- The cheapest path, if there is one. The fuel bounds the rounds of each of the two loops; there is no answer where
    it runs out. -/
def findPath (fuel : Nat) (source target : NodeId) (amountMsat : Nat) (channels : ChannelMap)
    (peerEdge : PeerChannels) : Option (Option Path) :=
  if source = target then some (some {}) else do
    match ← search target amountMsat channels peerEdge fuel (start source) with
    | none => return none
    | some (_, prev) => reconstructPath target channels fuel prev

def InMemoryGraph.findPath (graph : InMemoryGraph) (fuel : Nat) (source target : NodeId) (amountMsat : Nat) :
    Option (Option Path) :=
  Rieko.findPath fuel source target amountMsat graph.channels graph.peerChannels

theorem Channel.otherEnd_otherEnd {channel : Channel} {node : NodeId}
    (isEnd : node = channel.node ∨ node = channel.peer) : channel.otherEnd (channel.otherEnd node) = node := by
  unfold Channel.otherEnd
  by_cases first : node = channel.node
  · by_cases loop : channel.peer = channel.node
    · simp [first, loop]
    · simp [first, loop]
  · have second : node = channel.peer := isEnd.resolve_left first
    simp [second]

namespace FindPath

theorem popMax_none {heap : List Distanced} (empty : popMax heap = none) : heap = [] := by
  cases heap with
  | nil => rfl
  | cons entry heap =>
    unfold popMax at empty
    split at empty
    · cases empty
    · split at empty <;> cases empty

theorem cost_le_of_cmp {self other : Distanced} (least : self.cmp other ≠ .lt) : self.cost ≤ other.cost := by
  by_contra less
  refine least ?_
  unfold Distanced.cmp
  rw [Nat.compare_eq_lt.mpr (Nat.not_le.mp less)]
  rfl

theorem cost_le_of_cmp_lt {self other : Distanced} (less : self.cmp other = .lt) : other.cost ≤ self.cost := by
  by_contra more
  unfold Distanced.cmp at less
  rw [Nat.compare_eq_gt.mpr (Nat.not_le.mp more)] at less
  cases less

theorem popMax_some {heap : List Distanced} {top : Distanced} {rest : List Distanced}
    (popped : popMax heap = some (top, rest)) : heap.Perm (top :: rest) ∧ ∀ entry ∈ rest, top.cost ≤ entry.cost := by
  induction heap generalizing top rest with
  | nil => cases popped
  | cons entry heap ih =>
    unfold popMax at popped
    split at popped
    next empty =>
      cases popped
      rw [popMax_none empty]
      exact ⟨List.Perm.refl _, by simp⟩
    next best others found =>
      obtain ⟨perm, least⟩ := ih found
      split at popped
      next less =>
        cases popped
        refine ⟨List.Perm.refl _, fun other member => ?_⟩
        have dearer := cost_le_of_cmp_lt less
        rcases List.mem_cons.mp (perm.mem_iff.mp member) with rfl | later
        · exact dearer
        · exact Nat.le_trans dearer (least other later)
      next notLess =>
        cases popped
        refine ⟨(perm.cons entry).trans (List.Perm.swap top entry others), fun other member => ?_⟩
        rcases List.mem_cons.mp member with rfl | later
        · exact cost_le_of_cmp notLess
        · exact least other later

section Refinement

variable (amountMsat : Nat) (channels : ChannelMap) (peerEdge : PeerChannels)

def edges (node : NodeId) : List (ChannelId × NodeId) :=
  (peerEdge.listed node).filterMap fun id => (channels.lookup id).map fun channel => (id, channel.otherEnd node)

def weight (id : ChannelId) : Nat := ((channels.lookup id).map (channelCost · amountMsat)).getD 0

/-- Where a node that is not an end of a channel lists it, the channel is no preferred connection of that node. -/
def PrefersEnds : Prop :=
  ∀ u id v, Preferred (edges channels peerEdge) (weight amountMsat channels) u id v →
    ∀ channel, channels.lookup id = some channel → u = channel.node ∨ u = channel.peer

def SearchState.abstract (state : SearchState) : Search NodeId ChannelId where
  dist node := (state.dist.lookup node).getD u64Max
  prev node := state.prevChannel.lookup node
  frontier := state.heap.map fun entry => (entry.node, entry.cost)

theorem dist_abstract (state : SearchState) (node : NodeId) :
    (state.dist.lookup node).getD u64Max = state.abstract.dist node := rfl

theorem abstract_start (source : NodeId) : (start source).abstract = Search.start u64Max source := by
  unfold SearchState.abstract Search.start start
  congr 1
  funext node
  by_cases same : node = source
  · rw [same, Function.update_self, AList.lookup_insert]
    rfl
  · rw [Function.update_of_ne same, AList.lookup_insert_ne same]
    rfl

variable {amountMsat channels peerEdge} {node : NodeId} {cost : Nat} {state : SearchState} {eid : ChannelId}

theorem weight_of_lookup {channel : Channel} (found : channels.lookup eid = some channel) :
    weight amountMsat channels eid = channelCost channel amountMsat := by
  unfold weight
  rw [found]
  rfl

theorem abstract_insert (neighbor : NodeId) (next : Nat) (rest : List Distanced) :
    SearchState.abstract ⟨state.dist.insert neighbor next, state.prevChannel.insert neighbor eid, rest⟩ =
      ⟨Function.update state.abstract.dist neighbor next, Function.update state.abstract.prev neighbor (some eid),
        rest.map fun entry => (entry.node, entry.cost)⟩ := by
  unfold SearchState.abstract
  congr 1
  · funext node
    by_cases same : node = neighbor
    · rw [same, Function.update_self, AList.lookup_insert]
      rfl
    · rw [Function.update_of_ne same, AList.lookup_insert_ne same]
  · funext node
    by_cases same : node = neighbor
    · rw [same, Function.update_self, AList.lookup_insert]
    · rw [Function.update_of_ne same, AList.lookup_insert_ne same]

theorem abstract_relax : (relax amountMsat channels node cost state eid).abstract =
    match channels.lookup eid with
    | none => state.abstract
    | some channel => state.abstract.relax (weight amountMsat channels) u64Max cost (eid, channel.otherEnd node) := by
  unfold relax
  cases found : channels.lookup eid with
  | none => rfl
  | some channel =>
    have next : saturatingAdd cost (channelCost channel amountMsat) =
        min (cost + weight amountMsat channels eid) u64Max := by rw [weight_of_lookup found]; rfl
    dsimp only
    rw [next, dist_abstract]
    by_cases nearer : min (cost + weight amountMsat channels eid) u64Max < state.abstract.dist (channel.otherEnd node)
    · rw [Search.relax_of_nearer nearer, if_pos nearer, abstract_insert, List.map_append]
      rfl
    · rw [Search.relax_of_not (Nat.not_lt.mp nearer), if_neg nearer]

theorem abstract_expand (ids : List ChannelId) :
    (ids.foldl (relax amountMsat channels node cost) state).abstract =
      state.abstract.expand (weight amountMsat channels) u64Max cost
        (ids.filterMap fun id => (channels.lookup id).map fun channel => (id, channel.otherEnd node)) := by
  induction ids generalizing state with
  | nil => rfl
  | cons id ids ih =>
    rw [List.foldl_cons, ih, abstract_relax]
    cases found : channels.lookup id with
    | none => rw [List.filterMap_cons_none (by rw [found]; rfl)]
    | some channel =>
      rw [List.filterMap_cons_some (by rw [found]; rfl)]
      rfl

end Refinement

section Run

variable {target : NodeId} {amountMsat : Nat} {channels : ChannelMap} {peerEdge : PeerChannels} {source : NodeId}
  {settled : List NodeId} {log : Log NodeId ChannelId} {state : SearchState}

def ends (channels : ChannelMap) : Finset NodeId :=
  (channels.entries.flatMap fun entry => [entry.2.node, entry.2.peer]).toFinset

theorem mem_ends {node : NodeId} {step : ChannelId × NodeId} (member : step ∈ edges channels peerEdge node) :
    step.2 ∈ ends channels := by
  obtain ⟨id, -, found⟩ := List.mem_filterMap.mp member
  obtain ⟨channel, stored, rfl⟩ := Option.map_eq_some_iff.mp found
  unfold ends
  rw [List.mem_toFinset, List.mem_flatMap]
  refine ⟨⟨id, channel⟩, AList.mem_lookup_iff.mp stored, ?_⟩
  unfold Channel.otherEnd
  split <;> simp

structure Found (target : NodeId) (amountMsat : Nat) (channels : ChannelMap) (peerEdge : PeerChannels)
    (source : NodeId) (d : Nat) (prev : AList fun _ : NodeId => ChannelId) (settled : List NodeId)
    (log : Log NodeId ChannelId) (s : Search NodeId ChannelId) (rest : List (NodeId × Nat)) : Prop where
  ready : Ready (edges channels peerEdge) (weight amountMsat channels) u64Max source settled log s
  prev : s.prev = fun node => prev.lookup node
  popped : s.frontier.Perm ((target, d) :: rest)
  nearest : ∀ node d', (node, d') ∈ rest → d ≤ d'
  outside : target ∉ settled

/-- From a state that is ready the search ends, with fuel for all that there is still to follow. -/
theorem search_ends {fuel : Nat}
    (ready : Ready (edges channels peerEdge) (weight amountMsat channels) u64Max source settled log state.abstract)
    (outside : target ∉ settled) (enough : state.abstract.potential (ends channels) < fuel) :
    (search target amountMsat channels peerEdge fuel state = some none ∧
      ∀ steps, Walk (fun u e v => (e, v) ∈ edges channels peerEdge u) source steps target →
        u64Max ≤ cost (weight amountMsat channels) steps) ∨
    ∃ d prev settled log s rest, search target amountMsat channels peerEdge fuel state = some (some (d, prev)) ∧
      Found target amountMsat channels peerEdge source d prev settled log s rest := by
  induction fuel generalizing state settled log with
  | zero => exact absurd enough (Nat.not_lt_zero _)
  | succ fuel ih =>
    unfold search
    cases popped : popMax state.heap with
    | none =>
      have empty : state.abstract.frontier = [] := by
        unfold SearchState.abstract
        rw [popMax_none popped]
        rfl
      exact .inl ⟨rfl, fun steps walk => ready.unreachable empty outside walk⟩
    | some result =>
      obtain ⟨top, heap⟩ := result
      obtain ⟨perm, least⟩ := popMax_some popped
      have frontier : state.abstract.frontier.Perm
          ((top.node, top.cost) :: (SearchState.abstract { state with heap }).frontier) :=
        perm.map fun entry : Distanced => (entry.node, entry.cost)
      have nearest (node : NodeId) (d : Nat)
          (member : (node, d) ∈ (SearchState.abstract { state with heap }).frontier) :
          top.cost ≤ d := by
        obtain ⟨entry, among, same⟩ := List.mem_map.mp member
        exact (Prod.mk.inj same).2 ▸ least entry among
      have shorter : (SearchState.abstract { state with heap }).potential (ends channels) + 1 =
          state.abstract.potential (ends channels) := by
        have lengths := frontier.length_eq
        unfold Search.potential
        rw [lengths, List.length_cons]
        show _ + ∑ v ∈ ends channels, state.abstract.dist v + 1 = _
        omega
      dsimp only
      by_cases arrived : top.node = target
      · rw [if_pos arrived]
        rw [arrived] at frontier
        exact .inr ⟨top.cost, state.prevChannel, settled, log, state.abstract, _, rfl,
          ready, rfl, frontier, nearest, outside⟩
      · rw [if_neg arrived, dist_abstract]
        by_cases overtaken : state.abstract.dist top.node < top.cost
        · rw [if_pos overtaken]
          exact ih (ready.drop frontier overtaken) outside (by omega)
        · rw [if_neg overtaken]
          have current : state.abstract.dist top.node = top.cost :=
            Nat.le_antisymm (ready.pending _ _ (frontier.mem_iff.mpr List.mem_cons_self)).1 (Nat.not_lt.mp overtaken)
          have next := ready.settle frontier nearest current
          have expanded : ((peerEdge.listed top.node).foldl (relax amountMsat channels top.node top.cost)
              { state with heap }).abstract = Search.expand (weight amountMsat channels) u64Max top.cost
                (SearchState.abstract { state with heap }) (edges channels peerEdge top.node) := abstract_expand _
          have later : ((SearchState.abstract { state with heap }).expand (weight amountMsat channels) u64Max top.cost
              (edges channels peerEdge top.node)).potential (ends channels) ≤
                (SearchState.abstract { state with heap }).potential (ends channels) :=
            Search.potential_expand fun step member => mem_ends member
          refine ih (expanded ▸ next) ?_ (by rw [expanded]; omega)
          exact fun member => (List.mem_cons.mp member).elim (fun same => arrived same.symm) outside

theorem search_mono {fuel more : Nat} {result : Option (Nat × AList fun _ : NodeId => ChannelId)}
    (ended : search target amountMsat channels peerEdge fuel state = some result) (atLeast : fuel ≤ more) :
    search target amountMsat channels peerEdge more state = some result := by
  induction fuel generalizing more state with
  | zero => cases ended
  | succ fuel ih =>
    obtain ⟨more, rfl⟩ := Nat.exists_eq_add_of_lt atLeast
    unfold search at ended ⊢
    cases popped : popMax state.heap with
    | none => rwa [popped] at ended
    | some top =>
      rw [popped] at ended
      dsimp only at ended ⊢
      split at ended
      · rwa [if_pos ‹_›]
      · rw [if_neg ‹_›]
        split at ended
        · rw [if_pos ‹_›]
          exact ih ended (Nat.le_add_right fuel more)
        · rw [if_neg ‹_›]
          exact ih ended (Nat.le_add_right fuel more)

theorem walkBack_mono {prev : AList fun _ : NodeId => ChannelId} {fuel more : Nat} {node : NodeId}
    {hops : List PathHop} {total : Nat} {result : Option Path}
    (ended : walkBack channels prev fuel node hops total = some result) (atLeast : fuel ≤ more) :
    walkBack channels prev more node hops total = some result := by
  induction fuel generalizing more node hops total with
  | zero => cases ended
  | succ fuel ih =>
    obtain ⟨more, rfl⟩ := Nat.exists_eq_add_of_lt atLeast
    unfold walkBack at ended ⊢
    cases last : prev.lookup node with
    | none => rwa [last] at ended
    | some id =>
      rw [last] at ended
      dsimp only at ended ⊢
      cases stored : channels.lookup id with
      | none => rwa [stored] at ended
      | some channel =>
        rw [stored] at ended
        exact ih ended (Nat.le_add_right fuel more)

def hop (channels : ChannelMap) (step : ChannelId × NodeId) : PathHop := ⟨step.1, weight 0 channels step.1⟩

variable {s : Search NodeId ChannelId} {prev : AList fun _ : NodeId => ChannelId}

theorem Found.walkBack {d : Nat} {rest : List (NodeId × Nat)} (prefers : PrefersEnds amountMsat channels peerEdge)
    (found : Found target amountMsat channels peerEdge source d prev settled log s rest) {node : NodeId}
    {steps : List (ChannelId × NodeId)} (known : node ∈ settled ∨ node = target ∧ target ∉ settled)
    (traced : Traced (weight amountMsat channels) source settled log s node steps) {fuel : Nat}
    (enough : steps.length < fuel) (hops : List PathHop) {total : Nat} (small : total ≤ u64Max) :
    walkBack channels prev fuel node hops total =
      some (some ⟨steps.map (hop channels) ++ hops.reverse, min (total + cost (weight 0 channels) steps) u64Max⟩) := by
  induction traced generalizing fuel hops total with
  | source =>
    obtain ⟨fuel, rfl⟩ := Nat.exists_eq_add_of_lt enough
    have ends : prev.lookup source = none := by
      have nothing := found.ready.source_prev
      rwa [found.prev] at nothing
    unfold FindPath.walkBack
    rw [ends]
    show some (some (Path.mk hops.reverse total)) = some (some ⟨hops.reverse, min (total + 0) u64Max⟩)
    rw [Nat.add_zero, Nat.min_eq_left small]
  | @step u v e steps before after earlier among last followed tight first ih =>
    rw [List.length_append, List.length_singleton] at enough
    obtain ⟨fuel, rfl⟩ : ∃ n, fuel = n + 1 := ⟨fuel - 1, by omega⟩
    have preferred := found.ready.preferred_last found.popped found.nearest earlier known followed tight first
    obtain ⟨id, -, edge⟩ := List.mem_filterMap.mp preferred.member
    obtain ⟨channel, stored, same⟩ := Option.map_eq_some_iff.mp edge
    obtain ⟨rfl, rfl⟩ := Prod.mk.inj same
    have last' : prev.lookup (channel.otherEnd u) = some id := by rwa [found.prev] at last
    have backwards := Channel.otherEnd_otherEnd (prefers u id _ preferred channel stored)
    have charged : channelCost channel 0 = weight 0 channels id := (weight_of_lookup stored).symm
    unfold FindPath.walkBack
    rw [last']
    dsimp only
    rw [stored]
    dsimp only
    have later := ih (.inl among) (Nat.lt_of_succ_lt_succ enough) (hops ++ [⟨id, weight 0 channels id⟩])
      (Nat.min_le_right (total + weight 0 channels id) u64Max)
    rw [backwards, charged, saturatingAdd, later, List.map_append, List.reverse_append, List.append_assoc, cost_append,
      cost_single]
    congr 3
    omega

end Run

end FindPath

def Finds (source target : NodeId) (amountMsat : Nat) (channels : ChannelMap) (peerEdge : PeerChannels)
    (result : Option Path) : Prop :=
  ∃ fuel, ∀ more, fuel ≤ more → findPath more source target amountMsat channels peerEdge = some result

/-- The distance at which the search settles the target. -/
def SettlesAt (source target : NodeId) (amountMsat : Nat) (channels : ChannelMap) (peerEdge : PeerChannels)
    (d : Nat) : Prop :=
  if source = target then d = 0
  else ∃ fuel prev, search target amountMsat channels peerEdge fuel (start source) = some (some (d, prev))

theorem Finds.of_run {fuel : Nat} {source target : NodeId} {amountMsat : Nat} {channels : ChannelMap}
    {peerEdge : PeerChannels} {result : Option Path}
    (ended : findPath fuel source target amountMsat channels peerEdge = some result) :
    Finds source target amountMsat channels peerEdge result := by
  refine ⟨fuel, fun more atLeast => ?_⟩
  unfold findPath at ended ⊢
  split at ended
  · rwa [if_pos ‹_›]
  · rw [if_neg ‹_›]
    cases searched : search target amountMsat channels peerEdge fuel (start source) with
    | none =>
      rw [searched] at ended
      cases ended
    | some found =>
      rw [search_mono searched atLeast]
      rw [searched] at ended
      cases found with
      | none => exact ended
      | some found => exact walkBack_mono ended atLeast

theorem Finds.unique {source target : NodeId} {amountMsat : Nat} {channels : ChannelMap} {peerEdge : PeerChannels}
    {result other : Option Path} (finds : Finds source target amountMsat channels peerEdge result)
    (finds' : Finds source target amountMsat channels peerEdge other) : result = other := by
  obtain ⟨fuel, found⟩ := finds
  obtain ⟨fuel', found'⟩ := finds'
  have same := (found (max fuel fuel') (Nat.le_max_left _ _)).symm.trans (found' _ (Nat.le_max_right _ _))
  exact Option.some.inj same

namespace FindPath

abbrev Leads (channels : ChannelMap) (peerEdge : PeerChannels) (u : NodeId) (id : ChannelId) (v : NodeId) : Prop :=
  (id, v) ∈ edges channels peerEdge u

structure Cheapest (source target : NodeId) (amountMsat : Nat) (channels : ChannelMap) (peerEdge : PeerChannels)
    (steps : List (ChannelId × NodeId)) : Prop where
  finds : Finds source target amountMsat channels peerEdge
    (some ⟨steps.map (hop channels), min (cost (weight 0 channels) steps) u64Max⟩)
  preferred : Walk (Preferred (edges channels peerEdge) (weight amountMsat channels)) source steps target
  settles : SettlesAt source target amountMsat channels peerEdge (cost (weight amountMsat channels) steps)
  bounded : cost (weight amountMsat channels) steps < u64Max
  least : ∀ other, Walk (Leads channels peerEdge) source other target →
    cost (weight amountMsat channels) steps ≤ cost (weight amountMsat channels) other
  direct : source ≠ target → ∀ id, Preferred (edges channels peerEdge) (weight amountMsat channels) source id target →
    steps = [(id, target)]

variable {source target : NodeId} {amountMsat : Nat} {channels : ChannelMap} {peerEdge : PeerChannels}

theorem Cheapest.stay : Cheapest source source amountMsat channels peerEdge [] where
  finds := ⟨0, fun more _ => by unfold findPath; rw [if_pos rfl]; rfl⟩
  preferred := .stay source
  settles := by
    unfold SettlesAt
    rw [if_pos rfl]
    rfl
  bounded := by
    show 0 < u64Max
    decide
  least _ _ := Nat.zero_le _
  direct apart := absurd rfl apart

theorem Cheapest.walk {steps : List (ChannelId × NodeId)}
    (cheapest : Cheapest source target amountMsat channels peerEdge steps) :
    Walk (Leads channels peerEdge) source steps target :=
  cheapest.preferred.mono fun _ _ _ preferred => preferred.member

/-- A call finds a cheapest walk, or no walk costs less than the largest number. -/
theorem findPath_ends (prefers : PrefersEnds amountMsat channels peerEdge) (source target : NodeId) :
    (∃ steps, Cheapest source target amountMsat channels peerEdge steps) ∨
    (Finds source target amountMsat channels peerEdge none ∧
      ∀ steps, Walk (Leads channels peerEdge) source steps target →
        u64Max ≤ cost (weight amountMsat channels) steps) := by
  by_cases apart : source = target
  · exact .inl ⟨[], apart ▸ .stay⟩
  have ready : Ready (edges channels peerEdge) (weight amountMsat channels) u64Max source [] []
      (start source).abstract := abstract_start source ▸ Ready.start (by decide)
  have outside : target ∉ ([] : List NodeId) := by simp
  let fuel := (start source).abstract.potential (ends channels) + 1
  rcases search_ends ready outside (Nat.lt_succ_self _ : _ < fuel) with
    ⟨ended, far⟩ | ⟨d, prev, settled, log, s, rest, ended, found⟩
  · refine .inr ⟨⟨fuel, fun more atLeast => ?_⟩, far⟩
    unfold findPath
    rw [if_neg apart, search_mono ended atLeast]
    rfl
  · obtain ⟨settledAt, small⟩ := found.ready.popped_dist found.popped found.nearest found.outside
    obtain ⟨steps, traced⟩ := found.ready.traced target (settledAt ▸ small)
    obtain ⟨-, length⟩ := traced.walk found.ready.toInv
    have length_eq : cost (weight amountMsat channels) steps = d := length.trans settledAt
    have preferred := found.ready.preferred found.popped found.nearest traced (.inr ⟨rfl, found.outside⟩)
    refine .inl ⟨steps, ⟨max fuel (steps.length + 1), fun more atLeast => ?_⟩, preferred, ?_, length_eq ▸ small, ?_, ?_⟩
    · have back := found.walkBack prefers (.inr ⟨rfl, found.outside⟩) traced
        (Nat.lt_of_succ_le (Nat.le_trans (Nat.le_max_right _ _) atLeast)) [] (Nat.zero_le u64Max)
      unfold findPath reconstructPath
      rw [if_neg apart, search_mono ended (Nat.le_trans (Nat.le_max_left _ _) atLeast)]
      show walkBack channels prev more target [] 0 = _
      rw [back, List.reverse_nil, List.append_nil, Nat.zero_add]
    · unfold SettlesAt
      rw [if_neg apart, length_eq]
      exact ⟨_, prev, ended⟩
    · intro other walk'
      have bounded := found.ready.shortest found.popped found.nearest (.inr ⟨rfl, found.outside⟩) walk'
      exact length ▸ bounded
    · exact fun apart id preferred =>
        found.ready.direct found.popped found.nearest found.outside apart.symm preferred traced

end FindPath

end Rieko
