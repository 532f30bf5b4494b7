import Rieko.Storage.Pruning

namespace Rieko

open Ranking StatefulResult

namespace ChannelKey

instance : Std.TransCmp compare :=
  inferInstanceAs (Std.TransCmp (compareLex (compareOn fun key : ChannelKey => key.network.map BitcoinNetwork.rank)
    (compareLex (compareOn ChannelKey.nodeId) (compareOn ChannelKey.channelId))))

theorem eq_of_compare {a b : ChannelKey} (same : a.compare b = .eq) : a = b := by
  unfold compare at same
  rw [Ordering.then_eq_eq, Ordering.then_eq_eq] at same
  rcases same with ⟨network, node, channel⟩
  have ranks := Std.LawfulEqCmp.eq_of_compare network
  have networks : a.network = b.network :=
    Option.map_injective (fun x y => by cases x <;> cases y <;> simp [BitcoinNetwork.rank]) ranks
  have nodes : a.nodeId = b.nodeId := Std.LawfulEqCmp.eq_of_compare node
  have channels : a.channelId = b.channelId := Std.LawfulEqCmp.eq_of_compare channel
  cases a
  cases b
  simp only [ChannelKey.mk.injEq]
  exact ⟨networks, nodes, channels⟩

theorem ascending (keys : List ChannelKey) :
    (keys.dedup.insertionSort fun a b => (a.compare b).isLE).Pairwise fun a b => a.compare b = .lt := by
  have total : Std.Total fun a b : ChannelKey => (a.compare b).isLE = true := ⟨fun a b => by
    have swap : b.compare a = (a.compare b).swap := Std.OrientedCmp.eq_swap
    rw [swap]
    cases a.compare b <;> simp⟩
  have trans : IsTrans ChannelKey fun a b => (a.compare b).isLE = true := ⟨fun _ _ _ => Std.TransCmp.isLE_trans⟩
  have sorted := List.pairwise_insertionSort (fun a b : ChannelKey => (a.compare b).isLE = true) keys.dedup
  have once : (keys.dedup.insertionSort fun a b => (a.compare b).isLE).Nodup :=
    (List.perm_insertionSort _ _).nodup_iff.mpr keys.nodup_dedup
  refine (sorted.and once).imp fun {a b} both => ?_
  cases order : a.compare b with
  | lt => rfl
  | eq => exact absurd (eq_of_compare order) both.2
  | gt => simp [order] at both

end ChannelKey

def Chronological (rows : List ChannelSnapshot) : Prop := rows.Pairwise fun a b => a.ts ≤ b.ts

section Grouped

variable {keys : List ChannelKey} {piece : ChannelKey → List ChannelSnapshot}

/-- Snapshots stand in the order of their channels and, within one, in that of time only if they are of one instant. -/
def RisesByChannel (rows : List ChannelSnapshot) : Prop :=
  ∀ a ∈ rows, ∀ b ∈ rows, (ChannelKey.of a = ChannelKey.of b → a.ts = b.ts) ∧
    ((ChannelKey.of a).compare (ChannelKey.of b) = .lt → a.ts ≤ b.ts)

theorem chronological_flatMap (ascending : keys.Pairwise fun a b => a.compare b = .lt)
    (own : ∀ key, ∀ row ∈ piece key, ChannelKey.of row = key)
    (falling : ∀ key, (piece key).Pairwise fun a b => b.ts ≤ a.ts) :
    Chronological (keys.flatMap piece) ↔ RisesByChannel (keys.flatMap piece) := by
  have asymm (a b : ChannelKey) (less : a.compare b = .lt) : ¬b.compare a = .lt := by
    have swap : b.compare a = (a.compare b).swap := Std.OrientedCmp.eq_swap
    rw [swap, less]
    simp
  unfold Chronological RisesByChannel
  rw [List.pairwise_flatMap, pairwise_iff_of_ascending asymm ascending]
  constructor
  · rintro ⟨inside, across⟩ a memberA b memberB
    rcases List.mem_flatMap.mp memberA with ⟨keyA, listedA, inA⟩
    rcases List.mem_flatMap.mp memberB with ⟨keyB, listedB, inB⟩
    rw [own keyA a inA, own keyB b inB]
    refine ⟨?_, fun less => across keyA listedA keyB listedB less a inA b inB⟩
    rintro rfl
    exact (rises_iff_of_falling (falling keyA)).mp (inside keyA listedA) a inA b inB
  · intro rises
    have member {key : ChannelKey} (listed : key ∈ keys) {row : ChannelSnapshot} (inPiece : row ∈ piece key) :
        row ∈ keys.flatMap piece := List.mem_flatMap.mpr ⟨key, listed, inPiece⟩
    refine ⟨fun key listed => (rises_iff_of_falling (falling key)).mpr fun a inA b inB => ?_,
      fun keyA listedA keyB listedB less a inA b inB => ?_⟩
    · exact (rises a (member listed inA) b (member listed inB)).1 ((own key a inA).trans (own key b inB).symm)
    · refine (rises a (member listedA inA) b (member listedB inB)).2 ?_
      rwa [own keyA a inA, own keyB b inB]

end Grouped

def laterKept (cap : Option Nat) (rows : List ChannelSnapshot) (instant : DateTime) : Nat :=
  match cap with
  | none => rows.countP fun row => instant < row.ts
  | some cap => ((rows.map ChannelKey.of).dedup.map fun key =>
      min cap (rows.countP fun row => instant < row.ts && ChannelKey.of row = key)).sum

theorem laterKept_perm {cap : Option Nat} {rows rows' : List ChannelSnapshot} (same : rows.Perm rows')
    (instant : DateTime) : laterKept cap rows instant = laterKept cap rows' instant := by
  cases cap with
  | none => exact same.countP_eq _
  | some cap =>
    unfold laterKept
    have counts : (fun key => min cap (rows.countP fun row => instant < row.ts && ChannelKey.of row = key)) =
        fun key => min cap (rows'.countP fun row => instant < row.ts && ChannelKey.of row = key) :=
      funext fun key => by rw [same.countP_eq]
    dsimp only
    rw [counts]
    exact ((same.map _).dedup.map _).sum_eq

namespace MemoryStorage

def keptByChannel (cap : Option Nat) (keep : ChannelSnapshot → Bool) (rows : List ChannelSnapshot) :
    List ChannelSnapshot :=
  let young := (byChannel rows).flatMap fun group => (newestFirst group).filter keep
  match cap with
  | some cap => (byChannel young).flatMap fun group => (newestFirst group).take cap
  | none => young

section KeptByChannel

variable {cap : Option Nat} {keep : ChannelSnapshot → Bool} {rows : List ChannelSnapshot}

theorem keptByChannel_shape (cap : Option Nat) (keep : ChannelSnapshot → Bool) (rows : List ChannelSnapshot) :
    ∃ (keys : List ChannelKey) (piece : ChannelKey → List ChannelSnapshot),
      keptByChannel cap keep rows = (keys.dedup.insertionSort fun a b => (a.compare b).isLE).flatMap piece ∧
      (∀ key, ∀ row ∈ piece key, ChannelKey.of row = key) ∧
      ∀ key, (piece key).Pairwise fun a b => b.ts ≤ a.ts := by
  have shaped (rows : List ChannelSnapshot) (part : List ChannelSnapshot → List ChannelSnapshot)
      (sub : ∀ group, (part group).Sublist (newestFirst group)) :
      ∃ (keys : List ChannelKey) (piece : ChannelKey → List ChannelSnapshot),
        (byChannel rows).flatMap part = (keys.dedup.insertionSort fun a b => (a.compare b).isLE).flatMap piece ∧
        (∀ key, ∀ row ∈ piece key, ChannelKey.of row = key) ∧
        ∀ key, (piece key).Pairwise fun a b => b.ts ≤ a.ts := by
    refine ⟨rows.map ChannelKey.of, fun key => part (rows.filter fun row => ChannelKey.of row = key), ?_, ?_, ?_⟩
    · unfold byChannel
      rw [List.flatMap_map]
    · intro key row member
      have grouped := (latestFirst_perm (fun row : ChannelSnapshot => row.ts) _).mem_iff.mp ((sub _).subset member)
      simpa using (List.mem_filter.mp grouped).2
    · exact fun key => (latestFirst_sorted (fun row : ChannelSnapshot => row.ts) _).sublist (sub _)
  unfold keptByChannel
  cases cap with
  | none => exact shaped rows _ fun _ => List.filter_sublist
  | some cap => exact shaped _ _ fun _ => List.take_sublist _ _

theorem capped_of_mem {row : ChannelSnapshot} (kept : row ∈ keptByChannel cap keep rows) :
    row ∈ capped laterSibling cap (rows.filter keep) := by
  have young := byChannel_young_perm rows keep
  unfold keptByChannel at kept
  cases cap with
  | none => exact young.mem_iff.mp kept
  | some cap =>
    refine (foremost_perm young).mem_iff.mp ?_
    rcases List.mem_flatMap.mp kept with ⟨group, listed, taken⟩
    rcases List.mem_map.mp listed with ⟨key, _, rfl⟩
    have sorting := latestFirst_perm (fun row : ChannelSnapshot => row.ts)
    have grouped := sorting _ |>.mem_iff.mp (List.mem_of_mem_take taken)
    have own : ChannelKey.of row = key := by simpa using (List.mem_filter.mp grouped).2
    have ranked := rank_lt_of_mem_take (latestFirst_sorted (fun row : ChannelSnapshot => row.ts) _) taken
    rw [rank_perm (sorting _), rank_group own] at ranked
    exact List.mem_filter.mpr ⟨(List.mem_filter.mp grouped).1, decide_eq_true ranked⟩

theorem exists_kept {row : ChannelSnapshot} (survives : row ∈ capped laterSibling cap (rows.filter keep)) :
    ∃ other ∈ keptByChannel cap keep rows, ChannelKey.of other = ChannelKey.of row ∧ other.ts = row.ts := by
  have young := byChannel_young_perm rows keep
  unfold keptByChannel
  cases cap with
  | none => exact ⟨row, young.mem_iff.mpr survives, rfl, rfl⟩
  | some cap =>
    rcases List.mem_filter.mp ((foremost_perm young).mem_iff.mpr survives) with ⟨member, ranked⟩
    let own := ((byChannel rows).flatMap fun group => (newestFirst group).filter keep).filter
      fun other => ChannelKey.of other = ChannelKey.of row
    have sorting := latestFirst_perm (fun row : ChannelSnapshot => row.ts) own
    have grouped : row ∈ own := List.mem_filter.mpr ⟨member, decide_eq_true rfl⟩
    have low : rank (later (·.ts)) (latestFirst (fun row : ChannelSnapshot => row.ts) own) row < cap := by
      rw [rank_perm sorting, rank_group rfl]
      exact of_decide_eq_true ranked
    rcases exists_mem_take (latestFirst_sorted _ own) (sorting.mem_iff.mpr grouped) low with ⟨other, taken, same⟩
    have listed : own ∈ byChannel ((byChannel rows).flatMap fun group => (newestFirst group).filter keep) :=
      List.mem_map.mpr ⟨ChannelKey.of row,
        (List.mem_insertionSort _).mpr (List.mem_dedup.mpr (List.mem_map_of_mem member)), rfl⟩
    have sibling := (List.mem_filter.mp (sorting.mem_iff.mp (List.mem_of_mem_take taken))).2
    exact ⟨other, List.mem_flatMap.mpr ⟨own, listed, taken⟩, by simpa using sibling, same⟩

theorem countP_keptByChannel (instant : DateTime) :
    ((keptByChannel cap keep rows).countP fun row => instant < row.ts) = laterKept cap (rows.filter keep) instant := by
  have young := byChannel_young_perm rows keep
  rw [← laterKept_perm young]
  unfold keptByChannel laterKept
  cases cap with
  | none => rfl
  | some cap =>
    dsimp only
    generalize ((byChannel rows).flatMap fun group => (newestFirst group).filter keep) = rows
    have counted (group : List ChannelSnapshot) : ((newestFirst group).take cap).countP (fun row => instant < row.ts) =
        min cap (group.countP fun row => instant < row.ts) := by
      have front : (newestFirst group).Pairwise fun a b => decide (instant < b.ts) = true →
          decide (instant < a.ts) = true :=
        (latestFirst_sorted (fun row : ChannelSnapshot => row.ts) group).imp fun {a b} under found =>
          decide_eq_true ((of_decide_eq_true found).trans_le under)
      rw [countP_take front]
      exact congrArg (min cap) ((latestFirst_perm (fun row : ChannelSnapshot => row.ts) group).countP_eq _)
    have keys :=
      List.perm_insertionSort (fun a b : ChannelKey => (a.compare b).isLE = true) (rows.map ChannelKey.of).dedup
    unfold byChannel
    rw [List.flatMap_map, List.countP_flatMap, (keys.map _).sum_eq]
    refine congrArg List.sum (List.map_congr_left fun key _ => ?_)
    rw [Function.comp_apply, counted, List.countP_filter]

theorem chronological_keptByChannel : Chronological (keptByChannel cap keep rows) ↔
    RisesByChannel (capped laterSibling cap (rows.filter keep)) := by
  rcases keptByChannel_shape cap keep rows with ⟨keys, piece, shape, own, falling⟩
  have chronological := chronological_flatMap (ChannelKey.ascending keys) own falling
  rw [← shape] at chronological
  rw [chronological]
  constructor
  · intro rises a memberA b memberB
    rcases exists_kept memberA with ⟨a', keptA, keyA, instantA⟩
    rcases exists_kept memberB with ⟨b', keptB, keyB, instantB⟩
    have relation := rises a' keptA b' keptB
    rwa [keyA, keyB, instantA, instantB] at relation
  · exact fun rises a memberA b memberB => rises a (capped_of_mem memberA) b (capped_of_mem memberB)

end KeptByChannel

end MemoryStorage

theorem chronological_take {rows : List ChannelSnapshot} {total : Nat} :
    Chronological ((newestFirst rows).take total) ↔
      ∀ a ∈ rows, ∀ b ∈ rows, a.ts < b.ts → total ≤ rows.countP fun row => a.ts < row.ts := by
  have sorting := latestFirst_perm (fun row : ChannelSnapshot => row.ts) rows
  have falling := latestFirst_sorted (fun row : ChannelSnapshot => row.ts) rows
  have ranks (a : ChannelSnapshot) : rank (later (·.ts)) (newestFirst rows) a = rank (later (·.ts)) rows a :=
    rank_perm sorting a
  refine (rises_iff_of_falling (falling.sublist (List.take_sublist _ _))).trans ⟨?_, ?_⟩
  · intro one a memberA b memberB less
    by_contra few
    have rankedA : rank (later (·.ts)) rows a < total := Nat.lt_of_not_le few
    have rankedB : rank (later (·.ts)) rows b < total :=
      (rank_mono (later_strict _) rows (decide_eq_true less)).trans_lt rankedA
    rcases exists_mem_take falling (sorting.mem_iff.mpr memberA) ((ranks a).trans_lt rankedA) with ⟨a', takenA, sameA⟩
    rcases exists_mem_take falling (sorting.mem_iff.mpr memberB) ((ranks b).trans_lt rankedB) with ⟨b', takenB, sameB⟩
    exact less.ne (sameA.symm.trans ((one a' takenA b' takenB).trans sameB))
  · intro enough
    have half (a : ChannelSnapshot) (takenA : a ∈ (newestFirst rows).take total) (b : ChannelSnapshot)
        (takenB : b ∈ (newestFirst rows).take total) : ¬a.ts < b.ts := by
      intro less
      have ranked := (ranks a).symm.trans_lt (rank_lt_of_mem_take falling takenA)
      have memberA := sorting.mem_iff.mp (List.mem_of_mem_take takenA)
      have memberB := sorting.mem_iff.mp (List.mem_of_mem_take takenB)
      exact absurd ranked (Nat.not_lt.mpr (enough a memberA b memberB less))
    exact fun a takenA b takenB => le_antisymm (not_lt.mp (half b takenB a takenA)) (not_lt.mp (half a takenA b takenB))

/-- What two caps leave of snapshots is in time order when it is written back channel by channel, the newest first. -/
def WritesInOrder (perChannel total : Option Nat) (young : List ChannelSnapshot) : Prop :=
  let kept := capped laterSibling perChannel young
  match total with
  | none => RisesByChannel kept
  | some total => ∀ a ∈ kept, ∀ b ∈ kept, a.ts < b.ts → total ≤ laterKept perChannel young a.ts

/-- A pass at a time keeps stored snapshots in time order, or fails on a cutoff outside the calendar. -/
def RetentionPolicy.KeepsOrder (policy : RetentionPolicy) (now : DateTime) (rows : List ChannelSnapshot) : Prop :=
  ∀ activeCutoff closedCutoff, policy.cutoffs now = some (activeCutoff, closedCutoff) →
    WritesInOrder policy.maxSnapshotsPerChannel policy.maxTotalSnapshots
      (rows.filter (youngEnough activeCutoff closedCutoff))

namespace MemoryStorage

theorem chronological_retained {policy : RetentionPolicy} {activeCutoff closedCutoff : DateTime}
    {rows : List ChannelSnapshot} : Chronological (retained policy activeCutoff closedCutoff rows) ↔
      WritesInOrder policy.maxSnapshotsPerChannel policy.maxTotalSnapshots
        (rows.filter (youngEnough activeCutoff closedCutoff)) := by
  let kept := keptByChannel policy.maxSnapshotsPerChannel (youngEnough activeCutoff closedCutoff) rows
  have split : retained policy activeCutoff closedCutoff rows = match policy.maxTotalSnapshots with
      | some total => (newestFirst kept).take total
      | none => kept := rfl
  rw [split]
  unfold WritesInOrder
  cases policy.maxTotalSnapshots with
  | none => exact chronological_keptByChannel
  | some total =>
    refine chronological_take.trans ⟨fun enough a memberA b memberB less => ?_,
      fun enough a memberA b memberB less => ?_⟩
    · rcases exists_kept memberA with ⟨a', keptA, -, instantA⟩
      rcases exists_kept memberB with ⟨b', keptB, -, instantB⟩
      have reached := enough a' keptA b' keptB (by rwa [instantA, instantB])
      rwa [instantA, countP_keptByChannel] at reached
    · rw [countP_keptByChannel]
      exact enough a (capped_of_mem memberA) b (capped_of_mem memberB) less

theorem retained_subset {policy : RetentionPolicy} {activeCutoff closedCutoff : DateTime}
    {rows : List ChannelSnapshot} :
    retained policy activeCutoff closedCutoff rows ⊆ rows := by
  intro row member
  have kept : row ∈ keptByChannel policy.maxSnapshotsPerChannel (youngEnough activeCutoff closedCutoff) rows := by
    unfold retained at member
    cases total : policy.maxTotalSnapshots with
    | none =>
      rw [total] at member
      exact member
    | some total' =>
      rw [total] at member
      exact (latestFirst_perm (fun row : ChannelSnapshot => row.ts) _).mem_iff.mp (List.mem_of_mem_take member)
  exact (List.mem_filter.mp ((capped_sublist _ _ _).subset (capped_of_mem kept))).1

end MemoryStorage

inductive SnapshotQuery where
  | channel (channelId : String)
  | node (nodeId channelId : String)
  | network (network : BitcoinNetwork) (nodeId : Option String) (channelId : String)
  | all

namespace SnapshotQuery

def answers : SnapshotQuery → ChannelSnapshot → Bool
  | channel channelId, row => row.channelId = channelId
  | node nodeId channelId, row => row.nodeId = some nodeId ∧ row.channelId = channelId
  | network net nodeId channelId, row =>
    row.network = some net ∧ (∀ node ∈ nodeId, row.nodeId = some node) ∧ row.channelId = channelId
  | all, _ => true

def run (limit : Nat) : SnapshotQuery → StorageM (List ChannelSnapshot)
  | channel channelId => MemoryStorage.recentChannelSnapshots channelId limit
  | node nodeId channelId => MemoryStorage.recentChannelSnapshotsForNode nodeId channelId limit
  | network net nodeId channelId => MemoryStorage.recentChannelSnapshotsForNetwork net nodeId channelId limit
  | all => MemoryStorage.recentSnapshotsAll limit

theorem run_eq (query : SnapshotQuery) (limit : Nat) (s : MemoryStorage) :
    query.run limit s = .ok ((s.channelSnapshots.reverse.filter query.answers).take limit) s := by
  cases query <;> rfl

end SnapshotQuery

/-- The newest of what matches up to a limit, newest first. -/
structure NewestOf (limit : Nat) (matching answer : List ChannelSnapshot) : Prop where
  newestFirst : answer.Pairwise fun a b => b.ts ≤ a.ts
  newest : ∃ others, (answer ++ others).Perm matching ∧ ∀ a ∈ answer, ∀ b ∈ others, b.ts ≤ a.ts
  length : answer.length = min limit matching.length

def RecentSnapshotsRight (s : MemoryStorage) : Prop :=
  ∀ (query : SnapshotQuery) (limit : Nat), ∃ answer, query.run limit s = .ok answer s ∧
    NewestOf limit (s.channelSnapshots.filter query.answers) answer

theorem recentSnapshotsRight_iff {s : MemoryStorage} : RecentSnapshotsRight s ↔ Chronological s.channelSnapshots := by
  constructor
  · intro right
    rcases right .all s.channelSnapshots.length with ⟨answer, ran, newest⟩
    rw [SnapshotQuery.run_eq] at ran
    injection ran with same
    have whole : answer = s.channelSnapshots.reverse := by
      rw [← same, show SnapshotQuery.all.answers = fun _ => true from rfl, List.filter_true,
        List.take_of_length_le (by simp)]
    have falling := newest.newestFirst
    rwa [whole, List.pairwise_reverse] at falling
  · intro chronological query limit
    refine ⟨_, query.run_eq limit s, ?_⟩
    let matching := s.channelSnapshots.reverse.filter query.answers
    have falling : matching.Pairwise fun a b => b.ts ≤ a.ts :=
      (List.pairwise_reverse.mpr chronological).sublist List.filter_sublist
    have perm : matching.Perm (s.channelSnapshots.filter query.answers) := (List.reverse_perm _).filter _
    have split := List.take_append_drop limit matching
    refine ⟨falling.sublist (List.take_sublist _ _), ⟨matching.drop limit, by rwa [split], ?_⟩, ?_⟩
    · rw [← split] at falling
      exact (List.pairwise_append.mp falling).2.2
    · rw [List.length_take, perm.length_eq]

inductive SnapshotCall where
  | save (snapshot : ChannelSnapshot)
  | prune (policy : RetentionPolicy) (now : DateTime)

namespace SnapshotCall

def run : SnapshotCall → StorageM Unit
  | save snapshot => MemoryStorage.saveChannelSnapshot snapshot
  | prune policy now => discard (MemoryStorage.pruneChannelSnapshots policy now)

def runAll (calls : List SnapshotCall) (s : MemoryStorage) : MemoryStorage :=
  calls.foldl (fun s call => final call.run s) s

def saved (calls : List SnapshotCall) : List ChannelSnapshot :=
  calls.filterMap fun call => match call with
    | save snapshot => some snapshot
    | prune _ _ => none

@[simp] theorem saved_append (past future : List SnapshotCall) : saved (past ++ future) = saved past ++ saved future :=
  List.filterMap_append

theorem runAll_append (past future : List SnapshotCall) (s : MemoryStorage) :
    runAll (past ++ future) s = runAll future (runAll past s) := List.foldl_append

theorem run_prune (policy : RetentionPolicy) (now : DateTime) (s : MemoryStorage) :
    (final (prune policy now).run s).channelSnapshots = match policy.cutoffs now with
      | some (activeCutoff, closedCutoff) => retained policy activeCutoff closedCutoff s.channelSnapshots
      | none => s.channelSnapshots := by
  have pruned := MemoryStorage.pruneChannelSnapshots_eq policy now s
  cases cutoffs : policy.cutoffs now with
  | none =>
    rw [cutoffs] at pruned
    have ran : (prune policy now).run s = .ok () s := bind_of_ok pruned _
    unfold final
    rw [ran]
  | some pair =>
    rw [cutoffs] at pruned
    have ran : (prune policy now).run s = .ok () _ := bind_of_ok pruned _
    unfold final
    rw [ran]

theorem chronological_run {call : SnapshotCall} {s : MemoryStorage} (chronological : Chronological s.channelSnapshots)
    (newest : ∀ snapshot, call = save snapshot → ∀ row ∈ s.channelSnapshots, row.ts ≤ snapshot.ts)
    (keeps : ∀ policy now, call = prune policy now → policy.KeepsOrder now s.channelSnapshots) :
    Chronological (final call.run s).channelSnapshots := by
  cases call with
  | save snapshot =>
    show Chronological (s.channelSnapshots ++ [snapshot])
    refine List.pairwise_append.mpr ⟨chronological, List.pairwise_singleton _ _, fun row member other last => ?_⟩
    rw [List.mem_singleton.mp last]
    exact newest snapshot rfl row member
  | prune policy now =>
    rw [run_prune]
    have written := keeps policy now rfl
    cases cutoffs : policy.cutoffs now with
    | none => exact chronological
    | some pair => exact MemoryStorage.chronological_retained.mpr (written pair.1 pair.2 cutoffs)

theorem run_subset {call : SnapshotCall} {s : MemoryStorage} :
    (final call.run s).channelSnapshots ⊆ s.channelSnapshots ++ saved [call] := by
  cases call with
  | save snapshot => exact List.Subset.refl _
  | prune policy now =>
    rw [run_prune]
    cases policy.cutoffs now with
    | none => simp
    | some pair =>
      intro row member
      exact List.mem_append_left _ (MemoryStorage.retained_subset member)

theorem runAll_chronological (past : List SnapshotCall) (ordered : (saved past).Pairwise fun a b => a.ts ≤ b.ts)
    (keeps : ∀ earlier policy now later, past = earlier ++ prune policy now :: later →
      policy.KeepsOrder now (runAll earlier MemoryStorage.new).channelSnapshots) :
    Chronological (runAll past MemoryStorage.new).channelSnapshots ∧
      (runAll past MemoryStorage.new).channelSnapshots ⊆ saved past := by
  induction past using List.reverseRecOn with
  | nil => exact ⟨List.Pairwise.nil, List.Subset.refl _⟩
  | append_singleton past call ih =>
    rw [saved_append] at ordered
    rcases List.pairwise_append.mp ordered with ⟨before, -, after⟩
    have earlier (first : List SnapshotCall) (policy : RetentionPolicy) (now : DateTime) (later : List SnapshotCall)
        (split : past = first ++ prune policy now :: later) :
        policy.KeepsOrder now (runAll first MemoryStorage.new).channelSnapshots :=
      keeps first policy now (later ++ [call]) (by rw [split, List.append_assoc, List.cons_append])
    rcases ih before earlier with ⟨chronological, known⟩
    rw [runAll_append, saved_append]
    refine ⟨chronological_run chronological ?_ ?_, fun row member => ?_⟩
    · rintro snapshot rfl row member
      exact after row (known member) snapshot (by simp [saved])
    · rintro policy now rfl
      exact keeps past policy now [] rfl
    · rcases List.mem_append.mp (run_subset member) with old | new
      · exact List.mem_append_left _ (known old)
      · exact List.mem_append_right _ new

end SnapshotCall

open SnapshotCall

/-- In a run whose snapshots are saved in time order every query of recent snapshots is right after every step,
    exactly if each pass keeps the order of what it finds. -/
theorem recent_snapshots_iff {calls : List SnapshotCall} (ordered : (saved calls).Pairwise fun a b => a.ts ≤ b.ts) :
    (∀ past future, calls = past ++ future → RecentSnapshotsRight (runAll past MemoryStorage.new)) ↔
      ∀ past policy now future, calls = past ++ prune policy now :: future →
        policy.KeepsOrder now (runAll past MemoryStorage.new).channelSnapshots := by
  constructor
  · intro right past policy now future split activeCutoff closedCutoff cutoffs
    have after := recentSnapshotsRight_iff.mp (right (past ++ [prune policy now]) future (by simp [split]))
    have written := run_prune policy now (runAll past MemoryStorage.new)
    rw [cutoffs] at written
    dsimp only at written
    refine MemoryStorage.chronological_retained.mp ?_
    rw [← written]
    rwa [runAll_append] at after
  · intro keeps past future split
    rw [split, saved_append] at ordered
    refine recentSnapshotsRight_iff.mpr (runAll_chronological past (List.pairwise_append.mp ordered).1 ?_).1
    intro earlier policy now later part
    exact keeps earlier policy now (later ++ future) (by rw [split, part, List.append_assoc, List.cons_append])

/-- A pass that keeps the newest snapshot of each of two channels, between further ones. -/
theorem recent_snapshots_of_newest :
    let channel (id : String) (ts : DateTime) : ChannelSnapshot := { prunedChannel with channelId := id, ts }
    let calls := [save (channel "a" 1), save (channel "b" 2), save (channel "a" 3), save (channel "b" 4),
      prune { maxSnapshotsPerChannel := some 1 } 5, save (channel "a" 6)]
    RecentSnapshotsRight (runAll calls MemoryStorage.new) ∧
      (runAll calls MemoryStorage.new).channelSnapshots.map (·.ts) = [3, 4, 6] := by
  intro channel calls
  have ordered : (saved calls).Pairwise fun a b => a.ts ≤ b.ts := by decide
  refine ⟨(recent_snapshots_iff ordered).mpr (fun past policy now future split => ?_) _ [] rfl, by decide +kernel⟩
  obtain ⟨rfl, ⟨rfl, rfl⟩, rfl⟩ : past = calls.take 4 ∧ (policy = { maxSnapshotsPerChannel := some 1 } ∧ now = 5) ∧
      future = calls.drop 5 := by
    simpa [calls, List.cons_eq_append_iff] using split
  intro activeCutoff closedCutoff cutoffs
  cases cutoffs
  unfold WritesInOrder RisesByChannel
  decide

/-- A pass that deletes nothing turns the history of a channel around: the newest snapshot is then the oldest. -/
theorem pruned_history_reversed :
    let newer : ChannelSnapshot := { prunedChannel with ts := 1 }
    let calls := [save prunedChannel, save newer, prune {} 1]
    (saved calls).Pairwise (fun a b => a.ts ≤ b.ts) ∧ ¬RecentSnapshotsRight (runAll calls MemoryStorage.new) ∧
      value (MemoryStorage.recentChannelSnapshots "channel" 1) (runAll calls MemoryStorage.new) = .ok [prunedChannel] := by
  intro newer calls
  have left : (runAll calls MemoryStorage.new).channelSnapshots = [newer, prunedChannel] := by decide
  refine ⟨by decide, ?_, ?_⟩
  · rw [recentSnapshotsRight_iff, left]
    unfold Chronological
    decide
  · unfold value MemoryStorage.recentChannelSnapshots MemoryStorage.recentSnapshotsWhere
    rw [left]
    rfl

end Rieko
