import Rieko.Detectors.Drift
import Rieko.Graph.History
import Rieko.Lib.Transition
import Rieko.Storage.RecentSnapshots

namespace Rieko

open Ranking

namespace NewestOf

variable {limit : Nat} {matching answer : List ChannelSnapshot}

theorem length_le (newest : NewestOf limit matching answer) : answer.length ≤ limit :=
  newest.length.trans_le (Nat.min_le_left _ _)

theorem of_take (rows : List ChannelSnapshot) (limit : Nat) :
    NewestOf limit rows ((latestFirst (·.ts) rows).take limit) := by
  have falling := latestFirst_sorted (fun row : ChannelSnapshot => row.ts) rows
  have perm := latestFirst_perm (fun row : ChannelSnapshot => row.ts) rows
  have split := List.take_append_drop limit (latestFirst (fun row : ChannelSnapshot => row.ts) rows)
  refine ⟨falling.sublist (List.take_sublist _ _), ⟨_, split ▸ perm, ?_⟩, ?_⟩
  · rw [← split] at falling
    exact (List.pairwise_append.mp falling).2.2
  · rw [List.length_take, perm.length_eq]

theorem take (newest : NewestOf limit matching answer) (fewer : Nat) :
    NewestOf (min fewer limit) matching (answer.take fewer) := by
  rcases newest with ⟨falling, ⟨others, perm, older⟩, length⟩
  have split := List.take_append_drop fewer answer
  refine ⟨falling.sublist (List.take_sublist _ _), ⟨answer.drop fewer ++ others, ?_, fun a taken b other => ?_⟩, ?_⟩
  · rwa [← List.append_assoc, split]
  · rcases List.mem_append.mp other with dropped | other
    · rw [← split] at falling
      exact (List.pairwise_append.mp falling).2.2 a taken b dropped
    · exact older a (List.mem_of_mem_take taken) b other
  · rw [List.length_take, length]
    omega

theorem getLast_le {rows : List ChannelSnapshot} (falling : rows.Pairwise fun a b => b.ts ≤ a.ts)
    {oldest : ChannelSnapshot}
    (last : rows.getLast? = some oldest) : oldest ∈ rows ∧ ∀ row ∈ rows, oldest.ts ≤ row.ts := by
  rcases List.getLast?_eq_some_iff.mp last with ⟨newer, rfl⟩
  refine ⟨by simp, fun row member => ?_⟩
  rcases List.mem_append.mp member with earlier | itself
  · exact (List.pairwise_append.mp falling).2.2 row earlier oldest List.mem_cons_self
  · rw [List.mem_singleton.mp itself]

theorem cons_iff (newest : NewestOf limit matching answer) (snapshot : ChannelSnapshot) :
    NewestOf limit (matching ++ [snapshot]) ((snapshot :: answer).take limit) ↔
      ∀ stored ∈ answer, stored.ts ≤ snapshot.ts := by
  rcases newest with ⟨falling, ⟨others, perm, older⟩, length⟩
  cases limit with
  | zero =>
    have none : answer = [] := List.eq_nil_of_length_eq_zero (by omega)
    subst none
    refine iff_of_true ⟨List.Pairwise.nil, ⟨_, List.Perm.refl _, fun _ member => ?_⟩, by simp⟩ fun _ member => ?_
    · cases member
    · cases member
  | succ limit =>
    have split := List.take_append_drop limit answer
    have whole : (snapshot :: answer.take limit ++ (answer.drop limit ++ others)).Perm (matching ++ [snapshot]) := by
      rw [List.cons_append, ← List.append_assoc, split]
      exact (perm.cons snapshot).trans (List.perm_append_singleton snapshot matching).symm
    rw [List.take_succ_cons]
    constructor
    · rintro ⟨falling', ⟨others', perm', older'⟩, -⟩ stored member
      have left : others'.Perm (answer.drop limit ++ others) :=
        (List.perm_append_left_iff _).mp (perm'.trans whole.symm)
      rw [← split] at member
      rcases List.mem_append.mp member with taken | dropped
      · exact (List.pairwise_cons.mp falling').1 stored taken
      · exact older' snapshot List.mem_cons_self stored (left.mem_iff.mpr (List.mem_append_left _ dropped))
    · intro atLeast
      have aboveOthers (b : ChannelSnapshot) (other : b ∈ others) : b.ts ≤ snapshot.ts := by
        cases answer with
        | nil =>
          have counts := perm.length_eq
          have filled := List.length_pos_of_mem other
          simp only [List.nil_append, List.length_nil] at counts length
          omega
        | cons first rest =>
          exact (older first List.mem_cons_self b other).trans (atLeast first List.mem_cons_self)
      refine ⟨List.pairwise_cons.mpr ⟨fun b taken => atLeast b (List.mem_of_mem_take taken),
        falling.sublist (List.take_sublist _ _)⟩, ⟨_, whole, fun a inside b outside => ?_⟩, ?_⟩
      · rcases List.mem_append.mp outside with dropped | other
        · rcases List.mem_cons.mp inside with rfl | taken
          · exact atLeast b (List.mem_of_mem_drop dropped)
          · rw [← split] at falling
            exact (List.pairwise_append.mp falling).2.2 a taken b dropped
        · rcases List.mem_cons.mp inside with rfl | taken
          · exact aboveOthers b other
          · exact older a (List.mem_of_mem_take taken) b other
      · rw [List.length_cons, List.length_take, length, List.length_append, List.length_singleton]
        omega

theorem whole_of_length (newest : NewestOf limit matching answer) (fits : matching.length ≤ limit) :
    answer.Perm matching := by
  rcases newest with ⟨-, ⟨others, perm, -⟩, length⟩
  have counts := perm.length_eq
  rw [List.length_append] at counts
  have nothing : others = [] := List.eq_nil_of_length_eq_zero (by omega)
  rwa [nothing, List.append_nil] at perm

theorem append_iff (newest : NewestOf limit matching answer) {batch front : List ChannelSnapshot}
    (given : NewestOf limit batch front) : NewestOf limit (matching ++ batch) (front ++ answer) ↔
      answer = [] ∨
        (answer.length + batch.length ≤ limit ∧ ∀ stored ∈ answer, ∀ other ∈ batch, stored.ts ≤ other.ts) := by
  have fits := newest.length
  have fits' := given.length
  have grown : (matching ++ batch).length = matching.length + batch.length := List.length_append
  constructor
  · intro right
    by_cases none : answer = []
    · exact .inl none
    · have stored := List.length_pos_iff.mpr none
      have room := right.length
      rw [List.length_append, grown] at room
      refine .inr ⟨by omega, fun a member b other => ?_⟩
      have perm : front.Perm batch := whole_of_length given (by omega)
      exact (List.pairwise_append.mp right.newestFirst).2.2 b (perm.mem_iff.mpr other) a member
  · rintro (rfl | ⟨room, newer⟩)
    · rw [List.append_nil]
      by_cases zero : limit = 0
      · have nothing : front = [] := List.eq_nil_of_length_eq_zero (by omega)
        rw [nothing, zero]
        exact ⟨List.Pairwise.nil, ⟨_, List.Perm.refl _, fun _ member => absurd member List.not_mem_nil⟩, by simp⟩
      · have nothing : matching = [] := List.eq_nil_of_length_eq_zero (by rw [List.length_nil] at fits; omega)
        rwa [nothing]
    · by_cases empty : batch = []
      · have nothing : front = [] := List.eq_nil_of_length_eq_zero (by rw [fits', empty]; simp)
        rwa [empty, nothing, List.append_nil]
      · have filled := List.length_pos_iff.mpr empty
        have all : answer.Perm matching := whole_of_length newest (by omega)
        have all' : front.Perm batch := whole_of_length given (by omega)
        refine ⟨List.pairwise_append.mpr ⟨given.newestFirst, newest.newestFirst, fun a taken b member =>
          newer b member a (all'.mem_iff.mp taken)⟩, ⟨[], ?_, fun _ _ _ absent => absurd absent List.not_mem_nil⟩, ?_⟩
        · rw [List.append_nil]
          exact (all'.append all).trans List.perm_append_comm
        · rw [List.length_append, grown]
          omega

end NewestOf

namespace InMemoryHistory

variable {history : InMemoryHistory} {given : List ChannelSnapshot} {id : ChannelId}

theorem bucket_push (history : InMemoryHistory) (snapshot : ChannelSnapshot) (id : ChannelId) :
    ((history.push snapshot).bucket id).reverse = if id = snapshot.channelId
      then (snapshot :: (history.bucket id).reverse).take history.maxPerChannel else (history.bucket id).reverse := by
  unfold push
  dsimp only
  by_cases same : id = snapshot.channelId
  · subst same
    rw [if_pos rfl, bucket, AList.lookup_insert, Option.getD_some, List.reverse_drop, List.reverse_append,
      List.reverse_singleton, List.singleton_append]
    have size : (history.bucket snapshot.channelId ++ [snapshot]).length =
        (snapshot :: (history.bucket snapshot.channelId).reverse).length := by simp
    rw [size]
    by_cases full : history.maxPerChannel ≤ (snapshot :: (history.bucket snapshot.channelId).reverse).length
    · rw [Nat.sub_sub_self full]
    · rw [Nat.sub_eq_zero_of_le (Nat.le_of_not_le full), Nat.sub_zero, List.take_length,
        List.take_of_length_le (Nat.le_of_not_le full)]
  · rw [if_neg same, bucket, AList.lookup_insert_ne same]
    rfl

theorem bucket_warm (history : InMemoryHistory) (first : ChannelSnapshot) (rest : List ChannelSnapshot)
    (id : ChannelId) :
    ((history.warmFromSnapshots (first :: rest)).bucket id).reverse = if id = first.channelId
      then (latestFirst (·.ts) (first :: rest)).take history.maxPerChannel ++ (history.bucket id).reverse
      else (history.bucket id).reverse := by
  unfold warmFromSnapshots
  dsimp only
  by_cases same : id = first.channelId
  · subst same
    rw [if_pos rfl, bucket, AList.lookup_insert, Option.getD_some, List.reverse_append, List.reverse_reverse]
    rfl
  · rw [if_neg same, bucket, AList.lookup_insert_ne same]
    rfl

/-- The buffer of a channel is bounded and holds the newest of what the channel was given, newest first to its
    readers: the drift of the channel starts at the oldest snapshot of the newest window. -/
structure WindowRight (history : InMemoryHistory) (given : List ChannelSnapshot) (id : ChannelId) : Prop where
  bounded : (history.bucket id).length ≤ history.maxPerChannel
  newest : ∀ limit, NewestOf (min limit history.maxPerChannel) given (history.recentChannelSnapshots id limit)
  start : ∀ (detector : DriftDetector) (ext : External) (ctx : DetectorContext) (channel : Channel)
    (build : DateTime → Finding), channel.id = id → detector.judge ext history.view ctx channel = some build →
    let window := history.recentChannelSnapshots id detector.thresholds.window
    ∃ oldest ∈ window, (∀ snapshot ∈ window, oldest.ts ≤ snapshot.ts) ∧
      build = detector.finding ext ctx channel window oldest.localRatio
        (oldest.localRatio.sub channel.liquidity.localRatio)

theorem judge_start {detector : DriftDetector} {ext : External} {view : HistoryView} {ctx : DetectorContext}
    {channel : Channel} {build : DateTime → Finding} (judged : detector.judge ext view ctx channel = some build) :
    ∃ oldest, (view channel.id detector.thresholds.window).getLast? = some oldest ∧
      build = detector.finding ext ctx channel (view channel.id detector.thresholds.window) oldest.localRatio
        (oldest.localRatio.sub channel.liquidity.localRatio) := by
  unfold DriftDetector.judge at judged
  dsimp only at judged
  split at judged
  · cases judged
  split at judged
  · cases judged
  split at judged
  · cases judged
  rcases Option.bind_eq_some_iff.mp judged with ⟨oldest, last, raised⟩
  split at raised
  · cases raised
  · exact ⟨oldest, last, (Option.some.inj raised).symm⟩

theorem windowRight_iff :
    WindowRight history given id ↔ NewestOf history.maxPerChannel given (history.bucket id).reverse := by
  constructor
  · intro right
    have newest := right.newest history.maxPerChannel
    unfold recentChannelSnapshots at newest
    rwa [Nat.min_self, List.take_of_length_le (by simpa using right.bounded)] at newest
  · intro newest
    have recent (limit : Nat) : NewestOf (min limit history.maxPerChannel) given
        (history.recentChannelSnapshots id limit) := newest.take limit
    refine ⟨by simpa using newest.length_le, recent, ?_⟩
    rintro detector ext ctx channel build rfl judged window
    rcases judge_start judged with ⟨oldest, last, built⟩
    rcases NewestOf.getLast_le (recent detector.thresholds.window).newestFirst last with ⟨member, least⟩
    exact ⟨oldest, member, least, built⟩

end InMemoryHistory

inductive HistoryCall where
  | push (snapshot : ChannelSnapshot)
  | warm (snapshots : List ChannelSnapshot)

namespace HistoryCall

def run (history : InMemoryHistory) : HistoryCall → InMemoryHistory
  | push snapshot => history.push snapshot
  | warm snapshots => history.warmFromSnapshots snapshots

def runAll (calls : List HistoryCall) (history : InMemoryHistory) : InMemoryHistory := calls.foldl run history

def given : HistoryCall → List ChannelSnapshot
  | push snapshot => [snapshot]
  | warm snapshots => snapshots

def supplied (id : ChannelId) (calls : List HistoryCall) : List ChannelSnapshot :=
  (calls.flatMap given).filter (·.channelId = id)

/-- A call is about one channel, as the monitor warms one channel after the other. -/
def OneChannel (call : HistoryCall) : Prop := ∀ a ∈ call.given, ∀ b ∈ call.given, a.channelId = b.channelId

/-- A push is not older than what the buffer of its channel holds. A warming finds that buffer empty, or fits beside
    what it holds and is not older. -/
def InOrder (history : InMemoryHistory) : HistoryCall → Prop
  | push snapshot => ∀ stored ∈ history.bucket snapshot.channelId, stored.ts ≤ snapshot.ts
  | warm [] => True
  | warm (first :: rest) => history.bucket first.channelId = [] ∨
    ((history.bucket first.channelId).length + (first :: rest).length ≤ history.maxPerChannel ∧
      ∀ stored ∈ history.bucket first.channelId, ∀ snapshot ∈ first :: rest, stored.ts ≤ snapshot.ts)

variable {call : HistoryCall} {history : InMemoryHistory} {before : ChannelId → List ChannelSnapshot}

@[simp] theorem run_maxPerChannel (history : InMemoryHistory) (call : HistoryCall) :
    (run history call).maxPerChannel = history.maxPerChannel := by
  cases call with
  | push snapshot => rfl
  | warm snapshots => cases snapshots <;> rfl

theorem iff_of_others {P : ChannelId → Prop} {channel : ChannelId} (others : ∀ id, id ≠ channel → P id) :
    (∀ id, P id) ↔ P channel :=
  ⟨fun all => all channel, fun own id => if same : id = channel then same ▸ own else others id same⟩

theorem right_step (one : call.OneChannel)
    (right : ∀ id, NewestOf history.maxPerChannel (before id) (history.bucket id).reverse) :
    (∀ id, NewestOf history.maxPerChannel (before id ++ call.given.filter (·.channelId = id))
      ((run history call).bucket id).reverse) ↔ call.InOrder history := by
  cases call with
  | push snapshot =>
    have others (id : ChannelId) (other : id ≠ snapshot.channelId) : NewestOf history.maxPerChannel
        (before id ++ [snapshot].filter (·.channelId = id)) ((history.push snapshot).bucket id).reverse := by
      have none : [snapshot].filter (·.channelId = id) = [] := by simp [Ne.symm other]
      rw [none, List.append_nil, InMemoryHistory.bucket_push, if_neg other]
      exact right id
    have itself : [snapshot].filter (·.channelId = snapshot.channelId) = [snapshot] := by simp
    have own := (right snapshot.channelId).cons_iff snapshot
    have at_ := InMemoryHistory.bucket_push history snapshot snapshot.channelId
    rw [if_pos rfl] at at_
    simp only [List.mem_reverse] at own
    rw [← at_, ← itself] at own
    exact (iff_of_others others).trans own
  | warm snapshots =>
    cases snapshots with
    | nil =>
      exact iff_of_true (fun id => by simpa [given, run, InMemoryHistory.warmFromSnapshots] using right id) trivial
    | cons first rest =>
      have channel (snapshot : ChannelSnapshot) (member : snapshot ∈ first :: rest) :
          snapshot.channelId = first.channelId := one snapshot member first List.mem_cons_self
      have others (id : ChannelId) (other : id ≠ first.channelId) : NewestOf history.maxPerChannel
          (before id ++ (first :: rest).filter (·.channelId = id))
          ((history.warmFromSnapshots (first :: rest)).bucket id).reverse := by
        have none : (first :: rest).filter (·.channelId = id) = [] :=
          List.filter_eq_nil_iff.mpr fun snapshot member => by simp [channel snapshot member, Ne.symm other]
        rw [none, List.append_nil, InMemoryHistory.bucket_warm, if_neg other]
        exact right id
      have itself : (first :: rest).filter (·.channelId = first.channelId) = first :: rest :=
        List.filter_eq_self.mpr fun snapshot member => by simp [channel snapshot member]
      have own := (right first.channelId).append_iff (.of_take (first :: rest) history.maxPerChannel)
      have at_ := InMemoryHistory.bucket_warm history first rest first.channelId
      rw [if_pos rfl] at at_
      rw [← at_, List.length_reverse, List.reverse_eq_nil_iff] at own
      simp only [List.mem_reverse] at own
      refine (iff_of_others others).trans ?_
      rw [itself]
      exact own

theorem runAll_append (past future : List HistoryCall) (history : InMemoryHistory) :
    runAll (past ++ future) history = runAll future (runAll past history) := List.foldl_append

theorem supplied_append (id : ChannelId) (past future : List HistoryCall) :
    supplied id (past ++ future) = supplied id past ++ supplied id future := by
  unfold supplied
  rw [List.flatMap_append, List.filter_append]

@[simp] theorem runAll_maxPerChannel (calls : List HistoryCall) (history : InMemoryHistory) :
    (runAll calls history).maxPerChannel = history.maxPerChannel := by
  induction calls generalizing history with
  | nil => rfl
  | cons call calls ih => exact (ih _).trans (run_maxPerChannel history call)

end HistoryCall

open HistoryCall InMemoryHistory

/-- In a run of calls that are each about one channel, every channel's window is right after every call, exactly if
    each call is in order. -/
theorem history_windows_iff {calls : List HistoryCall} (one : ∀ call ∈ calls, call.OneChannel) (maxPerChannel : Nat) :
    (∀ past future, calls = past ++ future → ∀ id,
      WindowRight (runAll past { maxPerChannel }) (supplied id past) id) ↔
    ∀ past call future, calls = past ++ call :: future → call.InOrder (runAll past { maxPerChannel }) := by
  simp only [windowRight_iff, runAll_maxPerChannel]
  refine Transition.fronts_iff (fun id => ?_) fun past call future split right => ?_
  · have empty : (runAll [] { maxPerChannel }).bucket id = [] := rfl
    rw [empty]
    exact ⟨List.Pairwise.nil, ⟨[], List.Perm.refl _, fun _ absent => absurd absent List.not_mem_nil⟩,
      by simp [supplied]⟩
  · have kept := runAll_maxPerChannel past { maxPerChannel }
    have right' (id : ChannelId) : NewestOf (runAll past { maxPerChannel }).maxPerChannel (supplied id past)
        ((runAll past { maxPerChannel }).bucket id).reverse := by
      rw [kept]
      exact right id
    have step := right_step (one call (by simp [split])) right'
    rw [kept] at step
    simp only [supplied_append, runAll_append]
    rw [← step]
    simp [supplied, runAll]

/-- A channel that is warmed before anything is pushed. -/
theorem history_windows_warmed_first :
    let calls := [warm [prunedChannel], push { prunedChannel with ts := 1 }]
    WindowRight (runAll calls { maxPerChannel := 200 }) (supplied "channel" calls) "channel" := by
  intro calls
  have one : ∀ call ∈ calls, call.OneChannel := by
    intro call member
    rcases List.mem_cons.mp member with rfl | member
    · intro a memberA b memberB
      rw [List.mem_singleton.mp memberA, List.mem_singleton.mp memberB]
    · rw [List.mem_singleton.mp member]
      intro a memberA b memberB
      rw [List.mem_singleton.mp memberA, List.mem_singleton.mp memberB]
  refine (history_windows_iff one 200).mpr (fun past call future split => ?_) calls [] rfl "channel"
  rcases past with - | ⟨first, - | ⟨second, past⟩⟩
  · obtain rfl : warm [prunedChannel] = call := (List.cons.inj split).1
    exact .inl rfl
  · simp only [calls, List.cons_append, List.nil_append, List.cons.injEq] at split
    rcases split with ⟨rfl, rfl, -⟩
    have held : (runAll [warm [prunedChannel]] { maxPerChannel := 200 }).bucket "channel" = [prunedChannel] := by
      decide
    intro stored member
    have only : stored ∈ [prunedChannel] := held ▸ member
    rw [List.mem_singleton.mp only]
    decide
  · simp [calls] at split

/-- The order of the monitor: what is persisted comes behind what the cycle has pushed, and passes for newer. -/
theorem warmed_history_out_of_order :
    let newest : ChannelSnapshot := { prunedChannel with ts := 3 }
    let persisted : List ChannelSnapshot := [{ prunedChannel with ts := 2 }, { prunedChannel with ts := 1 }]
    let history := runAll [push newest, warm persisted] { maxPerChannel := 200 }
    (∀ snapshot ∈ persisted, snapshot.ts ≤ newest.ts) ∧
      ¬WindowRight history (supplied "channel" [push newest, warm persisted]) "channel" ∧
      history.recentChannelSnapshots "channel" 1 = persisted.take 1 ∧
      (history.recentChannelSnapshots "channel" 12).getLast? = some newest := by
  intro newest persisted history
  have recent : history.recentChannelSnapshots "channel" 12 = persisted ++ [newest] := by decide
  refine ⟨by decide, fun right => ?_, by decide, by rw [recent]; rfl⟩
  have falling := (right.newest 12).newestFirst
  rw [recent] at falling
  exact absurd falling (by decide)

end Rieko
