import Rieko.Detectors.Registry
import Mathlib.Data.List.AList

namespace Rieko

/-- A bounded buffer of snapshots for each channel, oldest first. -/
structure InMemoryHistory where
  snapshots : AList fun _ : ChannelId => List ChannelSnapshot := ∅
  maxPerChannel : Nat

namespace InMemoryHistory

def bucket (history : InMemoryHistory) (id : ChannelId) : List ChannelSnapshot :=
  (history.snapshots.lookup id).getD []

def push (history : InMemoryHistory) (snapshot : ChannelSnapshot) : InMemoryHistory :=
  let grown := history.bucket snapshot.channelId ++ [snapshot]
  { history with
    snapshots := history.snapshots.insert snapshot.channelId (grown.drop (grown.length - history.maxPerChannel)) }

/-- Appends the newest of the given snapshots to the bucket of the first one's channel. -/
def warmFromSnapshots (history : InMemoryHistory) (snapshots : List ChannelSnapshot) : InMemoryHistory :=
  match snapshots with
  | [] => history
  | first :: _ =>
    let newestFirst := (snapshots.insertionSort fun a b => b.ts ≤ a.ts).take history.maxPerChannel
    { history with
      snapshots := history.snapshots.insert first.channelId (history.bucket first.channelId ++ newestFirst.reverse) }

def recentChannelSnapshots (history : InMemoryHistory) (id : ChannelId) (limit : Nat) : List ChannelSnapshot :=
  (history.bucket id).reverse.take limit

def view (history : InMemoryHistory) : HistoryView := history.recentChannelSnapshots

theorem recentChannelSnapshots_length (history : InMemoryHistory) (id : ChannelId) (limit : Nat) :
    (history.recentChannelSnapshots id limit).length ≤ limit := by
  unfold recentChannelSnapshots
  rw [List.length_take]
  exact Nat.min_le_left _ _

theorem mem_bucket_push {history : InMemoryHistory} {pushed snapshot : ChannelSnapshot} {id : ChannelId}
    (member : snapshot ∈ (history.push pushed).bucket id) : snapshot = pushed ∨ snapshot ∈ history.bucket id := by
  unfold push bucket at member
  by_cases same : id = pushed.channelId
  · subst same
    rw [AList.lookup_insert, Option.getD_some] at member
    rcases List.mem_append.mp (List.mem_of_mem_drop member) with earlier | last
    · exact .inr earlier
    · exact .inl (List.mem_singleton.mp last)
  · rw [AList.lookup_insert_ne same] at member
    exact .inr member

theorem mem_bucket_pushes {history : InMemoryHistory} {pushed : List ChannelSnapshot} {snapshot : ChannelSnapshot}
    {id : ChannelId} (member : snapshot ∈ (pushed.foldl push history).bucket id) :
    snapshot ∈ pushed ∨ snapshot ∈ history.bucket id := by
  induction pushed generalizing history with
  | nil => exact .inr member
  | cons first rest ih =>
    rcases ih member with later | earlier
    · exact .inl (List.mem_cons_of_mem _ later)
    · rcases mem_bucket_push earlier with rfl | stored
      · exact .inl List.mem_cons_self
      · exact .inr stored

end InMemoryHistory

end Rieko
