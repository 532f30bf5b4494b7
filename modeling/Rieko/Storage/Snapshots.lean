import Rieko.Storage.MemoryRecords
import Rieko.Storage.Sqlite

namespace Rieko

class SnapshotQueries (σ : Type) where
  recentChannelSnapshotsForNetwork (network : BitcoinNetwork) (nodeId : Option String) (channelId : String)
    (limit : Nat) : EStateM StorageError σ (List ChannelSnapshot)
  channelSnapshotAt (network : BitcoinNetwork) (nodeId channelId : String) (observedAt : DateTime) :
    EStateM StorageError σ (Option ChannelSnapshot)

instance : SnapshotQueries MemoryStorage where
  recentChannelSnapshotsForNetwork := MemoryStorage.recentChannelSnapshotsForNetwork
  channelSnapshotAt := MemoryStorage.channelSnapshotAt

namespace Tables

def recentSnapshotsForNetwork (network : BitcoinNetwork) (nodeId : Option String) (channelId : String) (limit : Nat)
    (tables : Tables) : List ChannelSnapshot :=
  (newestFirst (tables.channelSnapshots.filter fun row =>
    row.network = some network ∧ (∀ node ∈ nodeId, row.nodeId = some node) ∧ row.channelId = channelId)).take limit

def snapshotAt (network : BitcoinNetwork) (nodeId channelId : String) (observedAt : DateTime) (tables : Tables) :
    Option ChannelSnapshot :=
  tables.channelSnapshots.find? fun row =>
    row.network = some network ∧ row.nodeId = some nodeId ∧ row.channelId = channelId ∧ row.ts = observedAt

variable {network : BitcoinNetwork} {nodeId channelId : String} {observedAt : DateTime}

theorem snapshotAt_replace (snapshot : ChannelSnapshot) (tables : Tables) :
    (tables.replaceChannelSnapshot snapshot).snapshotAt network nodeId channelId observedAt =
      if snapshot.network = some network ∧ snapshot.nodeId = some nodeId ∧ snapshot.channelId = channelId ∧
        snapshot.ts = observedAt then some snapshot
      else tables.snapshotAt network nodeId channelId observedAt := by
  unfold snapshotAt replaceChannelSnapshot
  rw [List.find?_append, List.find?_filter]
  split
  next wanted =>
    obtain ⟨net, node, id, time⟩ := wanted
    rw [List.find?_eq_none.mpr, Option.none_or, List.find?_singleton, if_pos (by simp [net, node, id, time])]
    intro row _
    simp only [sameSnapshotKey, net, node, id, time, decide_eq_true_eq]
    rintro ⟨other, same⟩
    simp [same] at other
  next unwanted =>
    rw [List.find?_singleton, if_neg (by simpa using unwanted), Option.or_none]
    congr 1
    funext row
    by_cases key : row.network = some network ∧ row.nodeId = some nodeId ∧ row.channelId = channelId ∧
      row.ts = observedAt
    · have kept : sameSnapshotKey row snapshot = false := by
        unfold sameSnapshotKey
        obtain ⟨net, node, id, time⟩ := key
        rw [decide_eq_false_iff_not]
        rintro ⟨-, -, same⟩
        exact unwanted (by simp_all)
      simp [kept]
    · simp [key]

theorem snapshotAt_congr {tables tables' : Tables} (same : tables'.channelSnapshots = tables.channelSnapshots) :
    tables'.snapshotAt network nodeId channelId observedAt = tables.snapshotAt network nodeId channelId observedAt := by
  unfold snapshotAt
  rw [same]

def replaceChannelSnapshots (snapshots : List ChannelSnapshot) (tables : Tables) : Tables :=
  snapshots.foldl (fun tables snapshot => tables.replaceChannelSnapshot snapshot) tables

theorem replaceChannelSnapshots_cons (first : ChannelSnapshot) (rest : List ChannelSnapshot) (tables : Tables) :
    tables.replaceChannelSnapshots (first :: rest) =
      (tables.replaceChannelSnapshot first).replaceChannelSnapshots rest := rfl

theorem channelSnapshots_replaces_congr {tables tables' : Tables} (snapshots : List ChannelSnapshot)
    (same : tables'.channelSnapshots = tables.channelSnapshots) :
    (tables'.replaceChannelSnapshots snapshots).channelSnapshots =
      (tables.replaceChannelSnapshots snapshots).channelSnapshots := by
  induction snapshots generalizing tables tables' with
  | nil => exact same
  | cons first rest ih =>
    have replaced : (tables'.replaceChannelSnapshot first).channelSnapshots =
        (tables.replaceChannelSnapshot first).channelSnapshots := by
      unfold replaceChannelSnapshot
      rw [same]
    exact ih replaced

theorem snapshotAt_replaces_of_absent {snapshots : List ChannelSnapshot}
    (absent : ∀ snapshot ∈ snapshots, snapshot.channelId ≠ channelId) (tables : Tables) :
    (tables.replaceChannelSnapshots snapshots).snapshotAt network nodeId channelId observedAt =
      tables.snapshotAt network nodeId channelId observedAt := by
  induction snapshots generalizing tables with
  | nil => rfl
  | cons first rest ih =>
    have other := absent first List.mem_cons_self
    rw [replaceChannelSnapshots_cons, ih fun snapshot member => absent snapshot (List.mem_cons_of_mem _ member),
      snapshotAt_replace, if_neg fun key => other key.2.2.1]

theorem snapshotAt_replaces {snapshots : List ChannelSnapshot} (distinct : (snapshots.map (·.channelId)).Nodup)
    {snapshot : ChannelSnapshot} (member : snapshot ∈ snapshots) (tables : Tables) :
    (tables.replaceChannelSnapshots snapshots).snapshotAt network nodeId snapshot.channelId observedAt =
      if snapshot.network = some network ∧ snapshot.nodeId = some nodeId ∧ snapshot.ts = observedAt then some snapshot
      else tables.snapshotAt network nodeId snapshot.channelId observedAt := by
  induction snapshots generalizing tables with
  | nil => cases member
  | cons first rest ih =>
    rw [List.map_cons, List.nodup_cons] at distinct
    rcases List.mem_cons.mp member with rfl | later
    · have absent : ∀ other ∈ rest, other.channelId ≠ snapshot.channelId := fun other member same =>
        distinct.1 (same ▸ List.mem_map_of_mem member)
      rw [replaceChannelSnapshots_cons, snapshotAt_replaces_of_absent absent, snapshotAt_replace]
      simp
    · have other : first.channelId ≠ snapshot.channelId := fun same =>
        distinct.1 (same ▸ List.mem_map_of_mem later)
      have skipped : (tables.replaceChannelSnapshot first).snapshotAt network nodeId snapshot.channelId observedAt =
          tables.snapshotAt network nodeId snapshot.channelId observedAt := by
        rw [snapshotAt_replace, if_neg fun key => other key.2.2.1]
      rw [replaceChannelSnapshots_cons, ih distinct.2 later, skipped]

end Tables

namespace SqliteStorage

open SqlConnection

def recentChannelSnapshotsForNetwork (network : BitcoinNetwork) (nodeId : Option String) (channelId : String)
    (limit : Nat) : SqliteM (List ChannelSnapshot) :=
  sql .backend (query (Tables.recentSnapshotsForNetwork network nodeId channelId limit))

def channelSnapshotAt (network : BitcoinNetwork) (nodeId channelId : String) (observedAt : DateTime) :
    SqliteM (Option ChannelSnapshot) :=
  sql .backend (query (Tables.snapshotAt network nodeId channelId observedAt))

end SqliteStorage

instance : SnapshotQueries SqliteStorage where
  recentChannelSnapshotsForNetwork := SqliteStorage.recentChannelSnapshotsForNetwork
  channelSnapshotAt := SqliteStorage.channelSnapshotAt

end Rieko
