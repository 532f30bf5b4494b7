import Rieko.Lib.Ranking
import Rieko.Storage.MemoryRecords
import Rieko.Storage.Sqlite
import Mathlib.Data.List.Dedup

namespace Rieko

open Ranking StatefulResult

def asI64 (n : Nat) : Int := if n % 2^64 < 2^63 then (n % 2^64 : Nat) else (n % 2^64 : Nat) - 2^64

/-- The two cutoffs of a pass; nothing where one of them leaves the calendar, on which the source panics. -/
def RetentionPolicy.cutoffs (policy : RetentionPolicy) (now : DateTime) : Option (DateTime × DateTime) := do
  let activeCutoff ← now.checkedSub ((TimeDelta.fromStd policy.snapshotMaxAge).getD 0)
  let closedCutoff ← now.checkedSub ((TimeDelta.fromStd policy.closedChannelMaxAge).getD 0)
  return (activeCutoff, closedCutoff)

namespace Tables

def pruneChunk : Nat := 2000

def placesWhere (condition : ChannelSnapshot × Nat → Bool) (rows : List ChannelSnapshot) : List Nat :=
  (rows.zipIdx.filter condition).map Prod.snd

def statusInt : ChannelStatus → Nat
  | .opening => 0
  | .active => 1
  | .inactive => 2
  | .closing => 3
  | .closed => 4
  | .pendingOpen => 5
  | .waitingClose => 6
  | .forceClosing => 7
  | .unknown => 8

def stale (activeCutoff closedCutoff : DateTime) (row : ChannelSnapshot) : Bool :=
  let gone := statusInt row.status ∈ [3, 4, 6, 7]
  (row.ts < activeCutoff && !gone) || (row.ts < closedCutoff && gone)

def newestRowsFirst (rows : List (ChannelSnapshot × Nat)) : List (ChannelSnapshot × Nat) :=
  rows.insertionSort fun a b => b.1.ts ≤ a.1.ts

def rowNumber (rows : List ChannelSnapshot) (row : ChannelSnapshot × Nat) : Nat :=
  (newestRowsFirst (rows.zipIdx.filter fun other => ChannelKey.of other.1 = ChannelKey.of row.1)).idxOf row + 1

def beyondCap (cap : Int) (rows : List ChannelSnapshot) : List Nat :=
  placesWhere (fun row => cap < rowNumber rows row) rows

/-- `ORDER BY ts DESC` from an offset on, of which a negative one counts as zero. -/
def beyondTotal (total : Int) (rows : List ChannelSnapshot) : List Nat :=
  ((newestRowsFirst rows.zipIdx).map Prod.snd).drop total.toNat

def deleteSnapshots (places : List ChannelSnapshot → List Nat) (tables : Tables) : Tables × Nat :=
  let deleted := deleteAt (places tables.channelSnapshots) tables.channelSnapshots
  ({ tables with channelSnapshots := deleted.1 }, deleted.2)

end Tables

namespace SqliteStorage

open SqlConnection Tables

section Prune

-- `limit` is what the database returns of the places that a `LIMIT` without an order selects from.
variable (limit : List Nat → List Nat)

/-- Repeats a deletion until it deletes nothing. The fuel is more than the rows that are there to delete. -/
def pruneLoop (failure : String) (places : List ChannelSnapshot → List Nat) : Nat → SqliteM Nat
  | 0 => pure 0
  | fuel + 1 => do
    let n ← sql (fun e => .backend (failure ++ ": " ++ e)) (statement fun tables => .ok (tables.deleteSnapshots places))
    if n = 0 then return 0 else return n + (← pruneLoop failure places fuel)

def pruneWhere (failure : String) (places : List ChannelSnapshot → List Nat) : SqliteM Nat := do
  pruneLoop failure places ((← get).conn.tables.channelSnapshots.length + 1)

/-- A cap of zero deletes nothing. -/
def pruneBeyond (failure : String) (places : Int → List ChannelSnapshot → List Nat) (cap : Option Nat) : SqliteM Nat :=
  match cap with
  | some cap => if 0 < cap then pruneWhere failure (places (asI64 cap)) else pure 0
  | none => pure 0

def pruneRows (policy : RetentionPolicy) (activeCutoff closedCutoff : DateTime) : SqliteM Nat := do
  let aged ← pruneWhere "pruning stale snapshots"
    fun rows => limit (placesWhere (fun row => stale activeCutoff closedCutoff row.1) rows)
  let capped ← pruneBeyond "pruning per-channel cap" (fun cap rows => limit (beyondCap cap rows))
    policy.maxSnapshotsPerChannel
  let totalled ← pruneBeyond "pruning total cap" (fun total rows => (beyondTotal total rows).take pruneChunk)
    policy.maxTotalSnapshots
  return aged + capped + totalled

/-- One transaction, which is rolled back where it is dropped. Nothing is returned on a panic. -/
def pruneChannelSnapshots (policy : RetentionPolicy) (now : DateTime) : SqliteM (Option PruneSummary) :=
  match policy.cutoffs now with
  | some (activeCutoff, closedCutoff) =>
    ladder starting committing dropped do
      let deleted ← pruneRows limit policy activeCutoff closedCutoff
      return some ⟨deleted, true⟩
  | none => do
    starting
    discard (attempt dropped)
    return none
where
  starting : SqliteM Unit := sql (fun e => .backend s!"starting cleanup: {e}") beginImmediate
  committing : SqliteM Unit := sql (fun e => .backend s!"committing cleanup: {e}") commit
  dropped : SqliteM Unit := sql .backend rollback

end Prune

end SqliteStorage

def youngEnough (activeCutoff closedCutoff : DateTime) (snapshot : ChannelSnapshot) : Bool :=
  (if snapshot.status.isClosed then closedCutoff else activeCutoff) ≤ snapshot.ts

def laterSibling (a b : ChannelSnapshot) : Bool := ChannelKey.of a = ChannelKey.of b && later (·.ts) a b

theorem laterSibling_strict : Strict laterSibling where
  irrefl a := by simp [laterSibling, later]
  trans a b c first second := by
    simp only [laterSibling, Bool.and_eq_true, decide_eq_true_eq] at first second ⊢
    exact ⟨first.1.trans second.1, (later_strict _).trans a b c first.2 second.2⟩

def capped (above : ChannelSnapshot → ChannelSnapshot → Bool) (cap : Option Nat) (rows : List ChannelSnapshot) :
    List ChannelSnapshot :=
  match cap with
  | some k => foremost above k rows
  | none => rows

def survivors (activeCutoff closedCutoff : DateTime) (perChannel total : Option Nat) (rows : List ChannelSnapshot) :
    List ChannelSnapshot :=
  capped (later (·.ts)) total (capped laterSibling perChannel (rows.filter (youngEnough activeCutoff closedCutoff)))

section Survivors

variable {above : ChannelSnapshot → ChannelSnapshot → Bool} {cap : Option Nat} {rows rows' : List ChannelSnapshot}

theorem capped_perm (same : rows.Perm rows') : (capped above cap rows).Perm (capped above cap rows') := by
  cases cap with
  | none => exact same
  | some k => exact foremost_perm same

theorem capped_sublist (above : ChannelSnapshot → ChannelSnapshot → Bool) (cap : Option Nat)
    (rows : List ChannelSnapshot) : (capped above cap rows).Sublist rows := by
  cases cap with
  | none => exact List.Sublist.refl _
  | some k => exact List.filter_sublist

theorem survivors_perm {activeCutoff closedCutoff : DateTime} {perChannel total : Option Nat}
    (same : rows.Perm rows') : (survivors activeCutoff closedCutoff perChannel total rows).Perm
      (survivors activeCutoff closedCutoff perChannel total rows') :=
  capped_perm (capped_perm (same.filter _))

theorem survivors_sublist (activeCutoff closedCutoff : DateTime) (perChannel total : Option Nat)
    (rows : List ChannelSnapshot) : (survivors activeCutoff closedCutoff perChannel total rows).Sublist rows :=
  (capped_sublist _ _ _).trans ((capped_sublist _ _ _).trans List.filter_sublist)

end Survivors

namespace Tables

variable {rows : List ChannelSnapshot}

theorem stale_eq (activeCutoff closedCutoff : DateTime) (row : ChannelSnapshot) :
    stale activeCutoff closedCutoff row = !youngEnough activeCutoff closedCutoff row := by
  unfold stale youngEnough
  cases row.status <;> simp [statusInt, ChannelStatus.isClosed, ← decide_not]

theorem rowNumber_eq (distinct : (rows.map (·.ts)).Nodup) {i : Nat} {row : ChannelSnapshot}
    (here : rows[i]? = some row) : rowNumber rows (row, i) = rank laterSibling rows row + 1 := by
  have member : (row, i) ∈ rows.zipIdx := List.mem_zipIdx_iff_getElem?.mpr here
  let group := rows.zipIdx.filter fun other => ChannelKey.of other.1 = ChannelKey.of row
  have timed : (group.map (·.1.ts)).Nodup := by
    have all : (rows.zipIdx.map (·.1.ts)).Nodup := by
      rwa [← List.zipIdx_map_fst 0 rows, List.map_map] at distinct
    exact all.sublist (List.filter_sublist.map _)
  have inGroup : (row, i) ∈ latestFirst (·.1.ts) group :=
    (latestFirst_perm _ _).mem_iff.mpr (List.mem_filter.mpr ⟨member, by simp⟩)
  have placed : (latestFirst (fun other : ChannelSnapshot × Nat => other.1.ts) group).idxOf (row, i) =
      rank laterSibling rows row := by
    rw [idxOf_eq_rank (pairwise_latestFirst timed) (later_strict _) inGroup, rank_perm (latestFirst_perm _ _)]
    have counts := rank_zipIdx laterSibling rows (row, i)
    unfold rank at counts ⊢
    rw [← counts, List.countP_filter]
    refine List.countP_congr fun other _ => ?_
    unfold laterSibling later
    rw [Bool.and_comm]
  exact congrArg (· + 1) placed

def Timed (rows : List ChannelSnapshot) : Prop := (rows.map (·.ts)).Nodup

theorem Timed.sublist {part : List ChannelSnapshot} (sub : part.Sublist rows) (timed : Timed rows) : Timed part :=
  List.Nodup.sublist (sub.map _) timed

theorem Timed.perm {rows' : List ChannelSnapshot} (same : rows'.Perm rows) (timed : Timed rows) : Timed rows' :=
  (same.map _).nodup_iff.mpr timed

theorem Timed.filter (keep : ChannelSnapshot → Bool) (timed : Timed rows) : Timed (rows.filter keep) :=
  timed.sublist List.filter_sublist

theorem mem_placesWhere {condition : ChannelSnapshot × Nat → Bool} {i : Nat} {row : ChannelSnapshot}
    (here : rows[i]? = some row) : i ∈ placesWhere condition rows ↔ condition (row, i) = true := by
  unfold placesWhere
  rw [List.mem_map]
  constructor
  · rintro ⟨other, member, rfl⟩
    obtain ⟨listed, selected⟩ := List.mem_filter.mp member
    have there := List.mem_zipIdx_iff_getElem?.mp listed
    rw [here] at there
    cases there
    exact selected
  · exact fun selected => ⟨(row, i), List.mem_filter.mpr ⟨List.mem_zipIdx_iff_getElem?.mpr here, selected⟩, rfl⟩

theorem placesWhere_lt {condition : ChannelSnapshot × Nat → Bool} : ∀ i ∈ placesWhere condition rows,
    i < rows.length := by
  intro i selected
  obtain ⟨row, member, rfl⟩ := List.mem_map.mp selected
  exact (List.getElem?_eq_some_iff.mp (List.mem_zipIdx_iff_getElem?.mp (List.mem_filter.mp member).1)).1

theorem mem_beyondTotal {total : Int} (timed : Timed rows) {i : Nat} {row : ChannelSnapshot}
    (here : rows[i]? = some row) : i ∈ beyondTotal total rows ↔ total.toNat ≤ rank (later (·.ts)) rows row := by
  let sorted := latestFirst (fun other : ChannelSnapshot × Nat => other.1.ts) rows.zipIdx
  have apart : (rows.zipIdx.map (·.1.ts)).Nodup := by
    rwa [Timed, ← List.zipIdx_map_fst 0 rows, List.map_map] at timed
  have member : (row, i) ∈ sorted :=
    (latestFirst_perm _ _).mem_iff.mpr (List.mem_zipIdx_iff_getElem?.mpr here)
  have place : i ∈ beyondTotal total rows ↔ (row, i) ∈ sorted.drop total.toNat := by
    show i ∈ (sorted.map Prod.snd).drop total.toNat ↔ _
    rw [← List.map_drop, List.mem_map]
    refine ⟨fun ⟨other, dropped, same⟩ => ?_, fun dropped => ⟨_, dropped, rfl⟩⟩
    have listed := (latestFirst_perm _ _).mem_iff.mp (List.mem_of_mem_drop dropped)
    have there := List.mem_zipIdx_iff_getElem?.mp listed
    rw [same, here] at there
    cases there
    rwa [← same]
  have front : (row, i) ∈ sorted.take total.toNat ↔ rank (later (·.ts)) rows row < total.toNat := by
    rw [mem_take_iff (pairwise_latestFirst apart) (later_strict _), and_iff_right member,
      rank_perm (latestFirst_perm _ _)]
    exact Eq.to_iff
      (congrArg (· < total.toNat) (rank_zipIdx (later fun other : ChannelSnapshot => other.ts) rows (row, i)))
  have nodup : sorted.Nodup := (latestFirst_perm _ _).nodup_iff.mpr (List.Nodup.of_map _ apart)
  rw [place, ← not_lt, ← front]
  constructor
  · exact fun dropped taken => List.disjoint_take_drop nodup le_rfl taken dropped
  · intro left
    rw [← List.take_append_drop total.toNat sorted, List.mem_append] at member
    exact member.resolve_left left

theorem beyondTotal_lt {total : Int} : ∀ i ∈ beyondTotal total rows, i < rows.length := by
  intro i selected
  obtain ⟨row, member, rfl⟩ := List.mem_map.mp (List.mem_of_mem_drop selected)
  exact (List.getElem?_eq_some_iff.mp (List.mem_zipIdx_iff_getElem?.mp ((List.mem_insertionSort _).mp member))).1

section Takes

variable {limit : List Nat → List Nat}

theorem takes_stale (limits : Limits pruneChunk limit) (activeCutoff closedCutoff : DateTime) :
    Takes Timed (fun _ row => stale activeCutoff closedCutoff row)
      fun rows => deleteAt (limit (placesWhere (fun row => stale activeCutoff closedCutoff row.1) rows)) rows :=
  takes_deleteAt (by decide) limits (fun _ timed => List.Nodup.of_map _ timed)
    (fun _ _ _ _ here => mem_placesWhere here) fun _ => placesWhere_lt

theorem takes_beyondCap (limits : Limits pruneChunk limit) (cap : Int) :
    Takes Timed (fun rows row => decide (cap.toNat ≤ rank laterSibling rows row))
      fun rows => deleteAt (limit (beyondCap cap rows)) rows := by
  refine takes_deleteAt (by decide) limits (fun _ timed => List.Nodup.of_map _ timed) (fun rows timed i row here => ?_)
    fun _ => placesWhere_lt
  rw [beyondCap, mem_placesWhere here, rowNumber_eq timed here]
  simp only [decide_eq_true_eq]
  omega

theorem takes_beyondTotal (total : Int) :
    Takes Timed (fun rows row => decide (total.toNat ≤ rank (later (·.ts)) rows row))
      fun rows => deleteAt ((beyondTotal total rows).take pruneChunk) rows :=
  takes_deleteAt (by decide) (limits_take pruneChunk) (fun _ timed => List.Nodup.of_map _ timed)
    (fun rows timed i row here => by rw [mem_beyondTotal timed here, decide_eq_true_iff]) fun _ => beyondTotal_lt

end Takes

end Tables

namespace SqliteStorage

open SqlConnection Tables

variable {s s' : SqliteStorage} {rows : List ChannelSnapshot}

def Healthy (s : SqliteStorage) : Prop := ∀ n, s.conn.fails n = none

structure Leaves (s : SqliteStorage) (rows : List ChannelSnapshot) (s' : SqliteStorage) : Prop where
  tables : s'.conn.tables = { s.conn.tables with channelSnapshots := rows }
  saved : s'.conn.saved = s.conn.saved
  fails : s'.conn.fails = s.conn.fails
  inTransaction : s'.inTransaction = s.inTransaction

theorem Leaves.trans {rows' : List ChannelSnapshot} {m : SqliteStorage} (first : Leaves s rows m)
    (second : Leaves m rows' s') : Leaves s rows' s' where
  tables := by rw [second.tables, first.tables]
  saved := second.saved.trans first.saved
  fails := second.fails.trans first.fails
  inTransaction := second.inTransaction.trans first.inTransaction

theorem Leaves.healthy (leaves : Leaves s rows s') (healthy : Healthy s) : Healthy s' := fun n => by
  rw [leaves.fails, healthy n]

theorem pruneLoop_ok (healthy : Healthy s) (failure : String) (places : List ChannelSnapshot → List Nat) (fuel : Nat) :
    let drained := drain (fun rows => deleteAt (places rows) rows) fuel s.conn.tables.channelSnapshots
    ∃ s', pruneLoop failure places fuel s = .ok drained.2 s' ∧ Leaves s drained.1 s' := by
  induction fuel generalizing s with
  | zero => exact ⟨s, rfl, rfl, rfl, rfl, rfl⟩
  | succ fuel ih =>
    intro drained
    let once := deleteAt (places s.conn.tables.channelSnapshots) s.conn.tables.channelSnapshots
    let m : SqliteStorage :=
      { s with conn := { s.conn.next with tables := { s.conn.tables with channelSnapshots := once.1 } } }
    have ran : sql (fun e => StorageError.backend (failure ++ ": " ++ e))
        (statement fun tables => .ok (tables.deleteSnapshots places)) s = .ok once.2 m := by
      unfold sql statement
      rw [healthy s.conn.executed]
      rfl
    have left : Leaves s once.1 m := ⟨rfl, rfl, rfl, rfl⟩
    unfold pruneLoop
    rw [bind_of_ok ran]
    by_cases done : once.2 = 0
    · refine ⟨m, ?_, ?_⟩
      · rw [if_pos done]
        have zero : drained = once := if_pos done
        rw [zero, done]
        rfl
      · have zero : drained = once := if_pos done
        rwa [zero]
    · have more : drained = ((drain (fun rows => deleteAt (places rows) rows) fuel once.1).1,
          once.2 + (drain (fun rows => deleteAt (places rows) rows) fuel once.1).2) := if_neg done
      obtain ⟨s', rest, leaves⟩ := ih (left.healthy healthy)
      refine ⟨s', ?_, ?_⟩
      · rw [if_neg done, bind_of_ok rest, more]
        rfl
      · rw [more]
        exact left.trans leaves

theorem pruneWhere_ok (healthy : Healthy s) (failure : String) {places : List ChannelSnapshot → List Nat}
    {bad : List ChannelSnapshot → ChannelSnapshot → Bool}
    (takes : Takes Timed bad fun rows => deleteAt (places rows) rows) (stable : Stable bad)
    (timed : Timed s.conn.tables.channelSnapshots) :
    let kept := s.conn.tables.channelSnapshots.filter (!bad s.conn.tables.channelSnapshots ·)
    ∃ n s', pruneWhere failure places s = .ok n s' ∧ Leaves s kept s' ∧
      n + kept.length = s.conn.tables.channelSnapshots.length := by
  intro kept
  have drained := drain_eq takes stable (fun _ keep => Timed.filter keep) timed (Nat.lt_succ_self _)
  obtain ⟨s', ran, leaves⟩ :=
    pruneLoop_ok healthy failure places (s.conn.tables.channelSnapshots.length + 1)
  rw [drained] at ran leaves
  refine ⟨_, s', ran, leaves, ?_⟩
  rw [List.countP_eq_length_filter, ← List.length_eq_length_filter_add]

/-- The cap that the deletions apply: none for zero, and zero for one that turns negative. -/
def appliedCap : Option Nat → Option Nat
  | some k => if 0 < k then some (asI64 k).toNat else none
  | none => none

theorem pruneBeyond_ok (healthy : Healthy s) (failure : String) {places : Int → List ChannelSnapshot → List Nat}
    {above : ChannelSnapshot → ChannelSnapshot → Bool} (strict : Strict above)
    (takes : ∀ cap : Int, Takes Timed (fun rows row => decide (cap.toNat ≤ rank above rows row))
      fun rows => deleteAt (places cap rows) rows)
    (timed : Timed s.conn.tables.channelSnapshots) (cap : Option Nat) :
    let kept := capped above (appliedCap cap) s.conn.tables.channelSnapshots
    ∃ n s', pruneBeyond failure places cap s = .ok n s' ∧ Leaves s kept s' ∧
      n + kept.length = s.conn.tables.channelSnapshots.length := by
  intro kept
  have still : ∃ n s', (pure 0 : SqliteM Nat) s = .ok n s' ∧ Leaves s s.conn.tables.channelSnapshots s' ∧
      n + s.conn.tables.channelSnapshots.length = s.conn.tables.channelSnapshots.length :=
    ⟨0, s, rfl, ⟨rfl, rfl, rfl, rfl⟩, by omega⟩
  unfold pruneBeyond
  cases cap with
  | none => exact still
  | some k =>
    by_cases positive : 0 < k
    · have all : kept = foremost above (asI64 k).toNat s.conn.tables.channelSnapshots := by
        simp only [kept, appliedCap, if_pos positive, capped]
      have ran := pruneWhere_ok healthy failure (takes (asI64 k)) (stable_rank strict _) timed
      dsimp only at ran ⊢
      rw [filter_rank, ← all] at ran
      rw [if_pos positive]
      exact ran
    · have all : kept = s.conn.tables.channelSnapshots := by
        simp only [kept, appliedCap, if_neg positive, capped]
      dsimp only
      rw [if_neg positive, all]
      exact still

theorem pruneRows_ok {limit : List Nat → List Nat} (limits : Limits pruneChunk limit) (healthy : Healthy s)
    (timed : Timed s.conn.tables.channelSnapshots) (policy : RetentionPolicy) (activeCutoff closedCutoff : DateTime) :
    let kept := survivors activeCutoff closedCutoff (appliedCap policy.maxSnapshotsPerChannel)
      (appliedCap policy.maxTotalSnapshots) s.conn.tables.channelSnapshots
    ∃ n s', pruneRows limit policy activeCutoff closedCutoff s = .ok n s' ∧ Leaves s kept s' ∧
      n + kept.length = s.conn.tables.channelSnapshots.length := by
  intro kept
  obtain ⟨aged, first, ranFirst, leavesFirst, countFirst⟩ := pruneWhere_ok healthy "pruning stale snapshots"
    (takes_stale limits activeCutoff closedCutoff) (fun _ _ _ _ => rfl) timed
  simp only [stale_eq, Bool.not_not] at leavesFirst countFirst
  have rowsFirst : first.conn.tables.channelSnapshots =
      s.conn.tables.channelSnapshots.filter (youngEnough activeCutoff closedCutoff) := by rw [leavesFirst.tables]
  have timedFirst : Timed first.conn.tables.channelSnapshots := rowsFirst ▸ timed.filter _
  obtain ⟨perChannel, second, ranSecond, leavesSecond, countSecond⟩ := pruneBeyond_ok (leavesFirst.healthy healthy)
    "pruning per-channel cap" laterSibling_strict (takes_beyondCap limits) timedFirst policy.maxSnapshotsPerChannel
  have rowsSecond : second.conn.tables.channelSnapshots = capped laterSibling
      (appliedCap policy.maxSnapshotsPerChannel) first.conn.tables.channelSnapshots := by rw [leavesSecond.tables]
  have timedSecond : Timed second.conn.tables.channelSnapshots := by
    rw [rowsSecond]
    exact timedFirst.sublist (capped_sublist _ _ _)
  obtain ⟨totalled, third, ranThird, leavesThird, countThird⟩ :=
    pruneBeyond_ok (leavesSecond.healthy (leavesFirst.healthy healthy)) "pruning total cap" (later_strict _)
      takes_beyondTotal timedSecond policy.maxTotalSnapshots
  have rowsThird : capped (later (·.ts)) (appliedCap policy.maxTotalSnapshots) second.conn.tables.channelSnapshots =
      kept := by
    rw [rowsSecond, rowsFirst]
    rfl
  rw [rowsThird] at leavesThird countThird
  refine ⟨aged + perChannel + totalled, third, ?_, leavesFirst.trans (leavesSecond.trans leavesThird), ?_⟩
  · unfold pruneRows
    rw [bind_of_ok ranFirst, bind_of_ok ranSecond, bind_of_ok ranThird]
    rfl
  · have one : aged + first.conn.tables.channelSnapshots.length = s.conn.tables.channelSnapshots.length := by
      rw [rowsFirst]
      exact countFirst
    rw [← rowsSecond] at countSecond
    omega

def begun (s : SqliteStorage) : SqliteStorage := { s with conn := { s.conn.next with saved := some s.conn.tables } }

theorem starting_ok (healthy : Healthy s) (idle : s.conn.saved = none) :
    pruneChannelSnapshots.starting s = .ok () s.begun := by
  unfold pruneChannelSnapshots.starting sql beginImmediate
  rw [healthy s.conn.executed, idle]
  rfl

theorem pruneChannelSnapshots_panics (limit : List Nat → List Nat) (healthy : Healthy s) (idle : s.conn.saved = none)
    {policy : RetentionPolicy} {now : DateTime} (beyond : policy.cutoffs now = none) :
    ∃ s', pruneChannelSnapshots limit policy now s = .ok none s' ∧ s'.conn.tables = s.conn.tables := by
  refine ⟨{ s.begun with conn := { s.begun.conn.next with tables := s.conn.tables, saved := none } }, ?_, rfl⟩
  unfold pruneChannelSnapshots
  rw [beyond]
  dsimp only
  rw [bind_of_ok (starting_ok healthy idle)]
  rfl

theorem pruneChannelSnapshots_of_rows {limit : List Nat → List Nat} (healthy : Healthy s) (idle : s.conn.saved = none)
    {policy : RetentionPolicy} {now activeCutoff closedCutoff : DateTime}
    (cutoffs : policy.cutoffs now = some (activeCutoff, closedCutoff)) {n : Nat} {last : SqliteStorage}
    (ran : pruneRows limit policy activeCutoff closedCutoff s.begun = .ok n last) (leaves : Leaves s.begun rows last) :
    ∃ s', pruneChannelSnapshots limit policy now s = .ok (some ⟨n, true⟩) s' ∧
      s'.conn.tables.channelSnapshots = rows := by
  have body : (do
      let deleted ← pruneRows limit policy activeCutoff closedCutoff
      return some (⟨deleted, true⟩ : PruneSummary) : SqliteM (Option PruneSummary)) s.begun =
        .ok (some ⟨n, true⟩) last := bind_of_ok ran _
  have healthyBegun : Healthy s.begun := healthy
  have commits : pruneChannelSnapshots.committing last =
      .ok () { last with conn := { last.conn.next with saved := none } } := by
    unfold pruneChannelSnapshots.committing sql commit
    rw [leaves.fails, leaves.saved, healthyBegun last.conn.executed]
    rfl
  refine ⟨{ last with conn := { last.conn.next with saved := none } }, ?_, ?_⟩
  · unfold pruneChannelSnapshots
    rw [cutoffs]
    dsimp only
    rw [ladder_eq, starting_ok healthy idle]
    dsimp only
    rw [body]
    dsimp only
    rw [commits]
  · show last.conn.tables.channelSnapshots = rows
    rw [leaves.tables]

theorem pruneChannelSnapshots_ok {limit : List Nat → List Nat} (limits : Limits pruneChunk limit) (healthy : Healthy s)
    (idle : s.conn.saved = none) (timed : Timed s.conn.tables.channelSnapshots) (policy : RetentionPolicy)
    (now : DateTime) :
    let rows := s.conn.tables.channelSnapshots
    ∃ s', match policy.cutoffs now with
      | some (activeCutoff, closedCutoff) =>
        let kept := survivors activeCutoff closedCutoff (appliedCap policy.maxSnapshotsPerChannel)
          (appliedCap policy.maxTotalSnapshots) rows
        pruneChannelSnapshots limit policy now s = .ok (some ⟨rows.length - kept.length, true⟩) s' ∧
          s'.conn.tables.channelSnapshots = kept
      | none => pruneChannelSnapshots limit policy now s = .ok none s' ∧ s'.conn.tables.channelSnapshots = rows := by
  intro rows
  cases cutoffs : policy.cutoffs now with
  | none =>
    rcases pruneChannelSnapshots_panics limit healthy idle cutoffs with ⟨s', ran, tables⟩
    exact ⟨s', ran, by rw [tables]⟩
  | some pair =>
    rcases pair with ⟨activeCutoff, closedCutoff⟩
    have healthyBegun : Healthy s.begun := healthy
    rcases pruneRows_ok limits healthyBegun timed policy activeCutoff closedCutoff with ⟨n, last, ran, leaves, counted⟩
    have total : rows.length - (survivors activeCutoff closedCutoff (appliedCap policy.maxSnapshotsPerChannel)
        (appliedCap policy.maxTotalSnapshots) rows).length = n := Nat.sub_eq_of_eq_add counted.symm
    rcases pruneChannelSnapshots_of_rows healthy idle cutoffs ran leaves with ⟨s', passed, left⟩
    refine ⟨s', ?_, left⟩
    rw [passed, total]

end SqliteStorage

namespace MemoryStorage

variable {rows : List ChannelSnapshot}

theorem pruneChannelSnapshots_eq (policy : RetentionPolicy) (now : DateTime) (s : MemoryStorage) :
    pruneChannelSnapshots policy now s = match policy.cutoffs now with
      | some (activeCutoff, closedCutoff) =>
        let kept := retained policy activeCutoff closedCutoff s.channelSnapshots
        .ok (some ⟨s.channelSnapshots.length - kept.length, true⟩) { s with channelSnapshots := kept }
      | none => .ok none s := by
  unfold pruneChannelSnapshots RetentionPolicy.cutoffs
  cases now.checkedSub ((TimeDelta.fromStd policy.snapshotMaxAge).getD 0) <;>
    cases now.checkedSub ((TimeDelta.fromStd policy.closedChannelMaxAge).getD 0) <;> rfl

theorem byChannel_perm {pass : List ChannelSnapshot → List ChannelSnapshot} {keep : ChannelSnapshot → Bool}
    (selects : ∀ key, (pass (rows.filter fun row => ChannelKey.of row = key)).Perm
      ((rows.filter fun row => ChannelKey.of row = key).filter keep)) :
    ((byChannel rows).flatMap pass).Perm (rows.filter keep) := by
  let keys := (rows.map ChannelKey.of).dedup.insertionSort fun a b => (a.compare b).isLE
  have once : keys.Nodup := (List.perm_insertionSort _ _).nodup_iff.mpr (List.nodup_dedup _)
  have covers (row : ChannelSnapshot) (member : row ∈ rows) : ChannelKey.of row ∈ keys := by
    rw [List.mem_insertionSort, List.mem_dedup]
    exact List.mem_map_of_mem member
  have parts : ((byChannel rows).flatMap pass).Perm
      (keys.flatMap fun key => (rows.filter fun row => ChannelKey.of row = key).filter keep) := by
    unfold byChannel
    rw [List.flatMap_map]
    exact List.Perm.flatMap_left _ fun key _ => selects key
  rw [← List.filter_flatMap] at parts
  exact parts.trans ((grouped_perm ChannelKey.of once covers).filter keep)

theorem byChannel_young_perm (rows : List ChannelSnapshot) (keep : ChannelSnapshot → Bool) :
    ((byChannel rows).flatMap fun group => (newestFirst group).filter keep).Perm (rows.filter keep) :=
  byChannel_perm fun _ => (latestFirst_perm (fun row : ChannelSnapshot => row.ts) _).filter keep

theorem rank_group {key : ChannelKey} {row : ChannelSnapshot} (grouped : ChannelKey.of row = key) :
    rank (later (·.ts)) (rows.filter fun row => ChannelKey.of row = key) row = rank laterSibling rows row := by
  unfold rank
  rw [List.countP_filter]
  refine List.countP_congr fun other _ => ?_
  unfold laterSibling
  rw [Bool.and_comm, grouped]

theorem byChannel_capped_perm (timed : Tables.Timed rows) (cap : Nat) :
    ((byChannel rows).flatMap fun group => (newestFirst group).take cap).Perm (foremost laterSibling cap rows) := by
  refine byChannel_perm fun key => ?_
  refine (take_latestFirst_perm (timed.filter _) cap).trans ?_
  have same : foremost (later (·.ts)) cap (rows.filter fun row => ChannelKey.of row = key) =
      (rows.filter fun row => ChannelKey.of row = key).filter fun row => rank laterSibling rows row < cap :=
    List.filter_congr fun row member => by rw [rank_group (by simpa using (List.mem_filter.mp member).2)]
  rw [same]

theorem retained_perm (timed : Tables.Timed rows) (policy : RetentionPolicy) (activeCutoff closedCutoff : DateTime) :
    (retained policy activeCutoff closedCutoff rows).Perm
      (survivors activeCutoff closedCutoff policy.maxSnapshotsPerChannel policy.maxTotalSnapshots rows) := by
  have young := byChannel_young_perm rows (youngEnough activeCutoff closedCutoff)
  have timedYoung := Tables.Timed.perm young (timed.filter _)
  have perChannel : (match policy.maxSnapshotsPerChannel with
      | some cap => (byChannel ((byChannel rows).flatMap fun group =>
          (newestFirst group).filter (youngEnough activeCutoff closedCutoff))).flatMap
            fun group => (newestFirst group).take cap
      | none => (byChannel rows).flatMap fun group =>
          (newestFirst group).filter (youngEnough activeCutoff closedCutoff)).Perm
      (capped laterSibling policy.maxSnapshotsPerChannel (rows.filter (youngEnough activeCutoff closedCutoff))) := by
    cases policy.maxSnapshotsPerChannel with
    | none => exact young
    | some cap => exact (byChannel_capped_perm timedYoung cap).trans (foremost_perm young)
  have timedCapped := Tables.Timed.perm perChannel ((timed.filter _).sublist (capped_sublist _ _ _))
  unfold retained survivors
  cases policy.maxTotalSnapshots with
  | none => exact perChannel
  | some total => exact (take_latestFirst_perm timedCapped total).trans (foremost_perm perChannel)

end MemoryStorage

/-- Both backends answer a pass alike and keep the same snapshots. -/
def PruneAlike (limit : List Nat → List Nat) (policy : RetentionPolicy) (now : DateTime) (memory : MemoryStorage)
    (sqlite : SqliteStorage) : Prop :=
  ∃ answer memory' sqlite',
    MemoryStorage.pruneChannelSnapshots policy now memory = .ok answer memory' ∧
    SqliteStorage.pruneChannelSnapshots limit policy now sqlite = .ok answer sqlite' ∧
    ∀ row, row ∈ memory'.channelSnapshots ↔ row ∈ sqlite'.conn.tables.channelSnapshots

def RetentionPolicy.hasCap (policy : RetentionPolicy) (described : Nat → Prop) : Prop :=
  (∃ cap, policy.maxSnapshotsPerChannel = some cap ∧ described cap) ∨
    ∃ cap, policy.maxTotalSnapshots = some cap ∧ described cap

def RetentionPolicy.Bounded (policy : RetentionPolicy) : Prop := ¬policy.hasCap (2^64 ≤ ·)

section Caps

open SqliteStorage

variable {above : ChannelSnapshot → ChannelSnapshot → Bool} {cap perChannel total : Option Nat}
  {rows : List ChannelSnapshot} {activeCutoff closedCutoff : DateTime}

theorem appliedCap_eq_zero (bounded : ∀ k, cap = some k → k < 2^64) :
    appliedCap cap = some 0 ↔ ∃ k, cap = some k ∧ 2^63 ≤ k := by
  cases cap with
  | none => simp [appliedCap]
  | some k =>
    have small := bounded k rfl
    dsimp only [appliedCap]
    unfold asI64
    rw [Nat.mod_eq_of_lt small]
    by_cases zero : 0 < k
    · by_cases positive : k < 2^63
      · simp only [if_pos zero, if_pos positive, Option.some.injEq, exists_eq_left']
        omega
      · simp only [if_pos zero, if_neg positive, Option.some.injEq, exists_eq_left']
        omega
    · simp only [if_neg zero, Option.some.injEq, exists_eq_left', reduceCtorEq, false_iff]
      omega

theorem appliedCap_eq (sound : ∀ k, cap = some k → 0 < k ∧ k < 2^63) : appliedCap cap = cap := by
  cases cap with
  | none => rfl
  | some k =>
    obtain ⟨positive, small⟩ := sound k rfl
    dsimp only [appliedCap]
    unfold asI64
    rw [if_pos positive, Nat.mod_eq_of_lt (by omega), if_pos small, Int.toNat_natCast]

theorem capped_eq_nil (strict : Strict above) : capped above cap rows = [] ↔ rows = [] ∨ cap = some 0 := by
  cases cap with
  | none => simp [capped]
  | some k =>
    constructor
    · intro empty
      by_contra neither
      rw [not_or] at neither
      exact foremost_ne_nil strict (Nat.pos_of_ne_zero fun zero => neither.2 (zero ▸ rfl)) neither.1 empty
    · rintro (rfl | zero)
      · rfl
      · cases zero
        exact foremost_zero

theorem survivors_eq_nil : survivors activeCutoff closedCutoff perChannel total rows = [] ↔
    rows.filter (youngEnough activeCutoff closedCutoff) = [] ∨ perChannel = some 0 ∨ total = some 0 := by
  unfold survivors
  rw [capped_eq_nil (later_strict _), capped_eq_nil laterSibling_strict, or_assoc]

theorem survivors_applied_iff (policy : RetentionPolicy) (bounded : policy.Bounded) :
    (∀ row, row ∈ survivors activeCutoff closedCutoff policy.maxSnapshotsPerChannel policy.maxTotalSnapshots rows ↔
      row ∈ survivors activeCutoff closedCutoff (appliedCap policy.maxSnapshotsPerChannel)
        (appliedCap policy.maxTotalSnapshots) rows) ↔
      (rows.filter (youngEnough activeCutoff closedCutoff) = [] ∨
        (policy.hasCap (· = 0) ↔ policy.hasCap (2^63 ≤ ·))) := by
  have boundedChannel (k : Nat) (given : policy.maxSnapshotsPerChannel = some k) : k < 2^64 :=
    Nat.lt_of_not_le fun large => bounded (.inl ⟨k, given, large⟩)
  have boundedTotal (k : Nat) (given : policy.maxTotalSnapshots = some k) : k < 2^64 :=
    Nat.lt_of_not_le fun large => bounded (.inr ⟨k, given, large⟩)
  have zeros : policy.hasCap (· = 0) ↔
      policy.maxSnapshotsPerChannel = some 0 ∨ policy.maxTotalSnapshots = some 0 := by
    simp [RetentionPolicy.hasCap]
  have larges : policy.hasCap (2^63 ≤ ·) ↔
      appliedCap policy.maxSnapshotsPerChannel = some 0 ∨ appliedCap policy.maxTotalSnapshots = some 0 := by
    rw [appliedCap_eq_zero boundedChannel, appliedCap_eq_zero boundedTotal]
    rfl
  let kept := survivors activeCutoff closedCutoff policy.maxSnapshotsPerChannel policy.maxTotalSnapshots rows
  let applied := survivors activeCutoff closedCutoff (appliedCap policy.maxSnapshotsPerChannel)
    (appliedCap policy.maxTotalSnapshots) rows
  have keptNone : kept = [] ↔ rows.filter (youngEnough activeCutoff closedCutoff) = [] ∨ policy.hasCap (· = 0) := by
    rw [zeros]
    exact survivors_eq_nil
  have appliedNone : applied = [] ↔
      rows.filter (youngEnough activeCutoff closedCutoff) = [] ∨ policy.hasCap (2^63 ≤ ·) := by
    rw [larges]
    exact survivors_eq_nil
  constructor
  · intro same
    have together : kept = [] ↔ applied = [] := by
      rw [List.eq_nil_iff_forall_not_mem, List.eq_nil_iff_forall_not_mem]
      exact forall_congr' fun row => not_congr (same row)
    rw [keptNone, appliedNone] at together
    by_cases young : rows.filter (youngEnough activeCutoff closedCutoff) = []
    · exact .inl young
    · rw [or_iff_right young, or_iff_right young] at together
      exact .inr together
  · intro condition
    have same : kept = applied := by
      rcases condition with young | agree
      · exact (keptNone.mpr (.inl young)).trans (appliedNone.mpr (.inl young)).symm
      · by_cases zero : policy.hasCap (· = 0)
        · exact (keptNone.mpr (.inr zero)).trans (appliedNone.mpr (.inr (agree.mp zero))).symm
        · have small : ¬policy.hasCap (2^63 ≤ ·) := fun large => zero (agree.mpr large)
          have channel : appliedCap policy.maxSnapshotsPerChannel = policy.maxSnapshotsPerChannel :=
            appliedCap_eq fun k given => ⟨Nat.pos_of_ne_zero fun vanishes => zero (.inl ⟨k, given, vanishes⟩),
              Nat.lt_of_not_le fun large => small (.inl ⟨k, given, large⟩)⟩
          have all : appliedCap policy.maxTotalSnapshots = policy.maxTotalSnapshots :=
            appliedCap_eq fun k given => ⟨Nat.pos_of_ne_zero fun vanishes => zero (.inr ⟨k, given, vanishes⟩),
              Nat.lt_of_not_le fun large => small (.inr ⟨k, given, large⟩)⟩
          simp only [kept, applied, channel, all]
    exact fun row => iff_of_eq (congrArg (row ∈ ·) same)

/-- The backends prune alike exactly where no snapshot is young enough to be capped, or where a cap of zero and one
    that turns negative come together or not at all. -/
theorem prune_alike_iff {limit : List Nat → List Nat} (limits : Limits Tables.pruneChunk limit)
    {memory : MemoryStorage} {sqlite : SqliteStorage} (healthy : sqlite.Healthy) (idle : sqlite.conn.saved = none)
    (same : sqlite.conn.tables.channelSnapshots.Perm memory.channelSnapshots)
    (timed : Tables.Timed memory.channelSnapshots) {policy : RetentionPolicy} (bounded : policy.Bounded)
    (now : DateTime) :
    PruneAlike limit policy now memory sqlite ↔
      ∀ activeCutoff closedCutoff, policy.cutoffs now = some (activeCutoff, closedCutoff) →
        (∀ row ∈ memory.channelSnapshots, youngEnough activeCutoff closedCutoff row = false) ∨
          (policy.hasCap (· = 0) ↔ policy.hasCap (2^63 ≤ ·)) := by
  obtain ⟨sqlite', pruned⟩ := pruneChannelSnapshots_ok limits healthy idle (timed.perm same) policy now
  have remembered := MemoryStorage.pruneChannelSnapshots_eq policy now memory
  cases cutoffs : policy.cutoffs now with
  | none =>
    rw [cutoffs] at pruned remembered
    have alike : PruneAlike limit policy now memory sqlite :=
      ⟨none, memory, sqlite', remembered, pruned.1, fun row => by rw [pruned.2, same.mem_iff]⟩
    simp [alike]
  | some pair =>
    obtain ⟨activeCutoff, closedCutoff⟩ := pair
    rw [cutoffs] at pruned remembered
    obtain ⟨ran, rows⟩ := pruned
    let kept := survivors activeCutoff closedCutoff policy.maxSnapshotsPerChannel policy.maxTotalSnapshots
      memory.channelSnapshots
    let applied := survivors activeCutoff closedCutoff (appliedCap policy.maxSnapshotsPerChannel)
      (appliedCap policy.maxTotalSnapshots) memory.channelSnapshots
    have inMemory := MemoryStorage.retained_perm timed policy activeCutoff closedCutoff
    have inSqlite : sqlite'.conn.tables.channelSnapshots.Perm applied := by
      rw [rows]
      exact survivors_perm same
    have members : PruneAlike limit policy now memory sqlite ↔ ∀ row, row ∈ kept ↔ row ∈ applied := by
      constructor
      · rintro ⟨answer, memory', sqlite'', ranMemory, ranSqlite, alike⟩ row
        rw [remembered] at ranMemory
        rw [ran] at ranSqlite
        injection ranMemory with _ left
        injection ranSqlite with _ deleted
        subst left deleted
        exact inMemory.mem_iff.symm.trans ((alike row).trans inSqlite.mem_iff)
      · intro alike
        have nodup : memory.channelSnapshots.Nodup := List.Nodup.of_map _ timed
        have perm : kept.Perm applied := (List.perm_ext_iff_of_nodup (nodup.sublist (survivors_sublist ..))
          (nodup.sublist (survivors_sublist ..))).mpr alike
        have lengths := (inMemory.trans (perm.trans inSqlite.symm)).length_eq
        refine ⟨_, _, sqlite', remembered, ?_, fun row => (inMemory.trans (perm.trans inSqlite.symm)).mem_iff⟩
        rw [ran, ← rows, lengths, same.length_eq]
    have none : memory.channelSnapshots.filter (youngEnough activeCutoff closedCutoff) = [] ↔
        ∀ row ∈ memory.channelSnapshots, youngEnough activeCutoff closedCutoff row = false := by
      simp only [List.filter_eq_nil_iff, Bool.not_eq_true]
    rw [members, survivors_applied_iff policy bounded, none]
    simp

def prunedChannel : ChannelSnapshot where
  nodeId := some "node"
  network := some .mainnet
  stateDigest := none
  channelId := "channel"
  localRatio := ⟨0x3FE0000000000000⟩
  localBalanceMsat := 1
  remoteBalanceMsat := 1
  capacityMsat := 2
  status := .active
  ts := 0
  spendableOutboundMsat := 0
  spendableInboundMsat := 0

/-- Snapshots of two channels, stored in different orders. One is too old, and both caps delete more. -/
theorem prune_alike_capped :
    let channel (id : String) (ts : DateTime) : ChannelSnapshot := { prunedChannel with channelId := id, ts }
    let rows := [channel "a" 90, channel "a" 110, channel "b" 115, channel "a" 120, channel "b" 125, channel "a" 130]
    let policy : RetentionPolicy := {
      snapshotMaxAge := 100, closedChannelMaxAge := 50, maxSnapshotsPerChannel := some 2, maxTotalSnapshots := some 3 }
    let memory : MemoryStorage := { channelSnapshots := rows }
    let sqlite : SqliteStorage := ⟨{ tables := { channelSnapshots := rows.reverse }, saved := none }, false⟩
    PruneAlike (List.take Tables.pruneChunk) policy 200 memory sqlite ∧
      (final (MemoryStorage.pruneChannelSnapshots policy 200) memory).channelSnapshots.map
      (·.ts) = [130, 125, 120] := by
  intro channel rows policy memory sqlite
  have timed : Tables.Timed rows := by
    unfold Tables.Timed
    decide
  have bounded : policy.Bounded := by simp [RetentionPolicy.Bounded, RetentionPolicy.hasCap, policy]
  have capped : policy.hasCap (· = 0) ↔ policy.hasCap (2^63 ≤ ·) := by simp [RetentionPolicy.hasCap, policy]
  have alike : PruneAlike (List.take Tables.pruneChunk) policy 200 memory sqlite ↔ _ :=
    prune_alike_iff (limits_take _) (fun _ => rfl) rfl rows.reverse_perm timed bounded 200
  exact ⟨alike.mpr fun _ _ _ => .inr capped, by decide +kernel⟩

/-- A cap of zero snapshots per channel empties the one backend and does not touch the other. -/
theorem zero_cap_prunes_apart :
    ¬PruneAlike (List.take Tables.pruneChunk) { maxSnapshotsPerChannel := some 0 } 0
      { channelSnapshots := [prunedChannel] } ⟨{ tables := { channelSnapshots := [prunedChannel] }, saved := none },
        false⟩ := by
  rintro ⟨answer, memory', sqlite', ranMemory, ranSqlite, _⟩
  have emptied : answer = some ⟨1, true⟩ := by
    injection ranMemory with same
    exact same.symm.trans rfl
  have untouched : answer = some ⟨0, true⟩ := by
    injection ranSqlite with same
    exact same.symm.trans rfl
  rw [emptied] at untouched
  cases untouched

end Caps

end Rieko
