import Rieko.Storage.TextStorage

/-! The retention of snapshots over the rows of the database file. -/

namespace Rieko

open SqlValue StatefulResult

section Instants

variable {cutoff t : DateTime}

theorem instantText_below (four : t.FourDigitYear) (ended : cutoff.date.year ≤ 9999) :
    (instantText t).below (instantText cutoff) = decide (t < cutoff) := by
  rw [Bool.eq_iff_iff, decide_eq_true_eq, ← toRfc3339_lt_cutoff ended four, ← not_le]
  simp [instantText, below, le_text]

theorem RetentionPolicy.cutoffs_year (policy : RetentionPolicy) {now : DateTime} {cutoffs : DateTime × DateTime}
    (ended : now.date.year ≤ 9999) (found : policy.cutoffs now = some cutoffs) :
    cutoffs.1.date.year ≤ 9999 ∧ cutoffs.2.date.year ≤ 9999 := by
  have earlier {duration : StdDuration} {cutoff : DateTime}
      (subtracted : now.checkedSub ((TimeDelta.fromStd duration).getD 0) = some cutoff) : cutoff.date.year ≤ 9999 := by
    have positive : 0 ≤ (TimeDelta.fromStd duration).getD 0 := by
      unfold TimeDelta.fromStd
      split <;> simp
    unfold DateTime.checkedSub at subtracted
    split at subtracted <;> cases subtracted
    exact (DateTime.year_le_iff _).mpr ((Int.sub_le_self now positive).trans ((DateTime.year_le_iff now).mp ended))
  obtain ⟨active, first, rest⟩ := Option.bind_eq_some_iff.mp found
  obtain ⟨closed, second, done⟩ := Option.bind_eq_some_iff.mp rest
  cases done
  exact ⟨earlier first, earlier second⟩

end Instants

namespace TextTables

section Places

def placesWhere (condition : SqlRow × Nat → Bool) (rows : List SqlRow) : List Nat :=
  (rows.zipIdx.filter condition).map Prod.snd

/-- `NOT IN` is true of no null. -/
def stale (activeCutoff closedCutoff : DateTime) (row : SqlRow) : Bool :=
  let gone := [3, 4, 6, 7].any fun status => (row "status_int").equals (.integer status)
  ((row "ts").below (instantText activeCutoff) && row "status_int" ≠ .null && !gone) ||
    ((row "ts").below (instantText closedCutoff) && gone)

def newestRowsFirst (rows : List (SqlRow × Nat)) : List (SqlRow × Nat) :=
  rows.insertionSort fun a b => (b.1 "ts").le (a.1 "ts")

/-- The rows of one partition, in which null is null. -/
def sameChannel (a b : SqlRow) : Bool :=
  ["network_id", "node_id", "channel_id"].all fun column => (a column).is (b column)

def rowNumber (rows : List SqlRow) (row : SqlRow × Nat) : Nat :=
  (newestRowsFirst (rows.zipIdx.filter fun other => sameChannel other.1 row.1)).findIdx
    (fun other => other.2 = row.2) + 1

def beyondCap (cap : Int) (rows : List SqlRow) : List Nat := placesWhere (fun row => cap < rowNumber rows row) rows

def beyondTotal (total : Int) (rows : List SqlRow) : List Nat :=
  ((newestRowsFirst rows.zipIdx).map Prod.snd).drop total.toNat

def deleteSnapshots (places : List SqlRow → List Nat) (tables : TextTables) : TextTables × Nat :=
  let deleted := Ranking.deleteAt (places tables.channelSnapshots) tables.channelSnapshots
  ({ tables with channelSnapshots := deleted.1 }, deleted.2)

end Places

section Placed

variable {rows : List SqlRow} {snapshots : List ChannelSnapshot} {row : SqlRow × Nat} {snapshot : ChannelSnapshot × Nat}

abbrev Placed (snapshots : List ChannelSnapshot) : SqlRow × Nat → ChannelSnapshot × Nat → Prop :=
  Rows.AtOnePlace (SnapshotColumns written) snapshots

theorem stale_eq {activeCutoff closedCutoff : DateTime} (active : activeCutoff.date.year ≤ 9999)
    (closed : closedCutoff.date.year ≤ 9999) {row : SqlRow} {snapshot : ChannelSnapshot}
    (stands : SnapshotColumns written row snapshot) :
    stale activeCutoff closedCutoff row = Tables.stale activeCutoff closedCutoff snapshot := by
  unfold stale Tables.stale
  rw [stands.ts.1, stands.status, instantText_below stands.ts.2 active, instantText_below stands.ts.2 closed]
  cases snapshot.status <;> simp [Tables.statusInt, equals, is, le]

theorem sameChannel_eq {a b : SqlRow} {first second : ChannelSnapshot} (stands : SnapshotColumns written a first)
    (stands' : SnapshotColumns written b second) :
    sameChannel a b = decide (ChannelKey.of first = ChannelKey.of second) := by
  unfold sameChannel
  simp only [List.all_cons, List.all_nil, Bool.and_true]
  rw [stands.network, stands'.network, stands.nodeId, stands'.nodeId, stands.channelId, stands'.channelId,
    is_optionText,
    is_text, is_ofOption network_toString_injective, Bool.eq_iff_iff]
  simp only [Bool.and_eq_true, decide_eq_true_eq, ChannelKey.of, ChannelKey.mk.injEq]

theorem related_newestRowsFirst {placed : List (SqlRow × Nat)} {placed' : List (ChannelSnapshot × Nat)}
    (related : List.Forall₂ (Placed snapshots) placed placed') :
    List.Forall₂ (Placed snapshots) (newestRowsFirst placed) (Tables.newestRowsFirst placed') := by
  refine Rows.related_insertionSort (fun a b c d stands stands' => ?_) related
  rw [stands.row.ts.1, stands'.row.ts.1, instantText_le stands'.row.ts.2 stands.row.ts.2, decide_eq_true_eq]

theorem rowNumber_eq (related : List.Forall₂ (SnapshotColumns written) rows snapshots)
    (placed : Placed snapshots row snapshot) : rowNumber rows row = Tables.rowNumber snapshots snapshot := by
  have partition : List.Forall₂ (Placed snapshots) (rows.zipIdx.filter fun other => sameChannel other.1 row.1)
      (snapshots.zipIdx.filter fun other => ChannelKey.of other.1 = ChannelKey.of snapshot.1) :=
    Rows.related_filter (fun _ _ stands => sameChannel_eq stands.row placed.row) (Rows.related_zipIdx related)
  unfold rowNumber Tables.rowNumber
  exact congrArg (· + 1) (Rows.related_findIdx (fun other other' stands => stands.same_place placed)
    (related_newestRowsFirst partition))

theorem beyondCap_eq (cap : Int) (related : List.Forall₂ (SnapshotColumns written) rows snapshots) :
    beyondCap cap rows = Tables.beyondCap cap snapshots := by
  refine Rows.AtOnePlace.places (Rows.related_filter (fun row snapshot placed => ?_) (Rows.related_zipIdx related))
  rw [rowNumber_eq related placed]

theorem beyondTotal_eq (total : Int) (related : List.Forall₂ (SnapshotColumns written) rows snapshots) :
    beyondTotal total rows = Tables.beyondTotal total snapshots :=
  congrArg (List.drop total.toNat) (Rows.AtOnePlace.places (related_newestRowsFirst (Rows.related_zipIdx related)))

theorem staleRows_eq {activeCutoff closedCutoff : DateTime} (active : activeCutoff.date.year ≤ 9999)
    (closed : closedCutoff.date.year ≤ 9999) (related : List.Forall₂ (SnapshotColumns written) rows snapshots) :
    placesWhere (fun row => stale activeCutoff closedCutoff row.1) rows =
      Tables.placesWhere (fun row => Tables.stale activeCutoff closedCutoff row.1) snapshots :=
  Rows.AtOnePlace.places
    (Rows.related_filter (fun _ _ placed => stale_eq active closed placed.row) (Rows.related_zipIdx related))

end Placed

def PlacesAgree (places : List SqlRow → List Nat) (places' : List ChannelSnapshot → List Nat) : Prop :=
  ∀ rows snapshots, List.Forall₂ (SnapshotColumns written) rows snapshots → places rows = places' snapshots

theorem Stands.deleteSnapshots {text : RowText} {stored : TextTables} {tables : Tables}
    {places : List SqlRow → List Nat}
    {places' : List ChannelSnapshot → List Nat} (agree : PlacesAgree places places')
    (stands : Stands text stored tables) :
    Stands text (stored.deleteSnapshots places).1 (tables.deleteSnapshots places').1 ∧
      (stored.deleteSnapshots places).2 = (tables.deleteSnapshots places').2 := by
  have deleted := Rows.related_deleteAt (places' tables.channelSnapshots) stands.channelSnapshots
  unfold TextTables.deleteSnapshots Tables.deleteSnapshots
  rw [agree _ _ stands.channelSnapshots]
  exact ⟨{ stands with channelSnapshots := deleted.1 }, deleted.2⟩

end TextTables

namespace TextStorage

open SqlConnection TextTables

section Prune

-- `limit` is what the database returns of the places that a `LIMIT` without an order selects from.
variable (limit : List Nat → List Nat)

def pruneLoop (failure : String) (places : List SqlRow → List Nat) : Nat → TextM Nat
  | 0 => pure 0
  | fuel + 1 => do
    let n ← sql (fun e => .backend (failure ++ ": " ++ e)) (statement fun tables => .ok (tables.deleteSnapshots places))
    if n = 0 then return 0 else return n + (← pruneLoop failure places fuel)

def pruneWhere (failure : String) (places : List SqlRow → List Nat) : TextM Nat := do
  pruneLoop failure places ((← get).conn.tables.channelSnapshots.length + 1)

def pruneBeyond (failure : String) (places : Int → List SqlRow → List Nat) (cap : Option Nat) : TextM Nat :=
  match cap with
  | some cap => if 0 < cap then pruneWhere failure (places (asI64 cap)) else pure 0
  | none => pure 0

def pruneRows (policy : RetentionPolicy) (activeCutoff closedCutoff : DateTime) : TextM Nat := do
  let aged ← pruneWhere "pruning stale snapshots"
    fun rows => limit (placesWhere (fun row => stale activeCutoff closedCutoff row.1) rows)
  let capped ← pruneBeyond "pruning per-channel cap" (fun cap rows => limit (beyondCap cap rows))
    policy.maxSnapshotsPerChannel
  let totalled ← pruneBeyond "pruning total cap" (fun total rows => (beyondTotal total rows).take Tables.pruneChunk)
    policy.maxTotalSnapshots
  return aged + capped + totalled

/-- One transaction, which is rolled back where it is dropped. Nothing is returned on a panic. -/
def pruneChannelSnapshots (policy : RetentionPolicy) (now : DateTime) : TextM (Option PruneSummary) :=
  match policy.cutoffs now with
  | some (activeCutoff, closedCutoff) =>
    ladder starting committing dropped do
      let deleted ← pruneRows limit policy activeCutoff closedCutoff
      return some ⟨deleted, true⟩
  | none => do
    starting
    discard (attempt dropped)
    return none
where
  starting : TextM Unit := sql (fun e => .backend s!"starting cleanup: {e}") beginImmediate
  committing : TextM Unit := sql (fun e => .backend s!"committing cleanup: {e}") commit
  dropped : TextM Unit := sql .backend rollback

end Prune

end TextStorage

end Rieko
