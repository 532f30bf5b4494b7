import Rieko.Lib.Ranking
import Rieko.Lib.Transition
import Rieko.Storage.FindingRefinement

namespace Rieko

open Ranking StatefulResult

namespace SqliteStorage

open SqlConnection

def selectLatest (condition : Finding → Bool) (limit : Nat) : SqliteM (List Finding) :=
  sql .backend (query fun tables =>
    (latestFirst (·.timestamp) ((tables.findings.map (·.finding)).filter condition)).take limit)

def latestFindings (limit : Nat) : SqliteM (List Finding) := selectLatest (fun _ => true) limit

def latestFindingsByLifecycle (limit : Nat) : FindingLifecycleFilter → SqliteM (List Finding)
  | .active => selectLatest (fun finding => finding.lifecycle = .active) limit
  | .resolved => selectLatest (fun finding => finding.lifecycle = .resolved) limit
  | .all => latestFindings limit

variable {t : SqliteStorage}

theorem value_selectLatest (reliable : ∀ n, t.conn.fails n = none) (condition : Finding → Bool) (limit : Nat) :
    value (selectLatest condition limit) t =
      .ok ((latestFirst (·.timestamp) ((t.conn.tables.findings.map (·.finding)).filter condition)).take limit) := by
  unfold value selectLatest
  rw [sql_query reliable]

theorem value_latestFindings (reliable : ∀ n, t.conn.fails n = none) (limit : Nat) :
    value (latestFindings limit) t =
      .ok ((latestFirst (·.timestamp) (t.conn.tables.findings.map (·.finding))).take limit) := by
  unfold latestFindings
  rw [value_selectLatest reliable, List.filter_true]

theorem value_latestFindingsByLifecycle (reliable : ∀ n, t.conn.fails n = none) (limit : Nat)
    (lifecycle : FindingLifecycleFilter) :
    value (latestFindingsByLifecycle limit lifecycle) t =
      .ok ((latestFirst (·.timestamp)
        ((t.conn.tables.findings.map (·.finding)).filter (lifecycleMatches · lifecycle))).take limit) := by
  cases lifecycle with
  | active => exact value_selectLatest reliable _ limit
  | resolved => exact value_selectLatest reliable _ limit
  | all =>
    have matching : (lifecycleMatches · .all) = fun _ => true := rfl
    rw [matching, List.filter_true]
    exact value_latestFindings reliable limit

end SqliteStorage

/-- The newest of the matching findings up to a limit, in strictly falling order of their timestamps. -/
structure NewestFindings (limit : Nat) (matching answer : List Finding) : Prop where
  falling : answer.Pairwise fun a b => b.timestamp < a.timestamp
  newest : answer.Perm (foremost (later (·.timestamp)) limit matching)

structure LatestRight (stored : List Finding) (latest : Nat → Except StorageError (List Finding))
    (byLifecycle : Nat → FindingLifecycleFilter → Except StorageError (List Finding)) : Prop where
  latest : ∀ limit, ∃ answer, latest limit = .ok answer ∧ NewestFindings limit stored answer
  byLifecycle : ∀ limit lifecycle, ∃ answer, byLifecycle limit lifecycle = .ok answer ∧
    NewestFindings limit (stored.filter (lifecycleMatches · lifecycle)) answer

structure ListedAlike (s : MemoryStorage) (t : SqliteStorage) : Prop where
  memory : LatestRight s.findings (fun limit => value (MemoryStorage.latestFindings limit) s)
    fun limit lifecycle => value (MemoryStorage.latestFindingsByLifecycle limit lifecycle) s
  sqlite : LatestRight (t.conn.tables.findings.map (·.finding))
    (fun limit => value (SqliteStorage.latestFindings limit) t)
    fun limit lifecycle => value (SqliteStorage.latestFindingsByLifecycle limit lifecycle) t
  latest : ∀ limit, value (MemoryStorage.latestFindings limit) s = value (SqliteStorage.latestFindings limit) t
  byLifecycle : ∀ limit lifecycle, value (MemoryStorage.latestFindingsByLifecycle limit lifecycle) s =
    value (SqliteStorage.latestFindingsByLifecycle limit lifecycle) t

def Ascending (findings : List Finding) : Prop := findings.Pairwise fun a b => a.timestamp < b.timestamp

theorem Ascending.falling {findings : List Finding} (ascending : Ascending findings) :
    findings.reverse.Pairwise fun a b => later (fun finding : Finding => finding.timestamp) a b = true :=
  List.pairwise_reverse.mpr (ascending.imp fun before => decide_eq_true before)

theorem Ascending.filter {findings : List Finding} (ascending : Ascending findings) (condition : Finding → Bool) :
    Ascending (findings.filter condition) := ascending.sublist List.filter_sublist

theorem Ascending.latestFirst {findings : List Finding} (ascending : Ascending findings) :
    latestFirst (·.timestamp) findings = findings.reverse :=
  latestFirst_eq ascending.falling (List.reverse_perm findings)

theorem newestFindings_take {findings : List Finding} (distinct : (findings.map (·.timestamp)).Nodup) (limit : Nat) :
    NewestFindings limit findings ((latestFirst (·.timestamp) findings).take limit) where
  falling := ((pairwise_latestFirst distinct).sublist (List.take_sublist _ _)).imp fun higher =>
    of_decide_eq_true higher
  newest := take_latestFirst_perm distinct limit

theorem distinct_filter {findings : List Finding} (distinct : (findings.map (·.timestamp)).Nodup)
    (condition : Finding → Bool) : ((findings.filter condition).map (·.timestamp)).Nodup :=
  distinct.sublist (List.filter_sublist.map _)

section State

variable {s : MemoryStorage} {t : SqliteStorage}

theorem sqlite_latestRight (reliable : ∀ n, t.conn.fails n = none)
    (distinct : ((t.conn.tables.findings.map (·.finding)).map (·.timestamp)).Nodup) :
    LatestRight (t.conn.tables.findings.map (·.finding)) (fun limit => value (SqliteStorage.latestFindings limit) t)
      fun limit lifecycle => value (SqliteStorage.latestFindingsByLifecycle limit lifecycle) t where
  latest limit := ⟨_, SqliteStorage.value_latestFindings reliable limit, newestFindings_take distinct limit⟩
  byLifecycle limit lifecycle := ⟨_, SqliteStorage.value_latestFindingsByLifecycle reliable limit lifecycle,
    newestFindings_take (distinct_filter distinct _) limit⟩

theorem listedAlike_iff (reliable : ∀ n, t.conn.fails n = none)
    (unique : Rows.Keyed Finding.id s.findings)
    (distinct : ((t.conn.tables.findings.map (·.finding)).map (·.timestamp)).Nodup)
    (ids : s.findings.map Finding.id = (t.conn.tables.findings.map (·.finding)).map Finding.id) :
    ListedAlike s t ↔ s.findings = t.conn.tables.findings.map (·.finding) ∧ Ascending s.findings := by
  constructor
  · intro alike
    rcases alike.memory.latest s.findings.length with ⟨answer, listed, newest⟩
    have whole : answer = s.findings.reverse := by
      have read : s.findings.reverse.take s.findings.length = answer := Except.ok.inj listed
      rw [← read, List.take_of_length_le (by simp)]
    have falling := newest.falling
    rw [whole, List.pairwise_reverse] at falling
    refine ⟨?_, falling⟩
    have same := alike.latest s.findings.length
    rw [SqliteStorage.value_latestFindings reliable] at same
    have lengths := congrArg List.length ids
    rw [List.length_map, List.length_map] at lengths
    have read := Except.ok.inj same
    rw [List.take_of_length_le (by simp), List.take_of_length_le
      (by rw [(latestFirst_perm _ _).length_eq, lengths])] at read
    have perm : s.findings.Perm (t.conn.tables.findings.map (·.finding)) := by
      refine (List.reverse_perm s.findings).symm.trans ?_
      rw [read]
      exact latestFirst_perm _ _
    have unique' : Rows.Keyed Finding.id (t.conn.tables.findings.map (·.finding)) := by
      unfold Rows.Keyed at *
      rwa [← ids]
    refine Rows.ext_lookup unique ids fun id => Option.ext fun finding => ?_
    constructor
    · intro found
      have member := perm.mem_iff.mp (Rows.mem_of_lookup found)
      rw [← Rows.key_of_lookup found]
      exact Rows.lookup_of_mem unique' member
    · intro found
      have member := perm.mem_iff.mpr (Rows.mem_of_lookup found)
      rw [← Rows.key_of_lookup found]
      exact Rows.lookup_of_mem unique member
  · rintro ⟨same, ascending⟩
    have right := sqlite_latestRight reliable distinct
    have latest (limit : Nat) :
        value (MemoryStorage.latestFindings limit) s = value (SqliteStorage.latestFindings limit) t := by
      rw [SqliteStorage.value_latestFindings reliable, ← same, ascending.latestFirst]
      rfl
    have byLifecycle (limit : Nat) (lifecycle : FindingLifecycleFilter) :
        value (MemoryStorage.latestFindingsByLifecycle limit lifecycle) s =
          value (SqliteStorage.latestFindingsByLifecycle limit lifecycle) t := by
      rw [SqliteStorage.value_latestFindingsByLifecycle reliable, ← same, (ascending.filter _).latestFirst,
        ← List.filter_reverse]
      rfl
    refine ⟨⟨fun limit => ?_, fun limit lifecycle => ?_⟩, right, latest, byLifecycle⟩
    · rw [latest, same]
      exact right.latest limit
    · rw [byLifecycle, same]
      exact right.byLifecycle limit lifecycle

end State

def storeFinding (finding : Finding) (findings : List Finding) : List Finding :=
  Rows.upsert Finding.id { finding with firstSeenAt := earliestFirstSeen findings finding, lifecycle := .active }
    (fun existing => existing.reobserve finding (earliestFirstSeen findings finding)) findings

def Finding.unsettled (finding : Finding) : Finding := { finding with lifecycle := .active }

namespace FindingOp

def saved (ops : List FindingOp) : List Finding :=
  ops.filterMap fun op => match op with
    | save finding => some finding
    | resolve _ => none

@[simp] theorem saved_append (past future : List FindingOp) : saved (past ++ future) = saved past ++ saved future :=
  List.filterMap_append

theorem runAll_append {σ : Type} [Storage σ] (past future : List FindingOp) (s : σ) :
    runAll (past ++ future) s = runAll future (runAll past s) := List.foldl_append

/-- What a call does to the stored findings in either backend: a resolving cycle changes lifecycles alone. -/
def Changes : FindingOp → List Finding → List Finding → Prop
  | save finding, before, after => after = match validateFindingSchema finding.schemaVersion with
    | .ok () => storeFinding finding before
    | .error _ => before
  | resolve _, before, after => after.map Finding.unsettled = before.map Finding.unsettled

/-- A new finding is newer than all that are stored, and a re-observation that takes effect stays on the same side of
    every other finding. -/
def PlaceKept (findings : List Finding) (finding : Finding) : Option Finding → Prop
  | none => ∀ other ∈ findings, other.timestamp < finding.timestamp
  | some existing => existing.lastSeenAt ≤ finding.lastSeenAt → ∀ other ∈ findings, other.id ≠ finding.id →
    (other.timestamp < existing.timestamp ↔ other.timestamp < finding.timestamp)

def KeepsPlaces (findings : List Finding) : FindingOp → Prop
  | save finding => validateFindingSchema finding.schemaVersion = .ok () →
    PlaceKept findings finding (Rows.lookup Finding.id findings finding.id)
  | resolve _ => True

def ids (op : FindingOp) (before : List String) : List String := match op with
  | save finding => match validateFindingSchema finding.schemaVersion with
    | .ok () => Rows.upsert (fun id => id) finding.id (fun id => id) before
    | .error _ => before
  | resolve _ => before

/-- The absences that the two backends have counted of a finding settle it in both or in neither. -/
def SettlesAlike (s : MemoryStorage) (t : SqliteStorage) : FindingOp → Prop
  | save _ => True
  | resolve scope => scope.complete = true → ∀ row ∈ t.conn.tables.findings, scope.covers row.finding = true →
    row.finding.lifecycle = .active → (2 ≤ s.absence row.id ↔ 2 ≤ row.consecutiveAbsent)

instance PlaceKept.decidable (findings : List Finding) (finding : Finding) :
    ∀ known : Option Finding, Decidable (PlaceKept findings finding known)
  | none => inferInstanceAs (Decidable (∀ _ ∈ _, _))
  | some _ => inferInstanceAs (Decidable (_ → _))

instance KeepsPlaces.decidable (findings : List Finding) : ∀ op : FindingOp, Decidable (op.KeepsPlaces findings)
  | save finding =>
    match valid : validateFindingSchema finding.schemaVersion with
    | .ok () => decidable_of_iff _ ⟨fun kept _ => kept, fun keeps => keeps valid⟩
    | .error _ => .isTrue fun ok => nomatch valid.symm.trans ok
  | resolve _ => .isTrue trivial

instance SettlesAlike.decidable (s : MemoryStorage) (t : SqliteStorage) : 
    ∀ op : FindingOp, Decidable (op.SettlesAlike s t)
  | save _ => .isTrue trivial
  | resolve scope => inferInstanceAs (Decidable (scope.complete = true → ∀ row ∈ t.conn.tables.findings,
      scope.covers row.finding = true → row.finding.lifecycle = .active →
        (2 ≤ s.absence row.id ↔ 2 ≤ row.consecutiveAbsent)))

theorem resolveFindings_unsettled (scope : FindingCycleScope) (findings : List Finding) (absent : HashMap Nat) :
    (resolveFindings scope findings absent).1.map Finding.unsettled = findings.map Finding.unsettled := by
  induction findings generalizing absent with
  | nil => rfl
  | cons finding findings ih =>
    have head : (resolveFinding scope absent finding).1.unsettled = finding.unsettled := by
      rw [resolveFinding_finding]
      rcases Tracked.resolve_finding scope ⟨finding, absentCount absent finding.id⟩ with ⟨lifecycle, same⟩
      rw [same]
      rfl
    rw [resolveFindings, List.map_cons, List.map_cons, ih, head]

theorem changes_memory (op : FindingOp) (s : MemoryStorage) :
    op.Changes s.findings (final (op.run MemoryStorage) s).findings := by
  cases op with
  | save finding =>
    show (final (MemoryStorage.saveFinding finding) s).findings = _
    unfold final MemoryStorage.saveFinding
    cases validateFindingSchema finding.schemaVersion <;> rfl
  | resolve scope =>
    show (s.resolveScope scope).findings.map Finding.unsettled = _
    unfold MemoryStorage.resolveScope
    split
    · exact resolveFindings_unsettled scope s.findings s.findingAbsent
    · rfl

theorem insertFinding_findings (tables : Tables) (finding : Finding) :
    (tables.insertFinding finding).findings.map (·.finding) = storeFinding finding
    (tables.findings.map (·.finding)) := by
  have firstSeen := excluded_firstSeen tables.findings finding
  unfold Tables.insertFinding storeFinding
  simp only [firstSeen]
  exact Rows.map_upsert (fun _ => rfl) fun row => row.onConflict_finding _

theorem changes_sqlite (op : FindingOp) {t : SqliteStorage} (reliable : ∀ n, t.conn.fails n = none) :
    (∀ n, (final (op.run SqliteStorage) t).conn.fails n = none) ∧
      op.Changes (t.conn.tables.findings.map (·.finding))
        ((final (op.run SqliteStorage) t).conn.tables.findings.map (·.finding)) := by
  cases op with
  | save finding =>
    show (∀ n, (final (SqliteStorage.saveFinding finding) t).conn.fails n = none) ∧
      (final (SqliteStorage.saveFinding finding) t).conn.tables.findings.map (·.finding) = _
    unfold final SqliteStorage.saveFinding
    cases validateFindingSchema finding.schemaVersion with
    | error e => exact ⟨reliable, rfl⟩
    | ok _ =>
      simp only [SqliteStorage.sql_execute reliable]
      exact ⟨reliable, insertFinding_findings t.conn.tables finding⟩
  | resolve scope =>
    show (∀ n, (final (SqliteStorage.resolveFindingsForScope scope) t).conn.fails n = none) ∧
      ((final (SqliteStorage.resolveFindingsForScope scope) t).conn.tables.findings.map (·.finding)).map
        Finding.unsettled = _
    unfold final
    rw [SqliteStorage.resolveFindingsForScope_run reliable]
    dsimp only
    by_cases complete : scope.complete = true
    · rw [if_pos complete]
      refine ⟨reliable, ?_⟩
      rw [updates_eq, List.map_map, List.map_map, List.map_map]
      refine List.map_congr_left fun row _ => ?_
      rcases Tracked.resolve_finding scope row.tracked with ⟨lifecycle, same⟩
      show (row.tracked.resolve scope).finding.unsettled = _
      rw [same]
      rfl
    · rw [if_neg complete]
      exact ⟨reliable, rfl⟩

theorem storeFinding_new {finding : Finding} {findings : List Finding}
    (new : ∀ other ∈ findings, other.id ≠ finding.id) :
    ∃ stored, stored.timestamp = finding.timestamp ∧ storeFinding finding findings = findings ++ [stored] := by
  refine ⟨{ finding with firstSeenAt := earliestFirstSeen findings finding, lifecycle := .active }, rfl,
    Rows.upsert_of_new fun member => ?_⟩
  rcases List.mem_map.mp member with ⟨other, stored, same⟩
  exact new other stored same

theorem storeFinding_known {finding : Finding} {findings : List Finding} (unique : Rows.Keyed Finding.id findings)
    (known : finding.id ∈ findings.map Finding.id) : storeFinding finding findings = findings.map fun existing =>
      if existing.id = finding.id then existing.reobserve finding (earliestFirstSeen findings finding) else existing :=
  Rows.upsert_of_stored unique known

theorem ascending_append {finding : Finding} {findings : List Finding} (ascending : Ascending findings)
    (new : ∀ other ∈ findings, other.id ≠ finding.id) :
    Ascending (storeFinding finding findings) ↔ ∀ other ∈ findings, other.timestamp < finding.timestamp := by
  rcases storeFinding_new new with ⟨stored, instant, appended⟩
  rw [appended, ← instant]
  refine List.pairwise_append.trans ⟨fun parts other listed => ?_, fun older => ?_⟩
  · exact parts.2.2 other listed stored List.mem_cons_self
  · refine ⟨ascending, List.pairwise_singleton _ _, fun other listed last member => ?_⟩
    rw [List.mem_singleton.mp member]
    exact older other listed

theorem reobserve_timestamp (existing finding : Finding) (firstSeenAt : DateTime) :
    (existing.reobserve finding firstSeenAt).timestamp =
      if existing.lastSeenAt ≤ finding.lastSeenAt then finding.timestamp else existing.timestamp := by
  unfold Finding.reobserve
  split <;> rfl

theorem ascending_reobserve {finding existing : Finding} {findings : List Finding}
    (unique : Rows.Keyed Finding.id findings) (ascending : Ascending findings)
    (found : Rows.lookup Finding.id findings finding.id = some existing)
    (fresh : ∀ other ∈ findings, other.timestamp ≠ finding.timestamp) :
    Ascending (storeFinding finding findings) ↔ (existing.lastSeenAt ≤ finding.lastSeenAt →
      ∀ other ∈ findings, other.id ≠ finding.id →
        (other.timestamp < existing.timestamp ↔ other.timestamp < finding.timestamp)) := by
  have named := Rows.key_of_lookup found
  have member := Rows.mem_of_lookup found
  have only (other : Finding) (listed : other ∈ findings) (same : other.id = finding.id) : other = existing := by
    have looked := Rows.lookup_of_mem unique listed
    rw [same, found] at looked
    exact (Option.some.inj looked).symm
  have distinct : (findings.map (·.timestamp)).Nodup := List.pairwise_map.mpr (ascending.imp fun less => less.ne)
  let place (other : Finding) : DateTime :=
    if other.id = finding.id then if existing.lastSeenAt ≤ finding.lastSeenAt then finding.timestamp
      else existing.timestamp
    else other.timestamp
  have placed : (storeFinding finding findings).map (·.timestamp) = findings.map place := by
    rw [storeFinding_known unique (named ▸ List.mem_map_of_mem member), List.map_map]
    refine List.map_congr_left fun other listed => ?_
    by_cases same : other.id = finding.id
    · rw [only other listed same]
      simp only [Function.comp_apply, if_pos named, reobserve_timestamp, place]
    · simp only [Function.comp_apply, if_neg same, place]
  have order : Ascending (storeFinding finding findings) ↔
      ∀ a ∈ findings, ∀ b ∈ findings, a.timestamp < b.timestamp → place a < place b := by
    rw [← pairwise_iff_of_ascending (fun _ _ less => less.asymm) ascending, Ascending, ← List.pairwise_map,
      placed, List.pairwise_map]
  rw [order]
  by_cases effective : existing.lastSeenAt ≤ finding.lastSeenAt
  · have moved : place existing = finding.timestamp := by simp only [place, if_pos named, if_pos effective]
    have left (other : Finding) (differs : other.id ≠ finding.id) : place other = other.timestamp := if_neg differs
    constructor
    · intro keeps _ other listed differs
      refine ⟨fun before => ?_, fun before => ?_⟩
      · have still := keeps other listed existing member before
        rwa [left other differs, moved] at still
      · by_contra notBefore
        have apart : existing.timestamp ≠ other.timestamp := fun same =>
          differs (List.inj_on_of_nodup_map distinct member listed same ▸ named)
        have still := keeps existing member other listed (lt_of_le_of_ne (not_lt.mp notBefore) apart)
        rw [left other differs, moved] at still
        exact still.asymm before
    · intro sides a listedA b listedB less
      by_cases sameA : a.id = finding.id
      · have first := only a listedA sameA
        have differs : b.id ≠ finding.id := fun sameB => less.ne (by rw [first, only b listedB sameB])
        rw [first] at less
        rw [first, moved, left b differs]
        have notBefore := mt (sides effective b listedB differs).mpr less.asymm
        exact lt_of_le_of_ne (not_lt.mp notBefore) (fresh b listedB).symm
      · by_cases sameB : b.id = finding.id
        · rw [only b listedB sameB] at less ⊢
          rw [moved, left a sameA]
          exact (sides effective a listedA sameA).mp less
        · rwa [left a sameA, left b sameB]
  · have still (other : Finding) (listed : other ∈ findings) : place other = other.timestamp := by
      by_cases same : other.id = finding.id
      · rw [only other listed same]
        simp only [place, if_pos named, if_neg effective]
      · exact if_neg same
    refine iff_of_true (fun a listedA b listedB less => ?_) fun taken => absurd taken effective
    rwa [still a listedA, still b listedB]

section Changes

variable {op : FindingOp} {before after : List Finding}

theorem mem_of_changes (changes : op.Changes before after) {finding : Finding} (member : finding ∈ after) :
    (∃ source ∈ before, source.id = finding.id ∧ source.timestamp = finding.timestamp) ∨
      ∃ source, op = save source ∧ source.id = finding.id ∧ source.timestamp = finding.timestamp := by
  cases op with
  | save new =>
    cases valid : validateFindingSchema new.schemaVersion with
    | error e =>
      rw [Changes, valid] at changes
      rw [changes] at member
      exact .inl ⟨finding, member, rfl, rfl⟩
    | ok _ =>
      rw [Changes, valid] at changes
      rw [changes] at member
      rcases Rows.mem_upsert member with stored | rfl | ⟨existing, stored, named, rfl⟩
      · exact .inl ⟨finding, stored, rfl, rfl⟩
      · exact .inr ⟨new, rfl, rfl, rfl⟩
      · unfold Finding.reobserve
        split
        · exact .inr ⟨new, rfl, named.symm, rfl⟩
        · exact .inl ⟨existing, stored, rfl, rfl⟩
  | resolve scope =>
    have bare : finding.unsettled ∈ after.map Finding.unsettled := List.mem_map_of_mem member
    rw [changes] at bare
    rcases List.mem_map.mp bare with ⟨source, stored, same⟩
    have ids := congrArg Finding.id same
    have instants := congrArg Finding.timestamp same
    exact .inl ⟨source, stored, ids, instants⟩

theorem ids_of_changes (changes : op.Changes before after) : after.map Finding.id = op.ids (before.map Finding.id) := by
  cases op with
  | save finding =>
    show after.map Finding.id = match validateFindingSchema finding.schemaVersion with
      | .ok () => Rows.upsert (fun id => id) finding.id (fun id => id) (before.map Finding.id)
      | .error _ => before.map Finding.id
    rw [changes]
    cases validateFindingSchema finding.schemaVersion with
    | error e => rfl
    | ok _ => exact Rows.map_upsert (fun _ => rfl) fun existing => existing.reobserve_id finding _
  | resolve scope =>
    have ids := congrArg (List.map Finding.id) changes
    rwa [List.map_map, List.map_map] at ids

theorem keyed_of_changes (changes : op.Changes before after) (unique : Rows.Keyed Finding.id before) :
    Rows.Keyed Finding.id after := by
  cases op with
  | save finding =>
    rw [changes]
    cases validateFindingSchema finding.schemaVersion with
    | error e => exact unique
    | ok _ => exact Rows.keyed_upsert (fun existing => existing.reobserve_id finding _) unique
  | resolve scope =>
    unfold Rows.Keyed
    rw [ids_of_changes changes]
    exact unique

theorem ascending_of_changes (changes : op.Changes before after) (unique : Rows.Keyed Finding.id before)
    (ascending : Ascending before)
    (fresh : ∀ finding, op = save finding → ∀ other ∈ before, other.timestamp ≠ finding.timestamp) :
    Ascending after ↔ op.KeepsPlaces before := by
  cases op with
  | save finding =>
    rw [Changes] at changes
    cases valid : validateFindingSchema finding.schemaVersion with
    | error e =>
      rw [valid] at changes
      rw [changes]
      exact iff_of_true ascending fun ok => by rw [valid] at ok; cases ok
    | ok _ =>
      rw [valid] at changes
      have condition : (save finding).KeepsPlaces before ↔
          PlaceKept before finding (Rows.lookup Finding.id before finding.id) :=
        ⟨fun keeps => keeps valid, fun kept _ => kept⟩
      rw [condition, changes]
      cases found : Rows.lookup Finding.id before finding.id with
      | none => exact ascending_append ascending (Rows.lookup_eq_none.mp found)
      | some existing => exact ascending_reobserve unique ascending found (fresh finding rfl)
  | resolve scope =>
    refine iff_of_true ?_ trivial
    have instants := congrArg (List.map Finding.timestamp) changes
    rw [List.map_map, List.map_map] at instants
    have same : after.map Finding.timestamp = before.map Finding.timestamp := instants
    refine List.pairwise_map.mp ?_
    rw [same]
    exact List.pairwise_map.mpr ascending

end Changes

end FindingOp

structure Traced (past : List FindingOp) (findings : List Finding) : Prop where
  unique : Rows.Keyed Finding.id findings
  source : ∀ finding ∈ findings, ∃ saved ∈ FindingOp.saved past, saved.id = finding.id ∧
    saved.timestamp = finding.timestamp

namespace Traced

open FindingOp

variable {past : List FindingOp} {findings after : List Finding} {op : FindingOp}

theorem step (traced : Traced past findings) (changes : op.Changes findings after) : Traced (past ++ [op]) after where
  unique := keyed_of_changes changes traced.unique
  source finding member := by
    rw [saved_append]
    rcases mem_of_changes changes member with ⟨before, stored, named, instant⟩ | ⟨new, rfl, named, instant⟩
    · rcases traced.source before stored with ⟨first, known, named', instant'⟩
      exact ⟨first, List.mem_append_left _ known, named'.trans named, instant'.trans instant⟩
    · exact ⟨new, List.mem_append_right _ List.mem_cons_self, named, instant⟩

theorem distinct (traced : Traced past findings) (apart : ((saved past).map (·.timestamp)).Nodup) :
    (findings.map (·.timestamp)).Nodup := by
  refine List.Nodup.map_on (fun a memberA b memberB same => ?_) (List.Nodup.of_map _ traced.unique)
  rcases traced.source a memberA with ⟨first, knownA, namedA, instantA⟩
  rcases traced.source b memberB with ⟨second, knownB, namedB, instantB⟩
  have one : first = second := List.inj_on_of_nodup_map apart knownA knownB (by rw [instantA, instantB, same])
  have ids : a.id = b.id := by rw [← namedA, ← namedB, one]
  exact List.inj_on_of_nodup_map traced.unique memberA memberB ids

theorem fresh (traced : Traced past findings) {finding : Finding}
    (apart : ((saved (past ++ [save finding])).map (·.timestamp)).Nodup) :
    ∀ other ∈ findings, other.timestamp ≠ finding.timestamp := by
  intro other member same
  rcases traced.source other member with ⟨first, known, -, instant⟩
  rw [saved_append, List.map_append] at apart
  have disjoint := (List.nodup_append.mp apart).2.2
  exact disjoint _ (List.mem_map_of_mem known) finding.timestamp (by simp [saved]) (instant.trans same)

end Traced

structure Reached (past : List FindingOp) (s : MemoryStorage) (t : SqliteStorage) : Prop where
  reliable : ∀ n, t.conn.fails n = none
  memory : Traced past s.findings
  sqlite : Traced past (t.conn.tables.findings.map (·.finding))
  ids : s.findings.map Finding.id = (t.conn.tables.findings.map (·.finding)).map Finding.id

theorem reached (past : List FindingOp) :
    Reached past (FindingOp.runAll past MemoryStorage.new) (FindingOp.runAll past SqliteStorage.empty) := by
  induction past using List.reverseRecOn with
  | nil =>
    have none : Traced [] [] := ⟨List.nodup_nil, fun _ member => absurd member List.not_mem_nil⟩
    exact ⟨fun _ => rfl, none, none, rfl⟩
  | append_singleton past op ih =>
    rw [FindingOp.runAll_append, FindingOp.runAll_append]
    rcases op.changes_sqlite ih.reliable with ⟨reliable, changed⟩
    have changes := op.changes_memory (FindingOp.runAll past MemoryStorage.new)
    have ids := (FindingOp.ids_of_changes changes).trans
      ((congrArg op.ids ih.ids).trans (FindingOp.ids_of_changes changed).symm)
    exact ⟨reliable, ih.memory.step changes, ih.sqlite.step changed, ids⟩

theorem Tracked.resolve_alike {scope : FindingCycleScope} {finding : Finding} {first second : Nat} :
    (Tracked.resolve scope ⟨finding, first⟩).finding = (Tracked.resolve scope ⟨finding, second⟩).finding ↔
      (scope.covers finding = true → finding.lifecycle = .active → (2 ≤ first ↔ 2 ≤ second)) := by
  unfold Tracked.resolve
  by_cases touched : scope.covers finding = true ∧ finding.lifecycle = .active
  · have differ : ¬{ finding with lifecycle := FindingLifecycle.resolved } = finding := fun same => by
      have resolved := congrArg Finding.lifecycle same
      rw [touched.2] at resolved
      cases resolved
    have counts : (scope.covers finding = true → finding.lifecycle = .active → (2 ≤ first ↔ 2 ≤ second)) ↔
        (3 ≤ first + 1 ↔ 3 ≤ second + 1) :=
      ⟨fun alike => by have := alike touched.1 touched.2; omega, fun alike _ _ => by omega⟩
    rw [if_pos touched, if_pos touched, counts]
    by_cases reached : 3 ≤ first + 1 <;> by_cases reached' : 3 ≤ second + 1
    · simp [reached, reached']
    · simp [reached, reached', differ]
    · simp [reached, reached', Ne.symm differ]
    · simp [reached, reached']
  · rw [if_neg touched, if_neg touched]
    exact iff_of_true rfl fun covered active => absurd ⟨covered, active⟩ touched

theorem resolveScope_findings {s : MemoryStorage} (unique : Rows.Keyed Finding.id s.findings)
    {scope : FindingCycleScope} (complete : scope.complete = true) : (s.resolveScope scope).findings =
      s.findings.map fun finding => (Tracked.resolve scope ⟨finding, s.absence finding.id⟩).finding := by
  have keys (finding : Finding) : (Tracked.resolve scope ⟨finding, s.absence finding.id⟩).finding.id = finding.id :=
    Tracked.resolve_id scope _
  refine Rows.ext_lookup (MemoryStorage.keyed_resolveScope unique scope) ?_ fun id => ?_
  · have ids : (s.resolveScope scope).findings.map Finding.id = s.findings.map Finding.id :=
      FindingOp.ids_of_changes (FindingOp.changes_memory (.resolve scope) s)
    rw [ids, List.map_map]
    exact (List.map_congr_left fun finding _ => keys finding).symm
  · have found := MemoryStorage.stored_resolveScope unique complete id
    rw [Rows.lookup_map keys]
    refine found.trans (Option.map_congr fun finding stored => ?_)
    rw [MemoryStorage.stored_id stored]

theorem same_of_step {s : MemoryStorage} {t : SqliteStorage} (op : FindingOp) (reliable : ∀ n, t.conn.fails n = none)
    (unique : Rows.Keyed Finding.id s.findings)
    (same : s.findings = t.conn.tables.findings.map (·.finding)) :
    (final (op.run MemoryStorage) s).findings =
        (final (op.run SqliteStorage) t).conn.tables.findings.map (·.finding) ↔ op.SettlesAlike s t := by
  cases op with
  | save finding =>
    have memory := FindingOp.changes_memory (.save finding) s
    have sqlite := (FindingOp.changes_sqlite (.save finding) reliable).2
    rw [FindingOp.Changes] at memory sqlite
    refine iff_of_true ?_ trivial
    rw [memory, sqlite, same]
  | resolve scope =>
    show (s.resolveScope scope).findings =
      (final (SqliteStorage.resolveFindingsForScope scope) t).conn.tables.findings.map (·.finding) ↔ _
    unfold final
    rw [SqliteStorage.resolveFindingsForScope_run reliable]
    dsimp only
    by_cases complete : scope.complete = true
    · rw [resolveScope_findings unique complete, if_pos complete, updates_eq, same, List.map_map, List.map_map,
        List.map_inj_left]
      refine ⟨fun alike _ row member => Tracked.resolve_alike.mp (alike row member),
        fun alike row member => Tracked.resolve_alike.mpr (alike complete row member)⟩
    · rw [if_neg complete, MemoryStorage.resolveScope, if_neg complete]
      exact iff_of_true same fun also => absurd also complete

open FindingOp

theorem listedAlike_runs_iff {ops : List FindingOp} (apart : ((saved ops).map (·.timestamp)).Nodup) :
    (∀ past future, ops = past ++ future →
      ListedAlike (runAll past MemoryStorage.new) (runAll past SqliteStorage.empty)) ↔
    ∀ past op future, ops = past ++ op :: future → op.KeepsPlaces (runAll past MemoryStorage.new).findings ∧
      op.SettlesAlike (runAll past MemoryStorage.new) (runAll past SqliteStorage.empty) := by
  have level (past future : List FindingOp) (split : ops = past ++ future) := by
    have known := reached past
    have part : ((saved past).map (·.timestamp)).Nodup := by
      rw [split, saved_append, List.map_append] at apart
      exact (List.nodup_append.mp apart).1
    exact listedAlike_iff known.reliable known.memory.unique (known.sqlite.distinct part) known.ids
  refine Transition.fronts_iff ((level [] ops rfl).mpr ⟨rfl, List.Pairwise.nil⟩) fun past op future split alike => ?_
  have known := reached past
  rw [level past (op :: future) split] at alike
  rcases alike with ⟨same, ascending⟩
  rw [level (past ++ [op]) future (by simp [split]), runAll_append, runAll_append, and_comm]
  refine and_congr ?_ (same_of_step op known.reliable known.memory.unique same)
  refine ascending_of_changes (op.changes_memory _) known.memory.unique ascending ?_
  rintro finding rfl
  refine known.memory.fresh ?_
  have front : ops = past ++ [save finding] ++ future := by simp [split]
  rw [front, saved_append, List.map_append] at apart
  exact (List.nodup_append.mp apart).1

end Rieko
