import Rieko.Storage.MemoryFindings
import Rieko.Storage.MemoryRecords
import Rieko.Storage.Sqlite

namespace Rieko

open StatefulResult SqlConnection

inductive FindingOp where
  | save (finding : Finding)
  | resolve (scope : FindingCycleScope)

namespace FindingOp

def run (σ : Type) [Storage σ] : FindingOp → EStateM StorageError σ Unit
  | save finding => Storage.saveFinding finding
  | resolve scope => Storage.resolveFindingsForScope scope

def runAll {σ : Type} [Storage σ] (ops : List FindingOp) (s : σ) : σ :=
  ops.foldl (fun s op => final (op.run σ) s) s

/-- The call re-observes a finding that an earlier cycle missed, with an observation older than the
    stored one. -/
def StaleWhileAbsent (s : MemoryStorage) : FindingOp → Prop
  | save finding => ∃ existing, s.stored finding.id = some existing ∧
      finding.lastSeenAt < existing.lastSeenAt ∧ s.absence finding.id ≠ 0
  | resolve _ => False

/-- No call of the sequence is a stale re-observation of a finding that is being counted as absent. -/
def InStep : List FindingOp → MemoryStorage → Prop
  | [], _ => True
  | op :: ops, s => ¬op.StaleWhileAbsent s ∧ InStep ops (final (op.run MemoryStorage) s)

end FindingOp

def SqliteStorage.empty : SqliteStorage where
  conn := { tables := {} }

namespace FindingRow

def tracked (row : FindingRow) : Tracked := ⟨row.finding, row.consecutiveAbsent⟩

theorem onConflict_finding (row excluded : FindingRow) :
    (row.onConflict excluded).finding = row.finding.reobserve excluded.finding excluded.finding.firstSeenAt := by
  unfold onConflict Finding.reobserve
  by_cases fresh : row.finding.lastSeenAt ≤ excluded.finding.lastSeenAt
  · simp [fresh]
  · simp [fresh, max_eq_left (le_of_not_ge fresh)]

theorem onConflict_count (row excluded : FindingRow) :
    (row.onConflict excluded).consecutiveAbsent =
      if row.finding.lastSeenAt ≤ excluded.finding.lastSeenAt then 0 else row.consecutiveAbsent := by
  unfold onConflict
  by_cases fresh : row.finding.lastSeenAt ≤ excluded.finding.lastSeenAt <;> simp [fresh]

@[simp] theorem onConflict_id (row excluded : FindingRow) : (row.onConflict excluded).id = row.id := rfl

def afterUpdates (scope : FindingCycleScope) (row : FindingRow) : FindingRow :=
  ⟨(row.tracked.resolve scope).finding, (row.tracked.resolve scope).absent⟩

theorem inScope_iff {scope : FindingCycleScope} {row : FindingRow} :
    row.inScope scope = true ↔ scope.covers row.finding = true ∧ row.finding.lifecycle = .active := by
  simp only [inScope, FindingCycleScope.covers, decide_eq_true_eq]
  tauto

end FindingRow

theorem updates_eq (scope : FindingCycleScope) (tables : Tables) :
    (Tables.countAbsentFindings scope (Tables.resolveAbsentFindings scope tables)).findings =
      tables.findings.map (FindingRow.afterUpdates scope) := by
  unfold Tables.countAbsentFindings Tables.resolveAbsentFindings Rows.updateWhere
  rw [List.map_map]
  refine List.map_congr_left fun row _ => ?_
  simp only [Function.comp_apply]
  by_cases inside : row.inScope scope = true
  · obtain ⟨covered, active⟩ := FindingRow.inScope_iff.mp inside
    by_cases reached : 2 ≤ row.consecutiveAbsent
    · have gone : FindingRow.inScope scope ⟨{ row.finding with lifecycle := .resolved }, 0⟩ = false := by
        simp [FindingRow.inScope]
      simp only [inside, reached, decide_true, Bool.and_true, if_true, gone, Bool.false_and,
        Bool.false_eq_true, if_false, FindingRow.afterUpdates, Tracked.resolve, FindingRow.tracked, covered,
        active, and_self, Nat.succ_le_succ reached]
    · simp [inside, reached, FindingRow.afterUpdates, Tracked.resolve, FindingRow.tracked, covered, active,
        Nat.lt_of_not_le reached]
  · have outside : ¬(scope.covers row.finding = true ∧ row.finding.lifecycle = .active) :=
      fun also => inside (FindingRow.inScope_iff.mpr also)
    have left : row.tracked.resolve scope = row.tracked := if_neg outside
    simp only [inside, Bool.false_and, Bool.false_eq_true, if_false, FindingRow.afterUpdates, left]
    rfl

theorem foldl_min_eq (first : DateTime) (others : List DateTime) :
    others.foldl min first = min first (others.min?.getD first) := by
  cases others with
  | nil => simp
  | cons other others =>
    rw [List.min?_cons', List.foldl_cons]
    exact List.foldl_assoc

theorem excluded_firstSeen (rows : List FindingRow) (finding : Finding) :
    min finding.firstSeenAt ((((rows.filter fun row =>
      row.finding.detector = finding.detector ∧ row.finding.detectorVersion = finding.detectorVersion ∧
        row.finding.node = finding.node ∧ row.finding.channel = finding.channel ∧
        row.finding.network = finding.network).map (·.finding.firstSeenAt)).min?).getD finding.firstSeenAt) =
      earliestFirstSeen (rows.map (·.finding)) finding := by
  rw [earliestFirstSeen, foldl_min_eq, List.filter_map, List.map_map]
  have same : ∀ row : FindingRow, (decide (row.finding.detector = finding.detector ∧
      row.finding.detectorVersion = finding.detectorVersion ∧ row.finding.node = finding.node ∧
        row.finding.channel = finding.channel ∧ row.finding.network = finding.network)) =
      row.finding.sameIdentity finding := by
    intro row
    unfold Finding.sameIdentity
    exact decide_eq_decide.mpr (by tauto)
  simp only [same]
  rfl

/-- The rows of the database are the findings of the vector, each with its absence count. -/
structure Refines (rows : List FindingRow) (s : MemoryStorage) : Prop where
  findings : s.findings = rows.map (·.finding)
  unique : Rows.Keyed FindingRow.id rows
  counts : ∀ row ∈ rows, s.absence row.id = row.consecutiveAbsent
  unused : ∀ id, s.stored id = none → s.absence id = 0

namespace Refines

variable {rows : List FindingRow} {s : MemoryStorage}

theorem stored (refines : Refines rows s) (id : String) :
    s.stored id = (Rows.lookup FindingRow.id rows id).map (·.finding) := by
  unfold MemoryStorage.stored
  rw [refines.findings]
  exact Rows.lookup_map fun _ => rfl

theorem memoryKeyed (refines : Refines rows s) : Rows.Keyed Finding.id s.findings := by
  unfold Rows.Keyed
  rw [refines.findings, List.map_map]
  exact refines.unique

def excluded (s : MemoryStorage) (finding : Finding) : FindingRow where
  finding := { finding with firstSeenAt := earliestFirstSeen s.findings finding, lifecycle := .active }
  consecutiveAbsent := 0

theorem insertFinding_rows (tables : Tables) (refines : Refines tables.findings s) (finding : Finding) :
    (tables.insertFinding finding).findings = Rows.upsert FindingRow.id (excluded s finding)
      (fun row => row.onConflict (excluded s finding)) tables.findings := by
  have firstSeen := excluded_firstSeen tables.findings finding
  rw [← refines.findings] at firstSeen
  unfold Tables.insertFinding excluded
  simp only [firstSeen]

theorem save (tables : Tables) (refines : Refines tables.findings s) (finding : Finding)
    (inStep : ¬(FindingOp.save finding).StaleWhileAbsent s) :
    Refines (tables.insertFinding finding).findings (s.putFinding finding) := by
  rw [insertFinding_rows tables refines]
  have unique : Rows.Keyed FindingRow.id (Rows.upsert FindingRow.id (excluded s finding)
      (fun row => row.onConflict (excluded s finding)) tables.findings) :=
    Rows.keyed_upsert (fun row => row.onConflict_id (excluded s finding)) refines.unique
  refine ⟨?_, unique, ?_, ?_⟩
  · have projected : (Rows.upsert FindingRow.id (excluded s finding)
        (fun row => row.onConflict (excluded s finding)) tables.findings).map (·.finding) =
        Rows.upsert Finding.id (excluded s finding).finding
          (fun existing => existing.reobserve finding (earliestFirstSeen s.findings finding))
          (tables.findings.map (·.finding)) :=
      Rows.map_upsert (fun _ => rfl) fun row => row.onConflict_finding (excluded s finding)
    rw [← refines.findings] at projected
    exact projected.symm
  · intro row member
    have found := Rows.lookup_of_mem unique member
    rw [Rows.lookup_upsert fun row => FindingRow.onConflict_id row (excluded s finding)] at found
    rw [MemoryStorage.absence_putFinding]
    by_cases same : finding.id = row.id
    · rw [if_pos (show (excluded s finding).id = row.id from same)] at found
      have stored := refines.stored row.id
      cases present : Rows.lookup FindingRow.id tables.findings row.id with
      | none =>
        rw [present] at found stored
        cases found
        have missing : s.stored (excluded s finding).id = none := stored
        rw [if_neg fun also => by simp [missing] at also]
        exact refines.unused _ missing
      | some before =>
        rw [present] at found stored
        have merged : before.onConflict (excluded s finding) = row := by simpa using found
        have named := Rows.key_of_lookup present
        have counted := refines.counts before (Rows.mem_of_lookup present)
        have count := FindingRow.onConflict_count before (excluded s finding)
        rw [merged] at count
        rw [if_pos ⟨same, by rw [stored]; rfl⟩, count]
        split
        · rfl
        next stale =>
          by_contra nonzero
          refine inStep ⟨before.finding, by rw [same]; exact stored, lt_of_not_ge stale, ?_⟩
          rw [same, ← named, counted]
          exact Ne.symm nonzero
    · rw [if_neg (show (excluded s finding).id ≠ row.id from same)] at found
      rw [if_neg (by simp [same])]
      exact refines.counts row (Rows.mem_of_lookup found)
  · intro id missing
    rw [MemoryStorage.stored_putFinding] at missing
    rw [MemoryStorage.absence_putFinding]
    by_cases same : finding.id = id
    · simp [same] at missing
    · rw [if_neg same] at missing
      rw [if_neg (by simp [same])]
      exact refines.unused id missing

theorem resolve (tables : Tables) (refines : Refines tables.findings s) {scope : FindingCycleScope}
    (complete : scope.complete = true) :
    Refines (Tables.countAbsentFindings scope (Tables.resolveAbsentFindings scope tables)).findings
      (s.resolveScope scope) := by
  rw [updates_eq]
  have ids : ∀ row, FindingRow.id (FindingRow.afterUpdates scope row) = row.id := fun row =>
    row.tracked.resolve_id scope
  have memory := MemoryStorage.keyed_resolveScope refines.memoryKeyed scope
  have counted : ∀ row ∈ tables.findings,
      (⟨row.finding, s.absence row.id⟩ : Tracked) = row.tracked := fun row member => by
    rw [refines.counts row member]
    rfl
  refine ⟨?_, Rows.keyed_map ids refines.unique, ?_, ?_⟩
  · refine Rows.ext_lookup memory ?_ fun id => ?_
    · rw [MemoryStorage.resolveScope, if_pos complete, resolveFindings_ids, refines.findings, List.map_map,
        List.map_map, List.map_map]
      exact List.map_congr_left fun row _ => (ids row).symm
    · have found := MemoryStorage.stored_resolveScope refines.memoryKeyed complete id
      rw [refines.stored id] at found
      have projected : Rows.lookup Finding.id
          (tables.findings.map fun row => (row.afterUpdates scope).finding) id =
          (Rows.lookup FindingRow.id tables.findings id).map fun row => (row.afterUpdates scope).finding :=
        Rows.lookup_map ids
      rw [List.map_map]
      refine found.trans (Eq.trans ?_ projected.symm)
      cases present : Rows.lookup FindingRow.id tables.findings id with
      | none => rfl
      | some row =>
        have same := counted row (Rows.mem_of_lookup present)
        rw [Rows.key_of_lookup present] at same
        simp [same, FindingRow.afterUpdates]
  · intro row member
    obtain ⟨before, stored, rfl⟩ := List.mem_map.mp member
    rw [ids, MemoryStorage.absence_resolveScope refines.memoryKeyed complete, refines.stored,
      Rows.lookup_of_mem refines.unique stored]
    show (Tracked.resolve scope ⟨before.finding, s.absence before.id⟩).absent = _
    rw [counted before stored]
    rfl
  · intro id missing
    have absent : s.stored id = none := by
      rw [MemoryStorage.stored_resolveScope refines.memoryKeyed complete] at missing
      simpa using missing
    rw [MemoryStorage.absence_resolveScope refines.memoryKeyed complete, absent]
    exact refines.unused id absent

end Refines

structure InStepWith (s : MemoryStorage) (t : SqliteStorage) : Prop where
  reliable : ∀ n, t.conn.fails n = none
  refines : Refines t.conn.tables.findings s

namespace SqliteStorage

theorem sql_execute {t : SqliteStorage} (reliable : ∀ n, t.conn.fails n = none) {ε : Type} (failure : String → ε)
    (effect : Tables → Tables) :
    sql failure (execute effect) t =
      .ok () { t with conn := { t.conn.next with tables := effect t.conn.tables } } := by
  unfold sql execute statement
  rw [reliable]

theorem sql_query {α : Type} {t : SqliteStorage} (reliable : ∀ n, t.conn.fails n = none) {ε : Type}
    (failure : String → ε) (read : Tables → α) :
    sql failure (query read) t = .ok (read t.conn.tables) { t with conn := t.conn.next } := by
  unfold sql query statement
  rw [reliable]
  rfl

theorem resolveFindingsForScope_run {t : SqliteStorage} (reliable : ∀ n, t.conn.fails n = none)
    (scope : FindingCycleScope) :
    resolveFindingsForScope scope t = .ok () (if scope.complete then
      { t with conn := { t.conn.next.next with
          tables := Tables.countAbsentFindings scope (Tables.resolveAbsentFindings scope t.conn.tables) } }
      else t) := by
  unfold resolveFindingsForScope
  by_cases complete : scope.complete = true
  · rw [if_pos complete, if_pos complete]
    have first := sql_execute reliable StorageError.backend (Tables.resolveAbsentFindings scope)
    refine bind_ok.mpr ⟨(), _, first, ?_⟩
    rw [sql_execute (by exact reliable)]
    rfl
  · rw [if_neg complete, if_neg complete]
    rfl

end SqliteStorage

theorem InStepWith.empty : InStepWith MemoryStorage.new SqliteStorage.empty where
  reliable _ := rfl
  refines := ⟨rfl, List.nodup_nil, fun _ member => (List.not_mem_nil member).elim, fun _ _ => rfl⟩

theorem InStepWith.step {s : MemoryStorage} {t : SqliteStorage} (together : InStepWith s t) (op : FindingOp)
    (inStep : ¬op.StaleWhileAbsent s) :
    value (op.run MemoryStorage) s = value (op.run SqliteStorage) t ∧
      InStepWith (final (op.run MemoryStorage) s) (final (op.run SqliteStorage) t) := by
  obtain ⟨reliable, refines⟩ := together
  cases op with
  | save finding =>
    show value (MemoryStorage.saveFinding finding) s = value (SqliteStorage.saveFinding finding) t ∧
      InStepWith (final (MemoryStorage.saveFinding finding) s) (final (SqliteStorage.saveFinding finding) t)
    cases valid : validateFindingSchema finding.schemaVersion with
    | error e =>
      unfold value final MemoryStorage.saveFinding SqliteStorage.saveFinding
      rw [valid]
      exact ⟨rfl, reliable, refines⟩
    | ok _ =>
      unfold value final MemoryStorage.saveFinding SqliteStorage.saveFinding
      rw [valid]
      simp only [SqliteStorage.sql_execute reliable]
      exact ⟨trivial, reliable, refines.save t.conn.tables finding inStep⟩
  | resolve scope =>
    show value (MemoryStorage.resolveFindingsForScope scope) s =
        value (SqliteStorage.resolveFindingsForScope scope) t ∧
      InStepWith (final (MemoryStorage.resolveFindingsForScope scope) s)
        (final (SqliteStorage.resolveFindingsForScope scope) t)
    unfold value final
    rw [SqliteStorage.resolveFindingsForScope_run reliable]
    by_cases complete : scope.complete = true
    · rw [if_pos complete]
      exact ⟨rfl, reliable, refines.resolve t.conn.tables complete⟩
    · rw [if_neg complete]
      refine ⟨rfl, reliable, ?_⟩
      show Refines _ (s.resolveScope scope)
      rw [MemoryStorage.resolveScope, if_neg complete]
      exact refines

theorem InStepWith.answers {s : MemoryStorage} {t : SqliteStorage} (together : InStepWith s t) (id : String) :
    value (MemoryStorage.findingById id) s = value (SqliteStorage.findingById id) t := by
  unfold SqliteStorage.findingById value
  rw [SqliteStorage.sql_query together.reliable]
  exact congrArg Except.ok (together.refines.stored id)

theorem InStepWith.runAll {ops : List FindingOp} {s : MemoryStorage} {t : SqliteStorage}
    (together : InStepWith s t) (inStep : FindingOp.InStep ops s) :
    InStepWith (FindingOp.runAll ops s) (FindingOp.runAll ops t) := by
  induction ops generalizing s t with
  | nil => exact together
  | cons op ops ih => exact ih (together.step op inStep.1).2 inStep.2

theorem FindingOp.inStep_append {past rest : List FindingOp} {s : MemoryStorage} :
    InStep (past ++ rest) s ↔ InStep past s ∧ InStep rest (runAll past s) := by
  induction past generalizing s with
  | nil => simp [InStep, runAll]
  | cons op past ih =>
    show (_ ∧ InStep (past ++ rest) (final (op.run _) s)) ↔ (_ ∧ InStep past (final (op.run _) s)) ∧ _
    rw [ih, and_assoc]
    rfl

end Rieko
