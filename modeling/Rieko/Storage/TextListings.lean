import Rieko.Storage.TextFindings

namespace Rieko

open StatefulResult FindingOp

structure RowsListedAlike (text : RowText) (s : MemoryStorage) (t : TextStorage) : Prop where
  memory : LatestRight s.findings (fun limit => value (MemoryStorage.latestFindings limit) s)
    fun limit lifecycle => value (MemoryStorage.latestFindingsByLifecycle limit lifecycle) s
  rows : ∃ stored, readRows RowText.findingColumns text.rowToFinding t.conn.tables.findings = .ok stored ∧
    LatestRight stored (fun limit => value (TextStorage.latestFindings text limit) t)
      fun limit lifecycle => value (TextStorage.latestFindingsByLifecycle text limit lifecycle) t
  latest : ∀ limit, value (MemoryStorage.latestFindings limit) s = value (TextStorage.latestFindings text limit) t
  byLifecycle : ∀ limit lifecycle, value (MemoryStorage.latestFindingsByLifecycle limit lifecycle) s =
    value (TextStorage.latestFindingsByLifecycle text limit lifecycle) t

/-- The absences that the vector and the rows have counted of a finding settle it in both or in neither. -/
def FindingOp.RowsSettleAlike (text : RowText) (s : MemoryStorage) (t : TextStorage) : FindingOp → Prop
  | save _ => True
  | resolve scope => scope.complete = true → ∀ row ∈ t.conn.tables.findings,
    TextTables.inScope text scope row = .ok true → ∀ id, row "id" = .text id →
      (2 ≤ s.absence id ↔ (row "consecutive_absent").atLeast (.integer 2) = true)

section Related

variable {text : RowText} {s : MemoryStorage} {rows : TextStorage} {t : SqliteStorage}
  (documented : text.Documented) (related : TextStorage.Related text rows t)

include documented related

theorem value_latestRows (reliable : ∀ n, t.conn.fails n = none) (limit : Nat) :
    value (TextStorage.latestFindings text limit) rows = value (SqliteStorage.latestFindings limit) t := by
  have listed := SqliteStorage.value_latestFindings reliable limit
  rw [listed]
  exact ((TextStorage.refines_latestFindings documented limit).value_ok_iff related).mpr listed

theorem value_latestRowsByLifecycle (reliable : ∀ n, t.conn.fails n = none) (limit : Nat)
    (lifecycle : FindingLifecycleFilter) : value (TextStorage.latestFindingsByLifecycle text limit lifecycle) rows =
      value (SqliteStorage.latestFindingsByLifecycle limit lifecycle) t := by
  have listed := SqliteStorage.value_latestFindingsByLifecycle reliable limit lifecycle
  rw [listed]
  exact ((TextStorage.refines_latestFindingsByLifecycle documented limit lifecycle).value_ok_iff related).mpr listed

theorem rowsListedAlike_iff (reliable : ∀ n, t.conn.fails n = none) : RowsListedAlike text s rows ↔
    ListedAlike s t := by
  have stored : readRows RowText.findingColumns text.rowToFinding rows.conn.tables.findings =
      .ok (t.conn.tables.findings.map (·.finding)) :=
    TextStorage.readRows_related (fun _ _ held => TextStorage.rowToFinding_stands documented held)
      (TextStorage.findings_related related.conn.tables)
  have latest := funext (value_latestRows documented related reliable)
  have byLifecycle := funext fun limit => funext (value_latestRowsByLifecycle documented related reliable limit)
  constructor
  · rintro ⟨memory, ⟨found, read, right⟩, alike, alikeByLifecycle⟩
    rw [stored, Except.ok.injEq] at read
    rw [← read, latest, byLifecycle] at right
    exact ⟨memory, right, fun limit => (alike limit).trans (congrFun latest limit), fun limit lifecycle =>
      (alikeByLifecycle limit lifecycle).trans (congrFun (congrFun byLifecycle limit) lifecycle)⟩
  · rintro ⟨memory, right, alike, alikeByLifecycle⟩
    rw [← latest, ← byLifecycle] at right
    exact ⟨memory, ⟨_, stored, right⟩, fun limit => (alike limit).trans (congrFun latest limit).symm,
      fun limit lifecycle =>
        (alikeByLifecycle limit lifecycle).trans (congrFun (congrFun byLifecycle limit) lifecycle).symm⟩

theorem rowsSettleAlike_iff {op : FindingOp} : op.RowsSettleAlike text s rows ↔ op.SettlesAlike s t := by
  cases op with
  | save finding => exact Iff.rfl
  | resolve scope =>
    refine imp_congr_right fun _ => Rows.related_forall (fun row stored stands => ?_) related.conn.tables.findings
    have counted : (row "consecutive_absent").atLeast (.integer 2) = true ↔ 2 ≤ stored.consecutiveAbsent := by
      rw [stands.absent, SqlValue.atLeast_integer, decide_eq_true_eq]
      omega
    rw [inScope_eq documented scope stands, Except.ok.injEq, FindingRow.inScope_iff, and_imp, counted,
      stands.columns.id]
    refine imp_congr_right fun _ => imp_congr_right fun _ => ?_
    exact ⟨fun alike => alike stored.id rfl, fun alike id same => by rwa [← SqlValue.text.inj same]⟩

end Related

/-- In a run that saves findings of distinct timestamps, which are read back as they were written, both backends list
    the newest findings, and the same ones, after every step, exactly if each step leaves the findings in their order
    and settles the same ones. -/
theorem latest_findings_iff {text : RowText} (documented : text.Documented) {ops : List FindingOp}
    (back : ∀ op ∈ ops, op.ReadsBack text) (apart : ((saved ops).map (·.timestamp)).Nodup) :
    (∀ past future, ops = past ++ future →
      RowsListedAlike text (runAll past MemoryStorage.new) (runAllText text past .empty)) ↔
    ∀ past op future, ops = past ++ op :: future → op.KeepsPlaces (runAll past MemoryStorage.new).findings ∧
      op.RowsSettleAlike text (runAll past MemoryStorage.new) (runAllText text past .empty) := by
  have related {past future : List FindingOp} (split : ops = past ++ future) :
      TextStorage.Related text (runAllText text past .empty) (runAll past SqliteStorage.empty) := by
    refine runAllText_related documented (fun op member => back op ?_) (TextStorage.related_empty text)
    exact split ▸ List.mem_append_left _ member
  have listed (past future : List FindingOp) (split : ops = past ++ future) :
      RowsListedAlike text (runAll past MemoryStorage.new) (runAllText text past .empty) ↔
        ListedAlike (runAll past MemoryStorage.new) (runAll past SqliteStorage.empty) :=
    rowsListedAlike_iff documented (related split) (reached past).reliable
  have settled (past : List FindingOp) (op : FindingOp) (future : List FindingOp) (split : ops = past ++ op :: future) :
      op.RowsSettleAlike text (runAll past MemoryStorage.new) (runAllText text past .empty) ↔
        op.SettlesAlike (runAll past MemoryStorage.new) (runAll past SqliteStorage.empty) :=
    rowsSettleAlike_iff documented (related split)
  have runs := listedAlike_runs_iff apart
  constructor
  · intro alike past op future split
    rw [settled past op future split]
    exact runs.mp
      (fun past future split => (listed past future split).mp (alike past future split)) past op future split
  · intro each past future split
    rw [listed past future split]
    refine runs.mpr (fun past op future split => ?_) past future split
    exact ⟨(each past op future split).1, (settled past op future split).mp (each past op future split).2⟩

/-- Three findings, of which the newest is observed again and the one in between settles in the third cycle that misses
    it. -/
theorem latest_findings_of_settled :
    let drift : FindingCycleScope := ⟨"drift", none, none, true⟩
    let ops : List FindingOp := [.save (.bare "a" "liquidity" 1), .save (.bare "b" "drift" 2),
      .save (.bare "c" "liquidity" 3), .save (.bare "c" "liquidity" 4), .resolve drift, .resolve drift, .resolve drift]
    let listed (answer : Except StorageError (List Finding)) := answer.toOption.map (·.map Finding.id)
    RowsListedAlike .bare (runAll ops MemoryStorage.new) (runAllText .bare ops .empty) ∧
      listed (value (TextStorage.latestFindings .bare 2) (runAllText .bare ops .empty)) = some ["c", "b"] ∧
      listed (value (TextStorage.latestFindingsByLifecycle .bare 2 .active) (runAllText .bare ops .empty)) =
        some ["c", "a"] ∧
      listed (value (TextStorage.latestFindingsByLifecycle .bare 2 .resolved) (runAllText .bare ops .empty)) =
        some ["b"] := by
  intro drift ops listed
  have back : ∀ op ∈ ops, op.ReadsBack .bare := by
    have first := readsBack_bare (.bare "a" "liquidity" 1) ⟨rfl, rfl⟩ (by decide)
    have second := readsBack_bare (.bare "b" "drift" 2) ⟨rfl, rfl⟩ (by decide)
    have third := readsBack_bare (.bare "c" "liquidity" 3) ⟨rfl, rfl⟩ (by decide)
    have again := readsBack_bare (.bare "c" "liquidity" 4) ⟨rfl, rfl⟩ (by decide)
    simpa [ops] using ⟨first, second, third, again, trivial⟩
  let condition (past : List FindingOp) (op : FindingOp) : Prop :=
    op.KeepsPlaces (runAll past MemoryStorage.new).findings ∧
    op.SettlesAlike (runAll past MemoryStorage.new) (runAll past SqliteStorage.empty)
  have steps : ∀ k < ops.length, ∀ op ∈ ops[k]?, condition (ops.take k) op := by decide
  have conditions := Transition.fronts_of_take steps
  have alike : RowsListedAlike .bare (runAll ops MemoryStorage.new) (runAllText .bare ops .empty) := by
    refine (latest_findings_iff RowText.bare_documented back (by decide)).mpr (fun past op future split => ?_) ops []
      (List.append_nil ops).symm
    refine ⟨(conditions past op future split).1, ?_⟩
    refine (rowsSettleAlike_iff RowText.bare_documented ?_).mpr (conditions past op future split).2
    refine runAllText_related RowText.bare_documented (fun op member => back op ?_) (TextStorage.related_empty _)
    exact split ▸ List.mem_append_left _ member
  refine ⟨alike, ?_, ?_, ?_⟩
  · rw [← alike.latest]
    decide
  · rw [← alike.byLifecycle]
    decide
  · rw [← alike.byLifecycle]
    decide

/-- A finding that is observed again is the newest, and the vector keeps it behind one that was found in between. -/
theorem reobserved_finding_hidden :
    let ops : List FindingOp := [.save (.bare "a" "liquidity" 1), .save (.bare "b" "liquidity" 2),
      .save (.bare "a" "liquidity" 3)]
    let listed (answer : Except StorageError (List Finding)) := answer.toOption.map (·.map Finding.id)
    (∀ op ∈ ops, op.ReadsBack .bare) ∧ ((saved ops).map (·.timestamp)).Nodup ∧
      ¬RowsListedAlike .bare (runAll ops MemoryStorage.new) (runAllText .bare ops .empty) ∧
      listed (value (MemoryStorage.latestFindings 1) (runAll ops MemoryStorage.new)) = some ["b"] ∧
      listed (value (TextStorage.latestFindings .bare 1) (runAllText .bare ops .empty)) = some ["a"] := by
  intro ops listed
  have back : ∀ op ∈ ops, op.ReadsBack .bare := by
    have first := readsBack_bare (.bare "a" "liquidity" 1) ⟨rfl, rfl⟩ (by decide)
    have second := readsBack_bare (.bare "b" "liquidity" 2) ⟨rfl, rfl⟩ (by decide)
    have again := readsBack_bare (.bare "a" "liquidity" 3) ⟨rfl, rfl⟩ (by decide)
    simpa [ops] using ⟨first, second, again⟩
  have memory : listed (value (MemoryStorage.latestFindings 1) (runAll ops MemoryStorage.new)) = some ["b"] := by
    decide
  have sqlite : listed (value (TextStorage.latestFindings .bare 1) (runAllText .bare ops .empty)) = some ["a"] := by
    have related := runAllText_related RowText.bare_documented back (TextStorage.related_empty _)
    rw [value_latestRows RowText.bare_documented related (reached ops).reliable]
    decide
  refine ⟨back, by decide, fun alike => ?_, memory, sqlite⟩
  rw [alike.latest 1, sqlite] at memory
  exact absurd memory (by decide)

end Rieko
