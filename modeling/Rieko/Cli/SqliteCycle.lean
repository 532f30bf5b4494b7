import Rieko.Cli.InsideTransaction
import Rieko.Storage.Snapshots
import Rieko.Storage.SqliteTransactions

namespace Rieko

open StatefulResult CycleM SqlConnection SqliteStorage

def SqliteStorage.BegunOver (property : Tables → Prop) (s : SqliteStorage) : Prop := s.Begun ∧ property s.conn.tables

structure TableWritesKeep (property : Tables → Prop) : Prop where
  insertFinding : ∀ finding tables, property tables → property (Tables.insertFinding finding tables)
  resolveAbsentFindings : ∀ scope tables, property tables → property (Tables.resolveAbsentFindings scope tables)
  countAbsentFindings : ∀ scope tables, property tables → property (Tables.countAbsentFindings scope tables)
  replaceRecommendation : ∀ recommendation tables, property tables →
    property (Tables.replaceRecommendation recommendation tables)
  resolveRecommendations : ∀ now tables, property tables → property (Tables.resolveRecommendations now tables)
  insertAudit : ∀ entry tables after, Tables.insertAudit entry tables = .ok (after, ()) → property tables →
    property after
  operationalState : ∀ state tables, property tables → property { tables with operationalState := some state }

namespace TableWritesKeep

variable {property : Tables → Prop} {ε α : Type}

theorem sql_statement_keeps_tables (failure : String → ε) {effect : Tables → Except String (Tables × α)}
    (quiet : ∀ tables after a, effect tables = .ok (after, a) → property tables → property after) :
    Preserves (BegunOver property) (sql failure (statement effect)) := by
  rintro s ⟨begun, held⟩
  refine ⟨sql_statement_keeps Begun.stable failure effect s begun, ?_⟩
  unfold final sql statement
  cases s.conn.fails s.conn.executed with
  | some message => exact held
  | none =>
    cases works : effect s.conn.tables with
    | error message => exact held
    | ok result => exact quiet _ result.1 result.2 works held

theorem sql_execute_keeps_tables (failure : String → ε) {effect : Tables → Tables}
    (quiet : ∀ tables, property tables → property (effect tables)) :
    Preserves (BegunOver property) (sql failure (execute effect)) := by
  refine sql_statement_keeps_tables failure fun tables after _ ran held => ?_
  cases ran
  exact quiet tables held

theorem sql_query_keeps_tables (failure : String → ε) (read : Tables → α) :
    Preserves (BegunOver property) (sql failure (query read)) := by
  refine sql_statement_keeps_tables failure fun tables after _ ran held => ?_
  cases ran
  exact held

theorem records (keeps : TableWritesKeep property) :
    RecordWritesKeep (BegunOver property) where
  saveFinding finding := by
    intro s held
    show BegunOver property (final (SqliteStorage.saveFinding finding) s)
    unfold SqliteStorage.saveFinding
    cases validateFindingSchema finding.schemaVersion with
    | error e => exact held
    | ok _ => exact sql_execute_keeps_tables StorageError.backend (keeps.insertFinding finding) s held
  saveRecommendation recommendation := sql_execute_keeps_tables _ (keeps.replaceRecommendation recommendation)
  recommendationForAction _ := sql_query_keeps_tables _ _
  syncRecommendationLifecycles now := sql_execute_keeps_tables _ (keeps.resolveRecommendations now)
  appendAudit entry := sql_statement_keeps_tables _ fun tables after _ ran => keeps.insertAudit entry tables after ran
  updateOperationalState f := by
    intro s held
    show BegunOver property (final (updateOperationalState f) s)
    have same : final (updateOperationalState f) s = final (rewriteOperationalState f) s := by
      unfold final
      rw [updateOperationalState_begun f held.1]
    have stores (state : OperationalState) : Preserves (BegunOver property) (writeOperationalState state) :=
      sql_execute_keeps_tables _ (keeps.operationalState state)
    rw [same]
    exact (sql_query_keeps_tables _ _).bind (fun _ => stores _) s held

theorem resolves (keeps : TableWritesKeep property) (scope : FindingCycleScope) :
    Preserves (BegunOver property)
      (SqliteStorage.resolveFindingsForScope scope) := by
  unfold SqliteStorage.resolveFindingsForScope
  split
  · have first : Preserves (BegunOver property)
        (sql StorageError.backend (execute (Tables.resolveAbsentFindings scope))) :=
      sql_execute_keeps_tables _ (keeps.resolveAbsentFindings scope)
    exact first.bind fun _ => sql_execute_keeps_tables _ (keeps.countAbsentFindings scope)
  · exact .pure _

end TableWritesKeep

theorem channelSnapshots_kept (stored : List ChannelSnapshot) :
    TableWritesKeep fun tables => tables.channelSnapshots = stored where
  insertFinding _ _ held := held
  resolveAbsentFindings _ _ held := held
  countAbsentFindings _ _ held := held
  replaceRecommendation _ _ held := held
  resolveRecommendations _ _ held := held
  insertAudit entry tables after ran held := by
    unfold Tables.insertAudit at ran
    split at ran
    · cases ran
    · cases ran
      exact held
  operationalState _ _ held := held

section Cycles

variable {env : CycleEnv} {w w' : World SqliteStorage}

theorem saveChannelSnapshots_sqlite {snapshots : List ChannelSnapshot} {u : Unit} (begun : w.storage.Begun)
    (ran : (snapshots.forM fun snapshot => storage (Storage.saveChannelSnapshot snapshot)) w = .ok u w') :
    w'.storage.Begun ∧ w'.storage.conn.tables = w.storage.conn.tables.replaceChannelSnapshots snapshots := by
  induction snapshots generalizing w with
  | nil =>
    cases ran
    exact ⟨begun, rfl⟩
  | cons first rest ih =>
    obtain ⟨_, m, saved, ran⟩ := bind_ok.mp ran
    obtain ⟨s, saves, rfl⟩ := lift_ok.mp saved
    obtain ⟨conn, executed, rfl⟩ := sql_ok.mp saves
    obtain ⟨-, rfl⟩ := execute_ok.mp executed
    exact ih (by exact ⟨begun.1, begun.2⟩) ran

theorem persistCycleInside_snapshots {snapshots : List ChannelSnapshot} {scopes : List FindingCycleScope}
    {findings : List Finding} {recommendations : List Recommendation} (begun : w.storage.Begun)
    (ran : persistCycleInside env snapshots scopes findings w = .ok recommendations w') :
    w'.storage.conn.tables.channelSnapshots =
      (w.storage.conn.tables.replaceChannelSnapshots snapshots).channelSnapshots := by
  obtain ⟨u, m, saved, ran⟩ := bind_ok.mp ran
  obtain ⟨begun', tables⟩ := saveChannelSnapshots_sqlite begun saved
  -- What follows the snapshots is the cycle without them.
  have rest : persistCycleInside env [] scopes findings m = .ok recommendations w' := ran
  have keeps := channelSnapshots_kept m.storage.conn.tables.channelSnapshots
  have inside : Preserves (fun w => BegunOver _ w.storage) (persistCycleInside env [] scopes findings) :=
    keeps.records.persistCycleInside env findings
    (fun _ member => by cases member) fun scope _ => keeps.resolves scope
  have kept := inside m ⟨begun', rfl⟩
  unfold final at kept
  rw [rest] at kept
  rw [kept.2, tables]

theorem explainFindings_snapshots {llm : Option LlmClient} {node : String} {findings results : List Finding}
    (ran : explainFindings llm node findings w = .ok results w') :
    w'.storage.conn.tables.channelSnapshots = w.storage.conn.tables.channelSnapshots := by
  unfold explainFindings at ran
  cases llm with
  | none =>
    cases ran
    rfl
  | some llm =>
    dsimp only at ran
    split at ran
    · cases ran
      rfl
    · obtain ⟨u, m, recorded, ran⟩ := bind_ok.mp ran
      obtain ⟨s, updated, rfl⟩ := lift_ok.mp recorded
      cases ran
      rw [(updateOperationalState_ok updated).1]
      rfl

theorem persistCycle_snapshots {llm : Option LlmClient} {node : String} {snapshots : List ChannelSnapshot}
    {scopes : List FindingCycleScope} {findings : List Finding} {recommendations : List Recommendation}
    (ran : persistCycle env llm node snapshots scopes findings w = .ok recommendations w') :
    w'.storage.conn.tables.channelSnapshots =
      (w.storage.conn.tables.replaceChannelSnapshots snapshots).channelSnapshots := by
  obtain ⟨results, m, explained, ran⟩ := bind_ok.mp ran
  obtain ⟨m₁, m₂, opened, inside, closed⟩ := ladder_ok.mp ran
  obtain ⟨s, began, rfl⟩ := lift_ok.mp (mapError_ok.mp opened)
  obtain ⟨-, rfl⟩ := beginTransaction_ok began
  obtain ⟨s, committed, rfl⟩ := lift_ok.mp (mapError_ok.mp closed)
  cases commitTransaction_ok committed
  have kept : m.storage.conn.tables.channelSnapshots = w.storage.conn.tables.channelSnapshots :=
    explainFindings_snapshots explained
  have stored := persistCycleInside_snapshots ⟨rfl, rfl⟩ inside
  exact stored.trans (Tables.channelSnapshots_replaces_congr snapshots kept)

end Cycles

end Rieko
