import Rieko.Storage.Sqlite

namespace Rieko

open StatefulResult SqlConnection

namespace SqliteStorage

variable {ε α : Type} {s s' : SqliteStorage}

def Idle (s : SqliteStorage) : Prop := s.conn.inTransaction = false ∧ s.inTransaction = false

def Begun (s : SqliteStorage) : Prop := s.conn.inTransaction = true ∧ s.inTransaction = true

/-- A transaction is open that the storage does not know of. -/
def Unannounced (s : SqliteStorage) : Prop := s.conn.inTransaction = true ∧ s.inTransaction = false

theorem get_ok (s : SqliteStorage) : (get : EStateM ε SqliteStorage SqliteStorage) s = .ok s s := rfl

theorem sql_ok {failure : String → ε} {program : Sql Tables α} {a : α} :
    sql failure program s = .ok a s' ↔ ∃ conn, program s.conn = .ok a conn ∧ s' = { s with conn } := by
  unfold sql
  cases program s.conn <;> simp [eq_comm]

theorem sql_error {failure : String → ε} {program : Sql Tables α} {e : ε} :
    sql failure program s = .error e s' ↔
      ∃ message conn, program s.conn = .error message conn ∧ e = failure message ∧ s' = { s with conn } := by
  unfold sql
  cases program s.conn <;> simp [eq_comm]

theorem Idle.saved (idle : s.Idle) : s.conn.saved = none := by
  have closed := idle.1
  unfold SqlConnection.inTransaction at closed
  simpa using closed

theorem begin_idle (idle : s.Idle) :
    match beginTransaction s with
    | .ok _ s' => s' = ⟨{ s.conn.next with saved := some s.conn.tables }, true⟩ ∧
        s.conn.fails s.conn.executed = none
    | .error _ s' => s' = { s with conn := s.conn.next } ∧ (s.conn.fails s.conn.executed).isSome = true := by
  have unknown := idle.2
  have start : beginTransaction s = (do
      sql (fun e => StorageError.backend s!"beginning transaction: {e}") beginImmediate
      setInTransaction true) s := by
    unfold beginTransaction
    rw [bind_of_ok (get_ok s), unknown]
    rfl
  rw [start]
  cases result : beginImmediate s.conn with
  | ok u conn =>
    obtain ⟨quiet, -, rfl⟩ := beginImmediate_ok.mp result
    rw [bind_of_ok (sql_ok.mpr ⟨_, result, rfl⟩)]
    exact ⟨rfl, quiet⟩
  | error e conn =>
    obtain ⟨failed, rfl⟩ := beginImmediate_error idle.saved result
    rw [bind_of_error (sql_error.mpr ⟨_, _, result, rfl, rfl⟩)]
    exact ⟨rfl, failed⟩

theorem commit_begun (begun : s.Begun) :
    match commitTransaction s with
    | .ok _ s' => s' = ⟨{ s.conn.next with saved := none }, false⟩ ∧ s.conn.fails s.conn.executed = none
    | .error _ s' => s' = { s with conn := s.conn.next } ∧ (s.conn.fails s.conn.executed).isSome = true := by
  have known := begun.2
  have start : commitTransaction s = (do
      sql (fun e => StorageError.backend s!"committing transaction: {e}") commit
      setInTransaction false) s := by
    unfold commitTransaction
    rw [bind_of_ok (get_ok s), known]
    rfl
  rw [start]
  cases result : commit s.conn with
  | ok u conn =>
    obtain ⟨quiet, -, rfl⟩ := commit_ok.mp result
    rw [bind_of_ok (sql_ok.mpr ⟨_, result, rfl⟩)]
    exact ⟨rfl, quiet⟩
  | error e conn =>
    obtain ⟨failed, rfl⟩ := commit_error begun.1 result
    rw [bind_of_error (sql_error.mpr ⟨_, _, result, rfl, rfl⟩)]
    exact ⟨rfl, failed⟩

theorem rollback_begun (begun : s.Begun) : ∃ tables, s.conn.saved = some tables ∧
    rollbackTransaction s = .ok () ⟨{ s.conn.next with tables, saved := none }, false⟩ := by
  have known := begun.2
  obtain ⟨tables, saved⟩ := Option.isSome_iff_exists.mp begun.1
  have ran : rollback s.conn = .ok () { s.conn.next with tables, saved := none } :=
    rollback_ok.mpr ⟨tables, saved, rfl⟩
  refine ⟨tables, saved, ?_⟩
  unfold rollbackTransaction
  rw [bind_of_ok (get_ok s), known]
  exact bind_of_ok (sql_ok.mpr ⟨_, ran, rfl⟩) _

theorem beginTransaction_ok {u : Unit} (ran : beginTransaction s = .ok u s') :
    s.Idle ∧ s' = ⟨{ s.conn.next with saved := some s.conn.tables }, true⟩ := by
  obtain ⟨_, _, ⟨⟩, ran⟩ := bind_ok.mp ran
  split at ran
  · cases ran
  next unknown =>
    obtain ⟨_, m, begun, ran⟩ := bind_ok.mp ran
    obtain ⟨conn, began, rfl⟩ := sql_ok.mp begun
    obtain ⟨-, closed, rfl⟩ := beginImmediate_ok.mp began
    cases modify_ok.mp ran
    exact ⟨⟨by unfold SqlConnection.inTransaction; rw [closed]; rfl, Bool.eq_false_of_not_eq_true unknown⟩, rfl⟩

theorem beginTransaction_error {e : StorageError} (failed : beginTransaction s = .error e s') :
    s'.conn.tables = s.conn.tables := by
  rcases bind_error.mp failed with read | ⟨_, _, ⟨⟩, failed⟩
  · cases read
  split at failed
  · cases failed
    rfl
  · rcases bind_error.mp failed with refused | ⟨_, m, -, set⟩
    · obtain ⟨message, conn, began, -, rfl⟩ := sql_error.mp refused
      rw [beginImmediate_refused began]
      rfl
    · cases set

theorem commitTransaction_ok {u : Unit} (ran : commitTransaction s = .ok u s') :
    s' = ⟨{ s.conn.next with saved := none }, false⟩ := by
  obtain ⟨_, _, ⟨⟩, ran⟩ := bind_ok.mp ran
  split at ran
  · cases ran
  · obtain ⟨_, m, committed, ran⟩ := bind_ok.mp ran
    obtain ⟨conn, closed, rfl⟩ := sql_ok.mp committed
    obtain ⟨-, -, rfl⟩ := commit_ok.mp closed
    exact modify_ok.mp ran

theorem brackets : Brackets Idle Begun beginTransaction commitTransaction rollbackTransaction where
  opens s idle := by
    have step := begin_idle idle
    cases result : beginTransaction s with
    | ok u s' =>
      rw [result] at step
      rw [step.1]
      exact ⟨rfl, rfl⟩
    | error e s' =>
      rw [result] at step
      rw [step.1]
      exact idle
  closes s begun := by
    have step := commit_begun begun
    cases result : commitTransaction s with
    | ok u s' =>
      rw [result] at step
      rw [step.1]
      exact ⟨rfl, rfl⟩
    | error e s' =>
      rw [result] at step
      rw [step.1]
      exact begun
  undoes s begun := by
    obtain ⟨tables, -, ran⟩ := rollback_begun begun
    rw [final, ran]
    exact ⟨rfl, rfl⟩

theorem undo_brackets : Brackets Idle Begun beginTransaction rollbackTransaction rollbackTransaction where
  opens := brackets.opens
  closes s begun := by
    obtain ⟨tables, -, ran⟩ := rollback_begun begun
    rw [ran]
    exact ⟨rfl, rfl⟩
  undoes := brackets.undoes

section Statements

variable {property : SqliteStorage → Prop}

def SameTransaction (s s' : SqliteStorage) : Prop :=
  s'.conn.saved = s.conn.saved ∧ s'.inTransaction = s.inTransaction

theorem sql_statement_keeps (stable : ∀ s s', SameTransaction s s' → property s → property s')
    (failure : String → ε) (effect : Tables → Except String (Tables × α)) :
    Preserves property (sql failure (statement effect)) := by
  intro s held
  have saved := statement_saved effect s.conn
  unfold final at saved ⊢
  unfold sql
  cases result : statement effect s.conn <;>
  · rw [result] at saved
    exact stable s _ ⟨saved, rfl⟩ held

theorem sql_statement_runs (stable : ∀ s s', SameTransaction s s' → property s → property s')
    (failure : String → ε) {effect : Tables → Except String (Tables × α)}
    (total : ∀ tables, ∃ after, effect tables = .ok after) :
    Runs conn property 1 (sql failure (statement effect)) := by
  intro s held
  obtain ⟨⟨tables, a⟩, works⟩ := total s.conn.tables
  cases fails : s.conn.fails s.conn.executed with
  | none =>
    have ran : statement effect s.conn = .ok a { s.conn.next with tables } := by
      simp only [statement, fails, works]
    rw [sql_ok.mpr ⟨_, ran, rfl⟩]
    refine ⟨stable s _ ⟨rfl, rfl⟩ held, rfl, rfl, fun i below => ?_⟩
    rw [show i = 0 by omega]
    exact fails
  | some message =>
    have failed : statement effect s.conn = .error message s.conn.next := by
      simp only [statement, fails]
    rw [sql_error.mpr ⟨_, _, failed, rfl, rfl⟩]
    exact ⟨stable s _ ⟨rfl, rfl⟩ held, 0, Nat.zero_lt_one, by rw [Nat.add_zero, fails]; rfl⟩

theorem Begun.stable (s s' : SqliteStorage) (same : SameTransaction s s') (begun : s.Begun) : s'.Begun :=
  ⟨(congrArg Option.isSome same.1).trans begun.1, same.2.trans begun.2⟩

theorem Unannounced.stable (s s' : SqliteStorage) (same : SameTransaction s s') (held : s.Unannounced) :
    s'.Unannounced :=
  ⟨(congrArg Option.isSome same.1).trans held.1, same.2.trans held.2⟩

end Statements

structure Undisturbed (s s' : SqliteStorage) : Prop where
  transaction : SameTransaction s s'
  deliveries : s'.conn.tables.webhookDeliveries = s.conn.tables.webhookDeliveries
  events : s'.conn.tables.webhookEvents = s.conn.tables.webhookEvents

theorem sql_statement_undisturbed (failure : String → ε) {effect : Tables → Except String (Tables × α)}
    (quiet : ∀ tables after a, effect tables = .ok (after, a) →
      after.webhookDeliveries = tables.webhookDeliveries ∧ after.webhookEvents = tables.webhookEvents)
    (s : SqliteStorage) : s.Undisturbed (final (sql failure (statement effect)) s) := by
  unfold final sql statement
  cases s.conn.fails s.conn.executed with
  | some message => exact ⟨⟨rfl, rfl⟩, rfl, rfl⟩
  | none =>
    cases works : effect s.conn.tables with
    | error message => exact ⟨⟨rfl, rfl⟩, rfl, rfl⟩
    | ok result =>
      obtain ⟨deliveries, events⟩ := quiet s.conn.tables result.1 result.2 works
      exact ⟨⟨rfl, rfl⟩, deliveries, events⟩

theorem rewriteOperationalState_runs {property : SqliteStorage → Prop}
    (stable : ∀ s s', SameTransaction s s' → property s → property s')
    (f : OperationalState → OperationalState) : Runs conn property 2 (rewriteOperationalState f) :=
  (sql_statement_runs stable _ fun _ => ⟨_, rfl⟩).bind fun _ => sql_statement_runs stable _ fun _ => ⟨_, rfl⟩

theorem updateOperationalState_begun (f : OperationalState → OperationalState) (begun : s.Begun) :
    updateOperationalState f s = rewriteOperationalState f s := by
  have known := begun.2
  unfold updateOperationalState
  rw [bind_of_ok (get_ok s)]
  simp only [known, Bool.not_true, Bool.false_eq_true, if_false]
  cases result : rewriteOperationalState f s with
  | ok u m => exact bind_of_ok (attempt_of_ok result) _
  | error e m => exact bind_of_ok (attempt_of_error result) _

def withOperationalState (f : OperationalState → OperationalState) (tables : Tables) : Tables :=
  { tables with operationalState := some (f (tables.operationalState.getD {})) }

theorem rewriteOperationalState_ok {f : OperationalState → OperationalState} {u : Unit}
    (ran : rewriteOperationalState f s = .ok u s') :
    s'.conn.tables = withOperationalState f s.conn.tables ∧ SameTransaction s s' := by
  obtain ⟨state, m, read, ran⟩ := bind_ok.mp ran
  obtain ⟨conn, queried, rfl⟩ := sql_ok.mp read
  obtain ⟨-, rfl, rfl⟩ := query_ok.mp queried
  obtain ⟨conn, written, rfl⟩ := sql_ok.mp ran
  obtain ⟨-, rfl⟩ := execute_ok.mp written
  exact ⟨rfl, rfl, rfl⟩

theorem rewriteOperationalState_error {f : OperationalState → OperationalState} {e : OperationalStateError}
    (failed : rewriteOperationalState f s = .error e s') :
    s'.conn.tables = s.conn.tables ∧ SameTransaction s s' := by
  rcases bind_error.mp failed with read | ⟨state, m, read, failed⟩
  · obtain ⟨message, conn, queried, -, rfl⟩ := sql_error.mp read
    rw [statement_error queried]
    exact ⟨rfl, rfl, rfl⟩
  · obtain ⟨conn, queried, rfl⟩ := sql_ok.mp read
    obtain ⟨-, -, rfl⟩ := query_ok.mp queried
    obtain ⟨message, conn, written, -, rfl⟩ := sql_error.mp failed
    rw [statement_error written]
    exact ⟨rfl, rfl, rfl⟩

theorem updateOperationalState_ok {f : OperationalState → OperationalState} {u : Unit}
    (ran : updateOperationalState f s = .ok u s') :
    s'.conn.tables = withOperationalState f s.conn.tables ∧ SameTransaction s s' := by
  obtain ⟨_, _, ⟨⟩, ran⟩ := bind_ok.mp ran
  cases known : s.inTransaction with
  | true =>
    simp only [known, Bool.not_true, Bool.false_eq_true, if_false] at ran
    cases result : rewriteOperationalState f s with
    | ok v m =>
      have rest := (bind_of_ok (attempt_of_ok result) _).symm.trans ran
      cases rest
      exact rewriteOperationalState_ok result
    | error e m =>
      have rest := (bind_of_ok (attempt_of_error result) _).symm.trans ran
      cases rest
  | false =>
    simp only [known, Bool.not_false, if_true] at ran
    obtain ⟨_, m, begun, ran⟩ := bind_ok.mp ran
    obtain ⟨conn, began, rfl⟩ := sql_ok.mp begun
    obtain ⟨-, closed, rfl⟩ := beginImmediate_ok.mp began
    cases result : rewriteOperationalState f { s with conn := { s.conn.next with saved := some s.conn.tables } } with
    | error e m =>
      have rest := (bind_of_ok (attempt_of_error result) _).symm.trans ran
      obtain ⟨_, m', -, thrown⟩ := bind_ok.mp rest
      cases thrown
    | ok v m =>
      have rest := (bind_of_ok (attempt_of_ok result) _).symm.trans ran
      obtain ⟨_, m', committed, last⟩ := bind_ok.mp rest
      obtain ⟨conn, commits, rfl⟩ := sql_ok.mp committed
      obtain ⟨-, -, rfl⟩ := commit_ok.mp commits
      cases last
      obtain ⟨rewritten, -, flag⟩ := rewriteOperationalState_ok result
      exact ⟨rewritten, closed.symm, flag⟩

theorem rewriteOperationalState_quiet (f : OperationalState → OperationalState)
    (quiet : ∀ n, s.conn.fails n = none) : rewriteOperationalState f s =
      .ok () { s with conn := { s.conn.next.next with tables := withOperationalState f s.conn.tables } } := by
  have read : readOperationalState s = .ok s.conn.tables.operationalState { s with conn := s.conn.next } :=
    sql_ok.mpr ⟨_, query_ok.mpr ⟨quiet _, rfl, rfl⟩, rfl⟩
  unfold rewriteOperationalState
  rw [bind_of_ok read]
  exact sql_ok.mpr ⟨_, execute_ok.mpr ⟨quiet _, rfl⟩, rfl⟩

theorem updateOperationalState_quiet (f : OperationalState → OperationalState) (idle : s.Idle)
    (quiet : ∀ n, s.conn.fails n = none) :
    ∃ s', updateOperationalState f s = .ok () s' ∧ s'.Idle ∧ s'.conn.fails = s.conn.fails := by
  let begun : SqliteStorage := { s with conn := { s.conn.next with saved := some s.conn.tables } }
  let rewritten : SqliteStorage :=
    { s with conn := { begun.conn.next.next with tables := withOperationalState f s.conn.tables } }
  let last : SqliteStorage := { s with conn := { rewritten.conn.next with saved := none } }
  have begins : sql OperationalStateError.store beginImmediate s = .ok () begun :=
    sql_ok.mpr ⟨_, beginImmediate_ok.mpr ⟨quiet _, idle.saved, rfl⟩, rfl⟩
  have rewrites : rewriteOperationalState f begun = .ok () rewritten := rewriteOperationalState_quiet f quiet
  have commits : sql OperationalStateError.store commit rewritten = .ok () last :=
    sql_ok.mpr ⟨_, commit_ok.mpr ⟨quiet _, rfl, rfl⟩, rfl⟩
  refine ⟨last, ?_, ⟨rfl, idle.2⟩, rfl⟩
  unfold updateOperationalState
  rw [bind_of_ok (get_ok s)]
  simp only [idle.2, Bool.not_false, if_true]
  rw [bind_of_ok begins, bind_of_ok (attempt_of_ok rewrites)]
  dsimp only
  rw [bind_of_ok commits]
  rfl

theorem updateOperationalState_error {f : OperationalState → OperationalState} {e : OperationalStateError}
    (failed : updateOperationalState f s = .error e s') :
    s'.conn.tables = s.conn.tables ∨ s'.conn.tables = withOperationalState f s.conn.tables := by
  rcases bind_error.mp failed with read | ⟨_, _, ⟨⟩, failed⟩
  · cases read
  cases known : s.inTransaction with
  | true =>
    simp only [known, Bool.not_true, Bool.false_eq_true, if_false] at failed
    cases result : rewriteOperationalState f s with
    | ok v m =>
      have rest := (bind_of_ok (attempt_of_ok result) _).symm.trans failed
      cases rest
    | error e m =>
      have rest := (bind_of_ok (attempt_of_error result) _).symm.trans failed
      cases rest
      exact .inl (rewriteOperationalState_error result).1
  | false =>
    simp only [known, Bool.not_false, if_true] at failed
    rcases bind_error.mp failed with refused | ⟨_, m, begun, failed⟩
    · obtain ⟨message, conn, began, -, rfl⟩ := sql_error.mp refused
      rw [beginImmediate_refused began]
      exact .inl rfl
    obtain ⟨conn, began, rfl⟩ := sql_ok.mp begun
    obtain ⟨-, -, rfl⟩ := beginImmediate_ok.mp began
    cases result : rewriteOperationalState f { s with conn := { s.conn.next with saved := some s.conn.tables } } with
    | error e m =>
      have rest := (bind_of_ok (attempt_of_error result) _).symm.trans failed
      have undone := (bind_of_ok (discard_attempt (sql OperationalStateError.store rollback) m) _).symm.trans rest
      have saved : m.conn.saved = some s.conn.tables := (rewriteOperationalState_error result).2.1
      have ran : rollback m.conn = .ok () { m.conn.next with tables := s.conn.tables, saved := none } :=
        rollback_ok.mpr ⟨s.conn.tables, saved, rfl⟩
      have after : final (sql OperationalStateError.store rollback) m =
          { m with conn := { m.conn.next with tables := s.conn.tables, saved := none } } := by
        rw [final, sql_ok.mpr ⟨_, ran, rfl⟩]
      rw [after] at undone
      cases undone
      exact .inl rfl
    | ok v m =>
      have rest := (bind_of_ok (attempt_of_ok result) _).symm.trans failed
      obtain ⟨rewritten, -, -⟩ := rewriteOperationalState_ok result
      rcases bind_error.mp rest with stranded | ⟨_, m', -, last⟩
      · obtain ⟨message, conn, commits, -, rfl⟩ := sql_error.mp stranded
        rw [commit_refused commits]
        exact .inr rewritten
      · cases last

section Writes

variable {property : SqliteStorage → Prop}

theorem sql_execute_keeps (stable : ∀ s s', Undisturbed s s' → property s → property s') (failure : String → ε)
    {effect : Tables → Tables} (quiet : ∀ tables, (effect tables).webhookDeliveries = tables.webhookDeliveries ∧
      (effect tables).webhookEvents = tables.webhookEvents) :
    Preserves property (sql failure (execute effect)) := by
  refine fun s held => stable s _ (sql_statement_undisturbed failure (fun tables after _ ran => ?_) s) held
  cases ran
  exact quiet tables

theorem sql_query_keeps (stable : ∀ s s', Undisturbed s s' → property s → property s') (failure : String → ε)
    (read : Tables → α) : Preserves property (sql failure (query read)) := by
  refine fun s held => stable s _ (sql_statement_undisturbed failure (fun _ _ _ ran => ?_) s) held
  cases ran
  exact ⟨rfl, rfl⟩

theorem writesKeep (stable : ∀ s s', Undisturbed s s' → property s → property s')
    (begun : ∀ s, property s → s.Begun) : WritesKeep property where
  saveFinding finding := by
    intro s held
    show property (final (saveFinding finding) s)
    unfold saveFinding
    cases validateFindingSchema finding.schemaVersion with
    | error e => exact held
    | ok _ =>
      have writes : Preserves property (sql StorageError.backend (execute (Tables.insertFinding finding))) :=
        sql_execute_keeps stable _ fun _ => ⟨rfl, rfl⟩
      exact writes s held
  resolveFindingsForScope scope := by
    intro s held
    show property (final (resolveFindingsForScope scope) s)
    unfold resolveFindingsForScope
    split
    · have resolves : Preserves property (sql StorageError.backend (execute (Tables.resolveAbsentFindings scope))) :=
        sql_execute_keeps stable _ fun _ => ⟨rfl, rfl⟩
      have counts : Preserves property (sql StorageError.backend (execute (Tables.countAbsentFindings scope))) :=
        sql_execute_keeps stable _ fun _ => ⟨rfl, rfl⟩
      exact resolves.bind (fun _ => counts) s held
    · exact held
  saveRecommendation _ := sql_execute_keeps stable _ fun _ => ⟨rfl, rfl⟩
  recommendationForAction _ := sql_query_keeps stable _ _
  syncRecommendationLifecycles _ := sql_execute_keeps stable _ fun _ => ⟨rfl, rfl⟩
  appendAudit entry := by
    refine fun s held => stable s _ (sql_statement_undisturbed _ (fun tables after _ ran => ?_) s) held
    unfold Tables.insertAudit at ran
    split at ran
    · cases ran
    · cases ran
      exact ⟨rfl, rfl⟩
  saveChannelSnapshot _ := sql_execute_keeps stable _ fun _ => ⟨rfl, rfl⟩
  updateOperationalState f := by
    intro s held
    show property (final (updateOperationalState f) s)
    have same : final (updateOperationalState f) s = final (rewriteOperationalState f) s := by
      unfold final
      rw [updateOperationalState_begun f (begun s held)]
    rw [same]
    have stores (state : OperationalState) : Preserves property (writeOperationalState state) :=
      sql_execute_keeps stable _ fun _ => ⟨rfl, rfl⟩
    exact (sql_query_keeps stable _ _).bind (fun _ => stores _) s held

end Writes

/-- An update in a transaction of its own leaves it open when its commit fails. -/
theorem updateOperationalState_idle (f : OperationalState → OperationalState) (idle : s.Idle) :
    match updateOperationalState f s with
    | .ok _ s' => s'.Idle ∧ ¬s.conn.FailsFirstAt 3
    | .error _ s' => s.conn.FailsFirstAt 3 ∧ s'.Unannounced ∨ ¬s.conn.FailsFirstAt 3 ∧ s'.Idle := by
  have unknown := idle.2
  unfold updateOperationalState
  rw [bind_of_ok (get_ok s)]
  simp only [unknown, Bool.not_false, if_true]
  cases first : beginImmediate s.conn with
  | error e conn =>
    obtain ⟨failed, rfl⟩ := beginImmediate_error idle.saved first
    rw [bind_of_error (sql_error.mpr ⟨_, _, first, rfl, rfl⟩)]
    refine .inr ⟨fun strands => ?_, idle⟩
    have quiet := strands.1 0 (by omega)
    rw [Nat.add_zero] at quiet
    simp [quiet] at failed
  | ok u conn =>
    obtain ⟨quiet, closed, rfl⟩ := beginImmediate_ok.mp first
    rw [bind_of_ok (sql_ok.mpr ⟨_, first, rfl⟩)]
    have own : Unannounced { s with conn := { s.conn.next with saved := some s.conn.tables } } := ⟨rfl, unknown⟩
    have body := rewriteOperationalState_runs Unannounced.stable f _ own
    cases result : rewriteOperationalState f { s with conn := { s.conn.next with saved := some s.conn.tables } } with
    | error e m =>
      rw [result] at body
      obtain ⟨kept, i, below, failed⟩ := body
      rw [bind_of_ok (attempt_of_error result)]
      dsimp only
      rw [bind_of_ok (discard_attempt _ m)]
      obtain ⟨tables, saved⟩ := Option.isSome_iff_exists.mp kept.1
      have ran : rollback m.conn = .ok () { m.conn.next with tables, saved := none } :=
        rollback_ok.mpr ⟨tables, saved, rfl⟩
      have undone : final (sql OperationalStateError.store rollback) m =
          { m with conn := { m.conn.next with tables, saved := none } } := by
        rw [final, sql_ok.mpr ⟨_, ran, rfl⟩]
      rw [undone]
      refine .inr ⟨fun strands => ?_, rfl, kept.2⟩
      have quiet := strands.1 (1 + i) (by omega)
      rw [← Nat.add_assoc] at quiet
      change (s.conn.fails (s.conn.executed + 1 + i)).isSome = true at failed
      simp [quiet] at failed
    | ok u m =>
      rw [result] at body
      obtain ⟨kept, executed, fails, calm⟩ := body
      change m.conn.executed = s.conn.executed + 1 + 2 at executed
      change m.conn.fails = s.conn.fails at fails
      change ∀ i < 2, s.conn.fails (s.conn.executed + 1 + i) = none at calm
      rw [bind_of_ok (attempt_of_ok result)]
      dsimp only
      cases last : commit m.conn with
      | ok u conn =>
        obtain ⟨quiet', -, rfl⟩ := commit_ok.mp last
        rw [bind_of_ok (sql_ok.mpr ⟨_, last, rfl⟩)]
        refine ⟨⟨rfl, kept.2⟩, fun strands => ?_⟩
        have failed := strands.2
        rw [fails, executed, Nat.add_assoc] at quiet'
        simp [quiet'] at failed
      | error e conn =>
        obtain ⟨failed, rfl⟩ := commit_error kept.1 last
        rw [bind_of_error (sql_error.mpr ⟨_, _, last, rfl, rfl⟩)]
        rw [fails, executed, Nat.add_assoc] at failed
        refine .inl ⟨⟨fun i below => ?_, failed⟩, kept.1, kept.2⟩
        rcases Nat.eq_zero_or_pos i with rfl | later
        · exact quiet
        · have calm := calm (i - 1) (by omega)
          rwa [show s.conn.executed + 1 + (i - 1) = s.conn.executed + i by omega] at calm

end SqliteStorage

end Rieko
