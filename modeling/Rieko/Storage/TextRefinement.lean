import Rieko.Storage.TextPruning

namespace Rieko

open StatefulResult SqlConnection

structure TextStorage.Related (text : RowText) (s : TextStorage) (t : SqliteStorage) : Prop where
  conn : SqlConnection.Related (TextTables.Stands text) s.conn t.conn
  inTransaction : s.inTransaction = t.inTransaction

def TextStorage.empty : TextStorage where
  conn := { tables := {} }

theorem TextStorage.related_empty (text : RowText) : TextStorage.Related text .empty .empty :=
  ⟨⟨⟨.nil, .nil, .nil, .nil, .nil, .nil, .nil, .nil⟩, .none, rfl, rfl⟩, rfl⟩

abbrev TextStorage.Refines {ε ε' α β : Type} (text : RowText) (answers : α → β → Prop)
    (program : EStateM ε TextStorage α)
    (program' : EStateM ε' SqliteStorage β) : Prop :=
  Coupled (TextStorage.Related text) answers program program'

namespace TextStorage

variable {text : RowText} {ε ε' α β : Type} {answers : α → β → Prop}

theorem refines_sql (failure : String → ε) (failure' : String → ε') {program : Sql TextTables α}
    {program' : Sql Tables β}
    (coupled : Coupled (SqlConnection.Related (TextTables.Stands text)) answers program program') :
    Refines text answers (sql failure program) (SqliteStorage.sql failure' program') := by
  rw [coupled_iff] at coupled
  refine coupled_iff.mpr fun s t related => ?_
  unfold sql SqliteStorage.sql
  rcases coupled s.conn t.conn related.conn with ⟨a, c, b, c', ran, ran', same, held⟩
    | ⟨e, c, e', c', failed, failed', held⟩
  · rw [ran, ran']
    exact .inl ⟨a, _, b, _, rfl, rfl, same, held, related.inTransaction⟩
  · rw [failed, failed']
    exact .inr ⟨_, _, _, _, rfl, rfl, held, related.inTransaction⟩

theorem refines_execute (failure : String → ε) (failure' : String → ε') {effect : TextTables → TextTables}
    {effect' : Tables → Tables}
    (keeps : ∀ stored tables, TextTables.Stands text stored tables →
      TextTables.Stands text (effect stored) (effect' tables)) :
    Refines text (fun _ _ => True) (sql failure (execute effect)) (SqliteStorage.sql failure' (execute effect')) :=
  refines_sql failure failure' (coupled_execute keeps)

/-- A statement over rows that could fail, but does not over rows that stand for records. -/
theorem refines_statement (failure : String → ε) (failure' : String → ε')
    {effect : TextTables → Except String (TextTables × Unit)} {effect' : Tables → Tables}
    (succeeds : ∀ stored tables, TextTables.Stands text stored tables →
      TextTables.Succeeds text (effect stored) (effect' tables)) :
    Refines text (fun _ _ => True) (sql failure (statement effect)) (SqliteStorage.sql failure' (execute effect')) := by
  refine refines_sql failure failure' (coupled_statement fun stored tables stands => ?_)
  obtain ⟨after, ran, held⟩ := succeeds stored tables stands
  rw [ran]
  exact ⟨held, trivial⟩

theorem refines_setInTransaction (inTransaction : Bool) :
    Refines text (fun _ _ => True) (setInTransaction inTransaction) (SqliteStorage.setInTransaction inTransaction) :=
  fun _ _ related => ⟨trivial, related.conn, rfl⟩

theorem refines_get {next : TextStorage → EStateM ε TextStorage α} {next' : SqliteStorage → EStateM ε' SqliteStorage β}
    (rest : ∀ s t, Related text s t → Refines text answers (next s) (next' t)) :
    Refines text answers (get >>= next) (get >>= next') := by
  refine coupled_iff.mpr fun s t related => ?_
  exact coupled_iff.mp (rest s t related) s t related

theorem refines_begin : Refines text (fun _ _ => True) beginTransaction SqliteStorage.beginTransaction := by
  refine refines_get fun s t related => ?_
  rw [related.inTransaction]
  split
  · exact .throw_bind _ _
  · exact (refines_sql _ _ coupled_beginImmediate).bind fun _ _ _ => refines_setInTransaction true

theorem refines_commit : Refines text (fun _ _ => True) commitTransaction SqliteStorage.commitTransaction := by
  refine refines_get fun s t related => ?_
  rw [related.inTransaction]
  split
  · exact .throw_bind _ _
  · exact (refines_sql _ _ coupled_commit).bind fun _ _ _ => refines_setInTransaction false

theorem refines_rollback : Refines text (fun _ _ => True) rollbackTransaction SqliteStorage.rollbackTransaction := by
  refine refines_get fun s t related => ?_
  rw [related.inTransaction]
  split
  · exact .throw_bind _ _
  · exact (refines_sql _ _ coupled_rollback).bind fun _ _ _ => refines_setInTransaction false

section Rows

variable {columns : List String} {read : List SqlValue → Except ColumnError α} {R : SqlRow → α → Prop}

theorem readRows_related {rows : List SqlRow} {records : List α}
    (reads : ∀ row record, R row record → read (row.select columns) = .ok record)
    (related : List.Forall₂ R rows records) :
    readRows columns read rows = .ok records :=
  Rows.mapM_ok.mpr (related.imp reads)

theorem refines_select (failure : String → ε) (failure' : String → ε') {rows : TextTables → List SqlRow}
    {records : Tables → List α} (complaint : ColumnError → ε)
    (reads : ∀ row record, R row record → read (row.select columns) = .ok record)
    (related : ∀ stored tables, TextTables.Stands text stored tables → List.Forall₂ R (rows stored) (records tables)) :
    Refines text Eq (sql failure (query rows) >>= fun found =>
      ofExcept ((readRows columns read found).mapError complaint))
      (SqliteStorage.sql failure' (query records)) := by
  have queried :
      Refines text (List.Forall₂ R) (sql failure (query rows)) (SqliteStorage.sql failure' (query records)) :=
    refines_sql failure failure' (coupled_query related)
  refine coupled_iff.mpr fun s t held => ?_
  rcases coupled_iff.mp queried s t held with ⟨found, s', records, t', ran, ran', stand, held'⟩
    | ⟨e, s', e', t', failed, failed', held'⟩
  · refine .inl ⟨records, s', records, t', ?_, ran', rfl, held'⟩
    rw [bind_of_ok ran, readRows_related reads stand]
    rfl
  · rw [bind_of_error failed]
    exact .inr ⟨e, s', e', t', rfl, failed', held'⟩

theorem refines_selectOne (failure' : String → ε') {row : TextTables → Option SqlRow} {record : Tables → Option α}
    (reads : ∀ row record, R row record → read (row.select columns) = .ok record)
    (related : ∀ stored tables, TextTables.Stands text stored tables →
      List.Forall₂ R (row stored).toList (record tables).toList) :
    Refines text Eq (selectOne text columns read row) (SqliteStorage.sql failure' (query record)) := by
  have queried : Refines text (fun found record => List.Forall₂ R found record.toList)
      (sql StorageError.backend (query fun tables => (row tables).toList))
      (SqliteStorage.sql failure' (query record)) :=
    refines_sql _ failure' (coupled_query related)
  unfold selectOne
  refine coupled_iff.mpr fun s t held => ?_
  rcases coupled_iff.mp queried s t held with ⟨found, s', record, t', ran, ran', stand, held'⟩
    | ⟨e, s', e', t', failed, failed', held'⟩
  · refine .inl ⟨record, s', record, t', ?_, ran', rfl, held'⟩
    rw [bind_of_ok ran, readRows_related reads stand]
    show EStateM.Result.ok record.toList.head? s' = _
    rw [Option.head?_toList]
  · rw [bind_of_error failed]
    exact .inr ⟨e, s', e', t', rfl, failed', held'⟩

end Rows

section Findings

variable (documented : text.Documented)

include documented

theorem rowToFinding_stands {row : SqlRow} {finding : Finding} (held : FindingColumns text written row finding) :
    text.rowToFinding (row.select RowText.findingColumns) = .ok finding :=
  RowText.rowToFinding_ok.mpr (held.imp fun _ _ _ => documented.reads)

theorem refines_saveFinding {finding : Finding} (storable : text.StorableFinding finding) :
    Refines text (fun _ _ => True) (saveFinding text finding) (SqliteStorage.saveFinding finding) := by
  unfold saveFinding SqliteStorage.saveFinding
  cases supported : validateFindingSchema finding.schemaVersion with
  | error e => exact .throw _ _
  | ok u => exact refines_statement _ _ fun _ _ stands => stands.insertFinding documented storable supported

theorem refines_resolveFindingsForScope (scope : FindingCycleScope) :
    Refines text (fun _ _ => True) (resolveFindingsForScope text scope)
      (SqliteStorage.resolveFindingsForScope scope) := by
  unfold resolveFindingsForScope SqliteStorage.resolveFindingsForScope
  split
  · exact (refines_statement _ _ fun _ _ stands => stands.resolveAbsentFindings documented scope).bind fun _ _ _ =>
      refines_statement _ _ fun _ _ stands => stands.countAbsentFindings documented scope
  · exact .pure trivial

end Findings

theorem findings_related {stored : TextTables} {tables : Tables} (stands : TextTables.Stands text stored tables) :
    List.Forall₂ (FindingColumns text written) stored.findings (tables.findings.map (·.finding)) :=
  List.forall₂_map_right_iff.mpr (stands.findings.imp fun _ _ held => held.columns)

theorem refines_findingById (documented : text.Documented) (findingId : String) :
    Refines text Eq (findingById text findingId) (SqliteStorage.findingById findingId) := by
  refine refines_selectOne _
    (fun row finding held => rowToFinding_stands documented held) fun stored tables stands => ?_
  have named (row : SqlRow) (found : FindingRow) (held : FindingStands text row found) :
      (row "id").equals (.text findingId) = decide (found.id = findingId) := by
    rw [held.columns.id]
    exact SqlValue.equals_text
  have found := Rows.related_find? named stands.findings
  rw [Option.toList_map]
  exact List.forall₂_map_right_iff.mpr (found.imp fun _ _ held => held.columns)

theorem refines_selectLatest (documented : text.Documented) {condition : SqlRow → Bool} {condition' : Finding → Bool}
    (same : ∀ row finding, FindingColumns text written row finding → condition row = condition' finding) (limit : Nat) :
    Refines text Eq (selectLatest text condition limit) (SqliteStorage.selectLatest condition' limit) := by
  refine refines_select _ _ _
    (fun row finding held => rowToFinding_stands documented held) fun stored tables stands => ?_
  exact List.forall₂_take limit (TextTables.related_descending (fun row finding held => held.timestamp)
    (Rows.related_filter same (findings_related stands)))

theorem refines_latestFindings (documented : text.Documented) (limit : Nat) :
    Refines text Eq (latestFindings text limit) (SqliteStorage.latestFindings limit) :=
  refines_selectLatest documented (fun _ _ _ => rfl) limit

theorem lifecycle_equals {row : SqlRow} {finding : Finding} (held : FindingColumns text written row finding)
    (lifecycle : FindingLifecycle) :
    (row "lifecycle").equals (.text lifecycle.columnText) = decide (finding.lifecycle = lifecycle) := by
  rw [held.lifecycle, SqlValue.equals_text]
  cases finding.lifecycle <;> cases lifecycle <;> decide

theorem refines_latestFindingsByLifecycle (documented : text.Documented) (limit : Nat)
    (lifecycle : FindingLifecycleFilter) :
    Refines text Eq (latestFindingsByLifecycle text limit lifecycle)
      (SqliteStorage.latestFindingsByLifecycle limit lifecycle) := by
  cases lifecycle with
  | active => exact refines_selectLatest documented (fun row finding held => lifecycle_equals held .active) limit
  | resolved => exact refines_selectLatest documented (fun row finding held => lifecycle_equals held .resolved) limit
  | all => exact refines_latestFindings documented limit

theorem channel_equals {row : SqlRow} {finding : Finding} (held : FindingColumns text written row finding)
    (channelId : String) : (row "channel_id").equals (.text channelId) = decide (finding.channel = some channelId) := by
  rw [held.channel]
  exact TextTables.optionText_equals finding.channel channelId

theorem refines_findingsForChannel (documented : text.Documented) (channelId : String) (limit : Nat) :
    Refines text Eq (findingsForChannel text channelId limit) (SqliteStorage.findingsForChannel channelId limit) :=
  refines_selectLatest documented (fun _ _ held => channel_equals held channelId) limit

theorem refines_findingsForChannelByLifecycle (documented : text.Documented) (channelId : String) (limit : Nat)
    (lifecycle : FindingLifecycleFilter) :
    Refines text Eq (findingsForChannelByLifecycle text channelId limit lifecycle)
      (SqliteStorage.findingsForChannelByLifecycle channelId limit lifecycle) := by
  have both (lifecycle : FindingLifecycle) (row : SqlRow) (finding : Finding)
      (held : FindingColumns text written row finding) :
      ((row "channel_id").equals (.text channelId) && (row "lifecycle").equals (.text lifecycle.columnText)) =
        decide (finding.channel = some channelId ∧ finding.lifecycle = lifecycle) := by
    rw [channel_equals held, lifecycle_equals held, Bool.decide_and]
  cases lifecycle with
  | active => exact refines_selectLatest documented (both .active) limit
  | resolved => exact refines_selectLatest documented (both .resolved) limit
  | all => exact refines_findingsForChannel documented channelId limit

section Recommendations

theorem refines_saveRecommendation {recommendation : Recommendation}
    (storable : text.StorableRecommendation recommendation) :
    Refines text (fun _ _ => True) (saveRecommendation text recommendation)
      (SqliteStorage.saveRecommendation recommendation) :=
  refines_execute _ _ fun _ _ stands => stands.replaceRecommendation storable

theorem rowToRecommendation_stands (documented : text.Documented) (row : SqlRow) (recommendation : Recommendation)
    (held : RecommendationStands text row recommendation) :
    text.rowToRecommendation (row.select RowText.recommendationColumns) = .ok recommendation :=
  RowText.rowToRecommendation_ok.mpr (held.columns.imp fun _ _ _ => documented.reads)

theorem refines_latestRecommendations (documented : text.Documented) (limit : Nat) :
    Refines text Eq (latestRecommendations text limit) (SqliteStorage.latestRecommendations limit) :=
  refines_select _ _ _ (rowToRecommendation_stands documented) fun _ _ stands =>
    List.forall₂_take limit
      (TextTables.related_descending (fun _ _ held => held.columns.createdAt) stands.recommendations)

theorem refines_latestActiveRecommendations (documented : text.Documented) (limit : Nat) :
    Refines text Eq (latestActiveRecommendations text limit) (SqliteStorage.latestActiveRecommendations limit) := by
  refine refines_select _ _ _ (rowToRecommendation_stands documented) fun stored tables stands => ?_
  refine List.forall₂_take limit (TextTables.related_descending (fun row record held => held.columns.createdAt) ?_)
  refine Rows.related_filter (fun row recommendation held => ?_) stands.recommendations
  rw [TextTables.isActive_eq held]
  unfold Recommendation.isActive
  cases recommendation.lifecycle <;> simp

theorem refines_resolveRecommendationsForFinding (findingId : String) {now : DateTime} (four : now.FourDigitYear) :
    Refines text (fun _ _ => True) (resolveRecommendationsForFinding findingId now)
      (SqliteStorage.resolveRecommendationsForFinding findingId now) :=
  refines_execute _ _ fun _ _ stands => stands.resolveForFinding findingId four

theorem refines_recommendationForAction (documented : text.Documented) (actionId : String) :
    Refines text Eq (recommendationForAction text actionId) (SqliteStorage.recommendationForAction actionId) := by
  refine refines_selectOne _ (rowToRecommendation_stands documented) fun stored tables stands => ?_
  refine Rows.related_find? (fun row recommendation held => ?_) stands.recommendations
  rw [held.columns.actionId]
  exact SqlValue.equals_text

theorem refines_setActionStage (actionId : String) (stage : ActionStage) {now : DateTime} (four : now.FourDigitYear) :
    Refines text (fun _ _ => True) (setActionStage actionId stage now)
      (SqliteStorage.setActionStage actionId stage now) :=
  refines_execute _ _ fun _ _ stands => stands.setStage actionId stage four

theorem refines_syncRecommendationLifecycles {now : DateTime} (four : now.FourDigitYear) :
    Refines text (fun _ _ => True) (syncRecommendationLifecycles now)
      (SqliteStorage.syncRecommendationLifecycles now) :=
  refines_execute _ _ fun _ _ stands => stands.resolveRecommendations four

theorem refines_appendAudit {entry : AuditEntry} (storable : text.StorableAudit entry) :
    Refines text (fun _ _ => True) (appendAudit text entry) (SqliteStorage.appendAudit entry) :=
  refines_sql _ _ (coupled_statement fun _ _ stands => stands.insertAudit storable)

theorem refines_recentAudit (documented : text.Documented) (limit : Nat) :
    Refines text Eq (recentAudit text limit) (SqliteStorage.recentAudit limit) :=
  refines_select _ _ _
    (fun _ _ held => RowText.rowToAudit_ok.mpr (AuditColumns.imp (fun _ _ _ => documented.reads) held))
    fun _ _ stands => List.forall₂_take limit
      (TextTables.related_descending (fun _ _ held => held.timestamp) stands.audit)

end Recommendations

section Snapshots

theorem refines_saveChannelSnapshot {snapshot : ChannelSnapshot} (storable : snapshot.Storable) :
    Refines text (fun _ _ => True) (saveChannelSnapshot snapshot) (SqliteStorage.saveChannelSnapshot snapshot) :=
  refines_statement _ _ fun _ _ stands => stands.replaceChannelSnapshot storable

variable (documented : text.Documented)

include documented

theorem rowToSnapshot_stands (row : SqlRow) (snapshot : ChannelSnapshot) (held : SnapshotColumns written row snapshot) :
    text.rowToSnapshot (row.select RowText.snapshotColumns) = .ok snapshot :=
  RowText.rowToSnapshot_ok.mpr (held.imp fun _ _ _ => documented.reads)

theorem refines_recentChannelSnapshots (channelId : String) (limit : Nat) :
    Refines text Eq (recentChannelSnapshots text channelId limit)
      (SqliteStorage.recentChannelSnapshots channelId limit) :=
  refines_select _ _ _ (rowToSnapshot_stands documented) fun _ _ stands => stands.recentSnapshots channelId limit

theorem refines_recentChannelSnapshotsForNode (nodeId channelId : String) (limit : Nat) :
    Refines text Eq (recentChannelSnapshotsForNode text nodeId channelId limit)
      (SqliteStorage.recentChannelSnapshotsForNode nodeId channelId limit) :=
  refines_select _ _ _ (rowToSnapshot_stands documented)
    fun _ _ stands => stands.recentSnapshotsForNode nodeId channelId limit

variable (network : BitcoinNetwork)

theorem refines_recentChannelSnapshotsForNetwork (nodeId : Option String) (channelId : String) (limit : Nat) :
    Refines text Eq (recentChannelSnapshotsForNetwork text network nodeId channelId limit)
      (SqliteStorage.recentChannelSnapshotsForNetwork network nodeId channelId limit) :=
  refines_select _ _ _ (rowToSnapshot_stands documented)
    fun _ _ stands => stands.recentSnapshotsForNetwork network nodeId channelId limit

theorem refines_channelSnapshotAt (nodeId channelId : String) (observedAt : DateTime) :
    Refines text Eq (channelSnapshotAt text network nodeId channelId observedAt)
      (SqliteStorage.channelSnapshotAt network nodeId channelId observedAt) :=
  refines_selectOne _ (rowToSnapshot_stands documented)
    fun _ _ stands => stands.snapshotAt network nodeId channelId observedAt

end Snapshots

section Prune

variable (limit : List Nat → List Nat) {places : List SqlRow → List Nat} {places' : List ChannelSnapshot → List Nat}

theorem refines_pruneLoop (failure : String) (agree : TextTables.PlacesAgree places places') (fuel : Nat) :
    Refines text Eq (pruneLoop failure places fuel) (SqliteStorage.pruneLoop failure places' fuel) := by
  induction fuel with
  | zero => exact .pure rfl
  | succ fuel ih =>
    have deletes : Refines text Eq
        (sql (fun e => StorageError.backend (failure ++ ": " ++ e))
          (statement fun tables => .ok (tables.deleteSnapshots places)))
        (SqliteStorage.sql (fun e => StorageError.backend (failure ++ ": " ++ e))
          (statement fun tables => .ok (tables.deleteSnapshots places'))) :=
      refines_sql _ _ (coupled_statement fun _ _ stands => stands.deleteSnapshots agree)
    refine deletes.bind fun n n' same => ?_
    subst same
    split
    · exact .pure rfl
    · exact ih.bind fun m m' same => .pure (congrArg (n + ·) same)

theorem refines_pruneWhere (failure : String) (agree : TextTables.PlacesAgree places places') :
    Refines text Eq (pruneWhere failure places) (SqliteStorage.pruneWhere failure places') := by
  refine refines_get fun s t related => ?_
  rw [related.conn.tables.channelSnapshots.length_eq]
  exact refines_pruneLoop failure agree _

theorem refines_pruneBeyond (failure : String) {places : Int → List SqlRow → List Nat}
    {places' : Int → List ChannelSnapshot → List Nat} (agree : ∀ cap, TextTables.PlacesAgree (places cap) (places' cap))
    (cap : Option Nat) : Refines text Eq (pruneBeyond failure places cap)
    (SqliteStorage.pruneBeyond failure places' cap) := by
  cases cap with
  | none => exact .pure rfl
  | some cap =>
    unfold pruneBeyond SqliteStorage.pruneBeyond
    dsimp only
    split
    · exact refines_pruneWhere failure (agree _)
    · exact .pure rfl

theorem refines_pruneRows (policy : RetentionPolicy) {activeCutoff closedCutoff : DateTime}
    (active : activeCutoff.date.year ≤ 9999) (closed : closedCutoff.date.year ≤ 9999) :
    Refines text Eq (pruneRows limit policy activeCutoff closedCutoff)
      (SqliteStorage.pruneRows limit policy activeCutoff closedCutoff) := by
  refine (refines_pruneWhere _ fun _ _ related => congrArg limit (TextTables.staleRows_eq active closed related)).bind
    fun n n' sameAged => ?_
  refine (refines_pruneBeyond _ (fun cap _ _ related => congrArg limit (TextTables.beyondCap_eq cap related)) _).bind
    fun m m' sameCapped => ?_
  refine (refines_pruneBeyond _ (fun total _ _ related =>
    congrArg (List.take Tables.pruneChunk)
      (TextTables.beyondTotal_eq total related)) _).bind fun k k' sameTotalled => ?_
  rw [sameAged, sameCapped, sameTotalled]
  exact .pure rfl

theorem refines_pruneChannelSnapshots (policy : RetentionPolicy) {now : DateTime} (four : now.FourDigitYear) :
    Refines text Eq (pruneChannelSnapshots limit policy now)
      (SqliteStorage.pruneChannelSnapshots limit policy now) := by
  have starts : Refines text (fun _ _ => True) pruneChannelSnapshots.starting
    SqliteStorage.pruneChannelSnapshots.starting := refines_sql _ _ coupled_beginImmediate
  have commits : Refines text (fun _ _ => True) pruneChannelSnapshots.committing
    SqliteStorage.pruneChannelSnapshots.committing := refines_sql _ _ coupled_commit
  have drops : Refines text (fun _ _ => True) pruneChannelSnapshots.dropped
    SqliteStorage.pruneChannelSnapshots.dropped := refines_sql _ _ coupled_rollback
  unfold pruneChannelSnapshots SqliteStorage.pruneChannelSnapshots
  cases cutoffs : policy.cutoffs now with
  | none => exact starts.bind fun _ _ _ => drops.discard.bind fun _ _ _ => .pure rfl
  | some pair =>
    obtain ⟨active, closed⟩ := policy.cutoffs_year four.2 cutoffs
    refine starts.ladder commits drops ((refines_pruneRows limit policy active closed).bind fun n n' same => .pure ?_)
    rw [same]

end Prune

section Queue

theorem refines_isWebhookDeliveryProcessed (deliveryId : String) :
    Refines text Eq (isWebhookDeliveryProcessed deliveryId) (SqliteStorage.isWebhookDeliveryProcessed deliveryId) := by
  refine refines_sql _ _ (coupled_query fun stored tables stands => ?_)
  refine Rows.related_any (fun row delivery held => ?_) stands.webhookDeliveries
  rw [held.deliveryId]
  exact SqlValue.equals_text

theorem refines_enqueueWebhookEvent (deliveryId : String) (webhookId eventType : Option String) {event : NodeEvent}
    {acceptedAt : DateTime} (storable : text.event.ReadsBack event) (four : acceptedAt.FourDigitYear) :
    Refines text (fun _ _ => True) (enqueueWebhookEvent text deliveryId webhookId eventType event acceptedAt)
      (SqliteStorage.enqueueWebhookEvent deliveryId webhookId eventType event acceptedAt) := by
  refine refines_begin.ladder refines_commit refines_rollback ?_
  exact (refines_execute _ _ fun _ _ stands => stands.insertNewDelivery deliveryId webhookId eventType four).bind
    fun _ _ _ => refines_execute _ _ fun _ _ stands => stands.insertNewEvent deliveryId storable four

theorem rowToEvent_stands (documented : text.Documented) (row : SqlRow) (record : WebhookEventRecord)
    (held : EventColumns text written row record) : text.rowToEvent (row.select RowText.eventColumns) = .ok record :=
  RowText.rowToEvent_ok.mpr (held.imp fun _ _ _ => documented.reads)

theorem refines_pendingWebhookEvents (documented : text.Documented) (limit : Nat) :
    Refines text Eq (pendingWebhookEvents text limit) (SqliteStorage.pendingWebhookEvents limit) :=
  refines_select _ _ _ (rowToEvent_stands documented) fun _ _ stands =>
    List.forall₂_take _ (stands.acceptedEvents fun _ _ held => TextTables.processedAt_null held)

theorem refines_recentProcessedWebhookEvents (documented : text.Documented) (limit : Nat) :
    Refines text Eq (recentProcessedWebhookEvents text limit) (SqliteStorage.recentProcessedWebhookEvents limit) := by
  refine refines_select _ _ _ (rowToEvent_stands documented) fun stored tables stands => ?_
  have processed (row : SqlRow) (record : WebhookEventRecord) (held : EventColumns text written row record) :
      decide (row "processed_at" ≠ .null) = record.processedAt.isSome := by
    rw [decide_not, TextTables.processedAt_null held]
    simp
  have events := stands.acceptedEvents processed
  dsimp only
  rw [events.length_eq]
  exact List.forall₂_drop _ events

theorem refines_markWebhookEventProcessed (deliveryId : String) {processedAt : DateTime}
    (four : processedAt.FourDigitYear) :
    Refines text (fun _ _ => True) (markWebhookEventProcessed deliveryId processedAt)
      (SqliteStorage.markWebhookEventProcessed deliveryId processedAt) := by
  have marked : Coupled (SqlConnection.Related (TextTables.Stands text)) Eq
      (statement fun tables => .ok (TextTables.markProcessed deliveryId processedAt tables))
      (statement fun tables => .ok (Tables.markProcessed deliveryId processedAt tables)) :=
    coupled_statement fun _ _ stands => stands.markProcessed deliveryId four
  refine (refines_sql _ _ marked).bind fun changed changed' same => ?_
  rw [same]
  split
  · exact .throw _ _
  · exact .pure trivial

end Queue

section Simulations

variable (ext : SimulationExternal) (displayRead : String → String)

theorem refines_saveSimulationV2 (writes : text.WritesNull) {record : SimulationRecord}
    (storable : text.StorableSimulation record) :
    Refines text (fun _ _ => True) (saveSimulationV2 text ext displayRead record)
      (SqliteStorage.saveSimulationV2 ext displayRead record) := by
  unfold saveSimulationV2 SqliteStorage.saveSimulationV2
  cases validateSimulationRecord ext displayRead record with
  | error e => exact .throw _ _
  | ok u => exact refines_sql _ _ (coupled_statement fun _ _ stands => stands.insertSimulation writes storable)

theorem rowToSimulationV2_stands {row : SqlRow} {record : SimulationRecord} (held : SimulationStands text row record) :
    StatefulResult.Alike Eq (text.rowToSimulationV2 ext displayRead (row.select RowText.simulationColumns))
      ((validateSimulationRecord ext displayRead record).map fun _ => record) := by
  cases valid : validateSimulationRecord ext displayRead record with
  | ok u =>
    rw [RowText.rowToSimulationV2_ok.mpr ⟨held.columns, valid⟩]
    exact rfl
  | error e =>
    cases read : text.rowToSimulationV2 ext displayRead (row.select RowText.simulationColumns) with
    | error e' => exact trivial
    | ok other =>
      obtain ⟨columns, passed⟩ := RowText.rowToSimulationV2_ok.mp read
      rw [columns.unique held.columns, valid] at passed
      cases passed

theorem refines_simulationV2ById (simulationId : String) :
    Refines text Eq (simulationV2ById text ext displayRead simulationId)
      (SqliteStorage.simulationV2ById ext displayRead simulationId) := by
  have named (row : SqlRow) (record : SimulationRecord) (held : SimulationStands text row record) :
      (row "id").equals (.text simulationId) = decide (record.id = simulationId) := by
    rw [held.columns.id]
    exact SqlValue.equals_text
  have queried : Refines text (fun found record => List.Forall₂ (SimulationStands text) found record.toList)
      (sql StorageError.backend (query fun tables => (tables.simulations.find? fun row =>
        (row "id").equals (.text simulationId)).toList))
      (SqliteStorage.sql StorageError.backend (query fun tables =>
        Rows.lookup SimulationRecord.id tables.simulations simulationId)) :=
    refines_sql _ _ (coupled_query fun _ _ stands => Rows.related_find? named stands.simulations)
  refine queried.bind fun found record stand => ?_
  cases record with
  | none =>
    rw [Option.toList_none, List.forall₂_nil_right_iff] at stand
    rw [stand]
    exact .pure rfl
  | some record =>
    rw [Option.toList_some, List.forall₂_cons_right_iff] at stand
    obtain ⟨row, rest, held, nothing, rfl⟩ := stand
    rw [List.forall₂_nil_right_iff.mp nothing]
    have alike := rowToSimulationV2_stands ext displayRead held
    unfold SqliteStorage.rowToSimulationV2
    cases valid : validateSimulationRecord ext displayRead record <;>
      cases read : text.rowToSimulationV2 ext displayRead (row.select RowText.simulationColumns) <;>
      rw [valid, read] at alike
    case error.error e e' =>
      have unread : readRows RowText.simulationColumns (text.rowToSimulationV2 ext displayRead) [row] = .error e' := by
        show (do let record ← text.rowToSimulationV2 ext displayRead (row.select RowText.simulationColumns); _) = _
        rw [read]
        rfl
      dsimp only
      rw [unread, valid]
      exact .throw_bind _ _
    case error.ok => exact alike.elim
    case ok.error => exact alike.elim
    case ok.ok u other =>
      have same : other = record := alike
      have known : readRows RowText.simulationColumns (text.rowToSimulationV2 ext displayRead) [row] = .ok [other] :=
        readRows_related
          (R := fun row a => text.rowToSimulationV2 ext displayRead (row.select RowText.simulationColumns) = .ok a)
          (fun _ _ held => held) (.cons read .nil)
      dsimp only
      rw [known, valid]
      exact .pure (congrArg some same)

end Simulations

section Operational

def KeepsStorable (text : RowText) (f : OperationalState → OperationalState) : Prop :=
  ∀ state, text.StorableState state → text.StorableState (f state)

theorem storable_default : text.StorableState {} where
  times := by simp [OperationalState.times]
  bitcoinCore := by simp
  lightning := by simp

variable (documented : text.Documented)

include documented

theorem refines_readOperationalState :
    Refines text (fun read read' => read = read' ∧ text.StorableState (read.getD {})) (readOperationalState text)
      SqliteStorage.readOperationalState := by
  have queried : Refines text (fun found state => List.Forall₂ (OperationalStands text) found state.toList)
      (sql OperationalStateError.store (query fun tables => tables.currentState.toList))
      (SqliteStorage.sql OperationalStateError.store (query (·.operationalState))) :=
    refines_sql _ _ (coupled_query fun _ _ stands => stands.currentState)
  unfold readOperationalState SqliteStorage.readOperationalState
  refine coupled_iff.mpr fun s t held => ?_
  rcases coupled_iff.mp queried s t held with ⟨found, s', state, t', ran, ran', stand, held'⟩
    | ⟨e, s', e', t', failed, failed', held'⟩
  · have read : (found.mapM fun row => text.rowToOperationalState (row.select RowText.operationalColumns)) =
        .ok state.toList :=
      Rows.mapM_ok.mpr (stand.imp fun row state held =>
        RowText.rowToOperationalState_ok.mpr (held.columns.imp fun _ _ _ => documented.reads))
    refine .inl ⟨state, s', state, t', ?_, ran', ⟨rfl, ?_⟩, held'⟩
    · rw [bind_of_ok ran, read]
      show EStateM.Result.ok state.toList.head? s' = _
      rw [Option.head?_toList]
    · cases state with
      | none => exact storable_default
      | some state =>
        cases stand with
        | cons held rest => exact held.storable
  · rw [bind_of_error failed]
    exact .inr ⟨e, s', e', t', rfl, failed', held'⟩

theorem refines_rewriteOperationalState {f : OperationalState → OperationalState} (keeps : KeepsStorable text f) :
    Refines text (fun _ _ => True) (rewriteOperationalState text f) (SqliteStorage.rewriteOperationalState f) := by
  refine (refines_readOperationalState documented).bind fun read read' same => ?_
  obtain ⟨rfl, storable⟩ := same
  exact refines_execute _ _ fun _ _ stands => stands.writeOperationalState (keeps _ storable)

theorem refines_updateOperationalState {f : OperationalState → OperationalState} (keeps : KeepsStorable text f) :
    Refines text (fun _ _ => True) (updateOperationalState text f) (SqliteStorage.updateOperationalState f) := by
  have rewrites := (refines_rewriteOperationalState documented keeps).attempt
  refine refines_get fun s t related => ?_
  rw [related.inTransaction]
  cases t.inTransaction with
  | true =>
    refine rewrites.bind fun result result' same => ?_
    cases result <;> cases result'
    · exact .throw _ _
    · exact same.elim
    · exact same.elim
    · exact .pure trivial
  | false =>
    refine (refines_sql _ _ coupled_beginImmediate).bind fun _ _ _ => rewrites.bind fun result result' same => ?_
    cases result <;> cases result'
    · exact (refines_sql _ _ coupled_rollback).discard.bind fun _ _ _ => .throw _ _
    · exact same.elim
    · exact same.elim
    · exact (refines_sql _ _ coupled_commit).bind fun _ _ _ => .pure trivial

end Operational

end TextStorage

/-- The calls of the storage and the restarts of its process. -/
inductive DatabaseCall where
  | restart
  | beginTransaction
  | commitTransaction
  | rollbackTransaction
  | saveFinding (finding : Finding)
  | resolveFindingsForScope (scope : FindingCycleScope)
  | findingById (findingId : String)
  | latestFindings (limit : Nat)
  | latestFindingsByLifecycle (limit : Nat) (lifecycle : FindingLifecycleFilter)
  | findingsForChannel (channelId : String) (limit : Nat)
  | findingsForChannelByLifecycle (channelId : String) (limit : Nat) (lifecycle : FindingLifecycleFilter)
  | saveRecommendation (recommendation : Recommendation)
  | latestRecommendations (limit : Nat)
  | latestActiveRecommendations (limit : Nat)
  | resolveRecommendationsForFinding (findingId : String) (now : DateTime)
  | recommendationForAction (actionId : String)
  | setActionStage (actionId : String) (stage : ActionStage) (now : DateTime)
  | syncRecommendationLifecycles (now : DateTime)
  | appendAudit (entry : AuditEntry)
  | recentAudit (limit : Nat)
  | saveChannelSnapshot (snapshot : ChannelSnapshot)
  | recentChannelSnapshots (channelId : String) (limit : Nat)
  | recentChannelSnapshotsForNode (nodeId channelId : String) (limit : Nat)
  | recentChannelSnapshotsForNetwork (network : BitcoinNetwork) (nodeId : Option String) (channelId : String)
      (limit : Nat)
  | channelSnapshotAt (network : BitcoinNetwork) (nodeId channelId : String) (observedAt : DateTime)
  | pruneChannelSnapshots (limit : List Nat → List Nat) (policy : RetentionPolicy) (now : DateTime)
  | isWebhookDeliveryProcessed (deliveryId : String)
  | enqueueWebhookEvent (deliveryId : String) (webhookId eventType : Option String) (event : NodeEvent)
      (acceptedAt : DateTime)
  | pendingWebhookEvents (limit : Nat)
  | recentProcessedWebhookEvents (limit : Nat)
  | markWebhookEventProcessed (deliveryId : String) (processedAt : DateTime)
  | readOperationalState
  | updateOperationalState (f : OperationalState → OperationalState)

inductive DatabaseReply where
  | done
  | finding (found : Option Finding)
  | findings (found : List Finding)
  | recommendation (found : Option Recommendation)
  | recommendations (found : List Recommendation)
  | audit (found : List AuditEntry)
  | snapshot (found : Option ChannelSnapshot)
  | snapshots (found : List ChannelSnapshot)
  | pruned (summary : Option PruneSummary)
  | flag (value : Bool)
  | events (found : List WebhookEventRecord)
  | state (found : Option OperationalState)

def replying {ε σ α : Type} (reply : α → DatabaseReply) (program : EStateM ε σ α) (s : σ) : Option DatabaseReply × σ :=
  match program s with
  | .ok a s' => (some (reply a), s')
  | .error _ s' => (none, s')

namespace DatabaseCall

section OnText

variable (text : RowText)

def onText : DatabaseCall → TextStorage → Option DatabaseReply × TextStorage
  | restart => fun s => (some .done, ⟨s.conn.reopened s.conn, false⟩)
  | beginTransaction => replying (fun _ => .done) TextStorage.beginTransaction
  | commitTransaction => replying (fun _ => .done) TextStorage.commitTransaction
  | rollbackTransaction => replying (fun _ => .done) TextStorage.rollbackTransaction
  | saveFinding finding => replying (fun _ => .done) (TextStorage.saveFinding text finding)
  | resolveFindingsForScope scope => replying (fun _ => .done) (TextStorage.resolveFindingsForScope text scope)
  | findingById findingId => replying .finding (TextStorage.findingById text findingId)
  | latestFindings limit => replying .findings (TextStorage.latestFindings text limit)
  | latestFindingsByLifecycle limit lifecycle =>
    replying .findings (TextStorage.latestFindingsByLifecycle text limit lifecycle)
  | findingsForChannel channelId limit => replying .findings (TextStorage.findingsForChannel text channelId limit)
  | findingsForChannelByLifecycle channelId limit lifecycle =>
    replying .findings (TextStorage.findingsForChannelByLifecycle text channelId limit lifecycle)
  | saveRecommendation recommendation => replying (fun _ => .done) (TextStorage.saveRecommendation text recommendation)
  | latestRecommendations limit => replying .recommendations (TextStorage.latestRecommendations text limit)
  | latestActiveRecommendations limit => replying .recommendations (TextStorage.latestActiveRecommendations text limit)
  | resolveRecommendationsForFinding findingId now =>
    replying (fun _ => .done) (TextStorage.resolveRecommendationsForFinding findingId now)
  | recommendationForAction actionId => replying .recommendation (TextStorage.recommendationForAction text actionId)
  | setActionStage actionId stage now => replying (fun _ => .done) (TextStorage.setActionStage actionId stage now)
  | syncRecommendationLifecycles now => replying (fun _ => .done) (TextStorage.syncRecommendationLifecycles now)
  | appendAudit entry => replying (fun _ => .done) (TextStorage.appendAudit text entry)
  | recentAudit limit => replying .audit (TextStorage.recentAudit text limit)
  | saveChannelSnapshot snapshot => replying (fun _ => .done) (TextStorage.saveChannelSnapshot snapshot)
  | recentChannelSnapshots channelId limit =>
    replying .snapshots (TextStorage.recentChannelSnapshots text channelId limit)
  | recentChannelSnapshotsForNode nodeId channelId limit =>
    replying .snapshots (TextStorage.recentChannelSnapshotsForNode text nodeId channelId limit)
  | recentChannelSnapshotsForNetwork network nodeId channelId limit =>
    replying .snapshots (TextStorage.recentChannelSnapshotsForNetwork text network nodeId channelId limit)
  | channelSnapshotAt network nodeId channelId observedAt =>
    replying .snapshot (TextStorage.channelSnapshotAt text network nodeId channelId observedAt)
  | pruneChannelSnapshots limit policy now => replying .pruned (TextStorage.pruneChannelSnapshots limit policy now)
  | isWebhookDeliveryProcessed deliveryId => replying .flag (TextStorage.isWebhookDeliveryProcessed deliveryId)
  | enqueueWebhookEvent deliveryId webhookId eventType event acceptedAt =>
    replying (fun _ => .done) (TextStorage.enqueueWebhookEvent text deliveryId webhookId eventType event acceptedAt)
  | pendingWebhookEvents limit => replying .events (TextStorage.pendingWebhookEvents text limit)
  | recentProcessedWebhookEvents limit => replying .events (TextStorage.recentProcessedWebhookEvents text limit)
  | markWebhookEventProcessed deliveryId processedAt =>
    replying (fun _ => .done) (TextStorage.markWebhookEventProcessed deliveryId processedAt)
  | readOperationalState => replying .state (TextStorage.readOperationalState text)
  | updateOperationalState f => replying (fun _ => .done) (TextStorage.updateOperationalState text f)

end OnText

def onRecords : DatabaseCall → SqliteStorage → Option DatabaseReply × SqliteStorage
  | restart => fun s => (some .done, ⟨s.conn.reopened s.conn, false⟩)
  | beginTransaction => replying (fun _ => .done) SqliteStorage.beginTransaction
  | commitTransaction => replying (fun _ => .done) SqliteStorage.commitTransaction
  | rollbackTransaction => replying (fun _ => .done) SqliteStorage.rollbackTransaction
  | saveFinding finding => replying (fun _ => .done) (SqliteStorage.saveFinding finding)
  | resolveFindingsForScope scope => replying (fun _ => .done) (SqliteStorage.resolveFindingsForScope scope)
  | findingById findingId => replying .finding (SqliteStorage.findingById findingId)
  | latestFindings limit => replying .findings (SqliteStorage.latestFindings limit)
  | latestFindingsByLifecycle limit lifecycle =>
    replying .findings (SqliteStorage.latestFindingsByLifecycle limit lifecycle)
  | findingsForChannel channelId limit => replying .findings (SqliteStorage.findingsForChannel channelId limit)
  | findingsForChannelByLifecycle channelId limit lifecycle =>
    replying .findings (SqliteStorage.findingsForChannelByLifecycle channelId limit lifecycle)
  | saveRecommendation recommendation => replying (fun _ => .done) (SqliteStorage.saveRecommendation recommendation)
  | latestRecommendations limit => replying .recommendations (SqliteStorage.latestRecommendations limit)
  | latestActiveRecommendations limit => replying .recommendations (SqliteStorage.latestActiveRecommendations limit)
  | resolveRecommendationsForFinding findingId now =>
    replying (fun _ => .done) (SqliteStorage.resolveRecommendationsForFinding findingId now)
  | recommendationForAction actionId => replying .recommendation (SqliteStorage.recommendationForAction actionId)
  | setActionStage actionId stage now => replying (fun _ => .done) (SqliteStorage.setActionStage actionId stage now)
  | syncRecommendationLifecycles now => replying (fun _ => .done) (SqliteStorage.syncRecommendationLifecycles now)
  | appendAudit entry => replying (fun _ => .done) (SqliteStorage.appendAudit entry)
  | recentAudit limit => replying .audit (SqliteStorage.recentAudit limit)
  | saveChannelSnapshot snapshot => replying (fun _ => .done) (SqliteStorage.saveChannelSnapshot snapshot)
  | recentChannelSnapshots channelId limit => replying .snapshots (SqliteStorage.recentChannelSnapshots channelId limit)
  | recentChannelSnapshotsForNode nodeId channelId limit =>
    replying .snapshots (SqliteStorage.recentChannelSnapshotsForNode nodeId channelId limit)
  | recentChannelSnapshotsForNetwork network nodeId channelId limit =>
    replying .snapshots (SqliteStorage.recentChannelSnapshotsForNetwork network nodeId channelId limit)
  | channelSnapshotAt network nodeId channelId observedAt =>
    replying .snapshot (SqliteStorage.channelSnapshotAt network nodeId channelId observedAt)
  | pruneChannelSnapshots limit policy now => replying .pruned (SqliteStorage.pruneChannelSnapshots limit policy now)
  | isWebhookDeliveryProcessed deliveryId => replying .flag (SqliteStorage.isWebhookDeliveryProcessed deliveryId)
  | enqueueWebhookEvent deliveryId webhookId eventType event acceptedAt =>
    replying (fun _ => .done) (SqliteStorage.enqueueWebhookEvent deliveryId webhookId eventType event acceptedAt)
  | pendingWebhookEvents limit => replying .events (SqliteStorage.pendingWebhookEvents limit)
  | recentProcessedWebhookEvents limit => replying .events (SqliteStorage.recentProcessedWebhookEvents limit)
  | markWebhookEventProcessed deliveryId processedAt =>
    replying (fun _ => .done) (SqliteStorage.markWebhookEventProcessed deliveryId processedAt)
  | readOperationalState => replying .state SqliteStorage.readOperationalState
  | updateOperationalState f => replying (fun _ => .done) (SqliteStorage.updateOperationalState f)

/-- What a call writes is read back as it was written, and its instants have years of four digits. -/
def Storable (text : RowText) : DatabaseCall → Prop
  | saveFinding finding => text.StorableFinding finding
  | saveRecommendation recommendation => text.StorableRecommendation recommendation
  | resolveRecommendationsForFinding _ now => now.FourDigitYear
  | setActionStage _ _ now => now.FourDigitYear
  | syncRecommendationLifecycles now => now.FourDigitYear
  | appendAudit entry => text.StorableAudit entry
  | saveChannelSnapshot snapshot => snapshot.Storable
  | channelSnapshotAt _ _ _ observedAt => observedAt.FourDigitYear
  | pruneChannelSnapshots _ _ now => now.FourDigitYear
  | enqueueWebhookEvent _ _ _ event acceptedAt => text.event.ReadsBack event ∧ acceptedAt.FourDigitYear
  | markWebhookEventProcessed _ processedAt => processedAt.FourDigitYear
  | updateOperationalState f => TextStorage.KeepsStorable text f
  | _ => True

variable {text : RowText} {s : TextStorage} {t : SqliteStorage}

theorem replying_alike {ε ε' α : Type} (reply : α → DatabaseReply) {answers : α → α → Prop}
    {program : EStateM ε TextStorage α} {program' : EStateM ε' SqliteStorage α}
    (refines : TextStorage.Refines text answers program program')
    (same : ∀ a b, answers a b → reply a = reply b) (related : TextStorage.Related text s t) :
    (replying reply program s).1 = (replying reply program' t).1 ∧
      TextStorage.Related text (replying reply program s).2 (replying reply program' t).2 := by
  unfold replying
  rcases coupled_iff.mp refines s t related with ⟨a, s', b, t', ran, ran', agree, held⟩
    | ⟨e, s', e', t', failed, failed', held⟩
  · rw [ran, ran']
    exact ⟨congrArg some (same a b agree), held⟩
  · rw [failed, failed']
    exact ⟨rfl, held⟩

theorem reopened_related (related : TextStorage.Related text s t) :
    TextStorage.Related text ⟨s.conn.reopened s.conn, false⟩ ⟨t.conn.reopened t.conn, false⟩ where
  conn := by
    have saved := related.conn.saved
    refine ⟨?_, .none, related.conn.executed, related.conn.fails⟩
    show TextTables.Stands text (s.conn.saved.getD s.conn.tables) (t.conn.saved.getD t.conn.tables)
    cases started : s.conn.saved <;> cases started' : t.conn.saved <;> rw [started, started'] at saved
    · exact related.conn.tables
    · cases saved
    · cases saved
    · cases saved with
      | some held => exact held
  inTransaction := rfl

theorem onText_alike (documented : text.Documented) (call : DatabaseCall) (s : TextStorage) (t : SqliteStorage)
    (storable : call.Storable text) (related : TextStorage.Related text s t) :
    (call.onText text s).1 = (call.onRecords t).1 ∧ TextStorage.Related text (call.onText text s).2
    (call.onRecords t).2 := by
  have done {ε ε' : Type} {program : EStateM ε TextStorage Unit} {program' : EStateM ε' SqliteStorage Unit}
      (refines : TextStorage.Refines text (fun _ _ => True) program program') :=
    replying_alike (fun _ => .done) refines (fun _ _ _ => rfl) related
  have answered {ε ε' α : Type} {reply : α → DatabaseReply} {program : EStateM ε TextStorage α}
      {program' : EStateM ε' SqliteStorage α} (refines : TextStorage.Refines text Eq program program') :=
    replying_alike reply refines (fun _ _ same => congrArg reply same) related
  cases call with
  | restart => exact ⟨rfl, reopened_related related⟩
  | beginTransaction => exact done TextStorage.refines_begin
  | commitTransaction => exact done TextStorage.refines_commit
  | rollbackTransaction => exact done TextStorage.refines_rollback
  | saveFinding finding => exact done (TextStorage.refines_saveFinding documented storable)
  | resolveFindingsForScope scope => exact done (TextStorage.refines_resolveFindingsForScope documented scope)
  | findingById findingId => exact answered (TextStorage.refines_findingById documented findingId)
  | latestFindings limit => exact answered (TextStorage.refines_latestFindings documented limit)
  | latestFindingsByLifecycle limit lifecycle =>
    exact answered (TextStorage.refines_latestFindingsByLifecycle documented limit lifecycle)
  | findingsForChannel channelId limit =>
    exact answered (TextStorage.refines_findingsForChannel documented channelId limit)
  | findingsForChannelByLifecycle channelId limit lifecycle =>
    exact answered (TextStorage.refines_findingsForChannelByLifecycle documented channelId limit lifecycle)
  | saveRecommendation recommendation => exact done (TextStorage.refines_saveRecommendation storable)
  | latestRecommendations limit => exact answered (TextStorage.refines_latestRecommendations documented limit)
  | latestActiveRecommendations limit =>
    exact answered (TextStorage.refines_latestActiveRecommendations documented limit)
  | resolveRecommendationsForFinding findingId now =>
    exact done (TextStorage.refines_resolveRecommendationsForFinding findingId storable)
  | recommendationForAction actionId => exact answered (TextStorage.refines_recommendationForAction documented actionId)
  | setActionStage actionId stage now => exact done (TextStorage.refines_setActionStage actionId stage storable)
  | syncRecommendationLifecycles now => exact done (TextStorage.refines_syncRecommendationLifecycles storable)
  | appendAudit entry => exact done (TextStorage.refines_appendAudit storable)
  | recentAudit limit => exact answered (TextStorage.refines_recentAudit documented limit)
  | saveChannelSnapshot snapshot => exact done (TextStorage.refines_saveChannelSnapshot storable)
  | recentChannelSnapshots channelId limit =>
    exact answered (TextStorage.refines_recentChannelSnapshots documented channelId limit)
  | recentChannelSnapshotsForNode nodeId channelId limit =>
    exact answered (TextStorage.refines_recentChannelSnapshotsForNode documented nodeId channelId limit)
  | recentChannelSnapshotsForNetwork network nodeId channelId limit =>
    exact answered (TextStorage.refines_recentChannelSnapshotsForNetwork documented network nodeId channelId limit)
  | channelSnapshotAt network nodeId channelId observedAt =>
    exact answered (TextStorage.refines_channelSnapshotAt documented network nodeId channelId observedAt)
  | pruneChannelSnapshots limit policy now =>
    exact answered (TextStorage.refines_pruneChannelSnapshots limit policy storable)
  | isWebhookDeliveryProcessed deliveryId => exact answered (TextStorage.refines_isWebhookDeliveryProcessed deliveryId)
  | enqueueWebhookEvent deliveryId webhookId eventType event acceptedAt =>
    exact done (TextStorage.refines_enqueueWebhookEvent deliveryId webhookId eventType storable.1 storable.2)
  | pendingWebhookEvents limit => exact answered (TextStorage.refines_pendingWebhookEvents documented limit)
  | recentProcessedWebhookEvents limit =>
    exact answered (TextStorage.refines_recentProcessedWebhookEvents documented limit)
  | markWebhookEventProcessed deliveryId processedAt =>
    exact done (TextStorage.refines_markWebhookEventProcessed deliveryId storable)
  | readOperationalState =>
    exact replying_alike .state (TextStorage.refines_readOperationalState documented)
      (fun _ _ same => congrArg DatabaseReply.state same.1) related
  | updateOperationalState f => exact done (TextStorage.refines_updateOperationalState documented storable)

end DatabaseCall

def Rationale.blank : Rationale := ⟨[], [], "", [], [], .operatorActionable⟩

def Rationale.blankText : String :=
  "\x7b\"evidence\":[],\"preconditions\":[],\"expected_effect\":\"\",\"risks\":[]," ++
    "\"limitations\":[],\"actionability\":\"OperatorActionable\"\x7d"

/-- Instants are read by inverting how they are written, and JSON texts of an empty value alone. -/
noncomputable def RowText.bare : RowText :=
  let unread {α : Type} : Except String α := .error "expected value at line 1 column 1"
  let unused {α : Type} : TextForm α := ⟨fun _ => "", fun _ => unread⟩
  { readInstant := fun s => open Classical in
      if found : ∃ t : DateTime, t.FourDigitYear ∧ t.toRfc3339 = s then .ok found.choose
      else .error "premature end of input"
    debugText := fun s => s!"\"{s}\""
    unknownNetwork := fun s => s!"unknown network {s}"
    evidence := ⟨fun _ => "[]", fun s => if s = "[]" then .ok [] else unread⟩
    provenance := unused
    json := ⟨fun _ => "null", fun s => if s = "null" then .ok .null else unread⟩
    rationale := ⟨fun _ => Rationale.blankText, fun s => if s = Rationale.blankText then .ok .blank else unread⟩
    event := unused
    bitcoinCore := unused
    lightning := unused
    extractNetwork := fun value => if value.is .null then .ok .null else .error "malformed JSON"
    columnError := fun _ => "" }

theorem RowText.bare_documented : RowText.bare.Documented where
  instants t four := by
    have found : ∃ t' : DateTime, t'.FourDigitYear ∧ t'.toRfc3339 = t.toRfc3339 := ⟨t, four, rfl⟩
    have same : found.choose = t := le_antisymm
      ((toRfc3339_le found.choose_spec.1 four).mp found.choose_spec.2.le)
      ((toRfc3339_le four found.choose_spec.1).mp found.choose_spec.2.ge)
    exact (dif_pos found).trans (congrArg Except.ok same)
  networkOfNull := rfl
  network _ _ read := nomatch read

theorem RowText.bare_writesNull : RowText.bare.WritesNull := ⟨rfl, rfl⟩

theorem RowText.bare_readsBlank : RowText.bare.rationale.ReadsBack .blank := by
  have read : (if Rationale.blankText = Rationale.blankText then Except.ok Rationale.blank
      else .error "expected value at line 1 column 1") = Except.ok Rationale.blank := if_pos rfl
  exact read

open Observation in
/-- Over a fresh database file, whichever statements fail, every run of calls with storable arguments answers as it
    does over the records, and each row in the file stands for its record. -/
theorem text_storage_refines (text : RowText) (documented : text.Documented) (fails : Nat → Option String)
    (calls : List DatabaseCall) (storable : ∀ call ∈ calls, call.Storable text) :
    answers (DatabaseCall.onText text) calls ⟨{ tables := {}, fails }, false⟩ =
        answers DatabaseCall.onRecords calls ⟨{ tables := {}, fails }, false⟩ ∧
      TextTables.Stands text (after (DatabaseCall.onText text) calls ⟨{ tables := {}, fails }, false⟩).conn.tables
        (after DatabaseCall.onRecords calls ⟨{ tables := {}, fails }, false⟩).conn.tables := by
  have fresh : TextStorage.Related text ⟨{ tables := {}, fails }, false⟩ ⟨{ tables := {}, fails }, false⟩ :=
    ⟨⟨⟨.nil, .nil, .nil, .nil, .nil, .nil, .nil, .nil⟩, .none, rfl, rfl⟩, rfl⟩
  obtain ⟨same, related⟩ := answers_of_simulation (DatabaseCall.onText_alike documented) storable fresh
  exact ⟨same, related.conn.tables⟩

open Observation in
/-- A recommendation that is written in a transaction is read in it, and no more after the rollback, the finding before
    it also after a restart. -/
theorem text_storage_refines_rolled_back :
    let rationale := Rationale.mk [] [] "" [] [] .operatorActionable
    let rationaleText := "\x7b\"evidence\":[],\"preconditions\":[],\"expected_effect\":\"\",\"risks\":[]," ++
      "\"limitations\":[],\"actionability\":\"OperatorActionable\"\x7d"
    let unread {α : Type} : Except String α := .error "expected value at line 1 column 1"
    let unused {α : Type} : TextForm α := ⟨fun _ => "", fun _ => unread⟩
    let text : RowText := {
      readInstant := fun s => open Classical in
        if found : ∃ t : DateTime, t.FourDigitYear ∧ t.toRfc3339 = s then .ok found.choose
        else .error "premature end of input"
      debugText := fun s => s!"\"{s}\""
      unknownNetwork := fun s => s!"unknown network {s}"
      evidence := ⟨fun _ => "[]", fun s => if s = "[]" then .ok [] else unread⟩
      provenance := unused
      json := ⟨fun _ => "null", fun s => if s = "null" then .ok .null else unread⟩
      rationale := ⟨fun _ => rationaleText, fun s => if s = rationaleText then .ok rationale else unread⟩
      event := unused
      bitcoinCore := unused
      lightning := unused
      extractNetwork := fun value => if value.is .null then .ok .null else .error "malformed JSON"
      columnError := fun _ => "" }
    let finding := Finding.bare "f" "channel_liquidity" 0
    let recommendation : Recommendation :=
      ⟨"f", ⟨"a", .rebalanceChannel, .recommended, some "chan", .null, "summary", 0, 0⟩, rationale, some "active"⟩
    answers (DatabaseCall.onText text)
        [.saveFinding finding, .beginTransaction, .saveRecommendation recommendation, .recommendationForAction "a",
          .rollbackTransaction, .recommendationForAction "a", .restart, .latestFindings 10]
        ⟨{ tables := {}, fails := fun _ => none }, false⟩ =
      [some .done, some .done, some .done, some (.recommendation (some recommendation)), some .done,
        some (.recommendation none), some .done, some (.findings [finding])] := by
  intro rationale rationaleText unread unused text finding recommendation
  have year : DateTime.FourDigitYear 0 := by decide
  have documented : text.Documented := {
    instants := fun t four => by
      have found : ∃ t' : DateTime, t'.FourDigitYear ∧ t'.toRfc3339 = t.toRfc3339 := ⟨t, four, rfl⟩
      have same : found.choose = t := le_antisymm
        ((toRfc3339_le found.choose_spec.1 four).mp found.choose_spec.2.le)
        ((toRfc3339_le four found.choose_spec.1).mp found.choose_spec.2.ge)
      exact (dif_pos found).trans (congrArg Except.ok same)
    networkOfNull := rfl
    network := fun _ _ read => nomatch read }
  have storable : ∀ call ∈ [.saveFinding finding, .beginTransaction, .saveRecommendation recommendation,
      .recommendationForAction "a", .rollbackTransaction, .recommendationForAction "a", .restart, .latestFindings 10],
      DatabaseCall.Storable text call := by
    have saved : text.StorableFinding finding := ⟨year, year, year, rfl, fun _ member => nomatch member⟩
    have read : (if rationaleText = rationaleText then .ok rationale else unread) = Except.ok rationale := if_pos rfl
    have advised : text.StorableRecommendation recommendation := ⟨rfl, read, year, year⟩
    simp [DatabaseCall.Storable, saved, advised]
  exact (text_storage_refines text documented (fun _ => none) _ storable).1

end Rieko
