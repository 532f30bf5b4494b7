import Rieko.Storage.TextStorage

namespace Rieko

open StatefulResult SqlConnection

/-- A query of rows, whatever is stored in them: it answers with a record of each, in their order, or it fails over the
    first row that holds none. The tables stay as they are. -/
structure ReadsStrictly {ε α β : Type} (program : EStateM ε TextStorage β) (records : β → List α)
    (rows : TextTables → List SqlRow) (read : SqlRow → Except ε α) (holds : SqlRow → α → Prop) : Prop where
  holds_iff : ∀ row record, read row = .ok record ↔ holds row record
  ok_iff : ∀ s s' found, program s = .ok found s' ↔ s.conn.fails s.conn.executed = none ∧
    List.Forall₂ holds (rows s.conn.tables) (records found) ∧ s' = { s with conn := s.conn.next }
  error_iff : ∀ s s' e, s.conn.fails s.conn.executed = none → (program s = .error e s' ↔
    (∃ before row after, rows s.conn.tables = before ++ row :: after ∧
      (∀ earlier ∈ before, ∃ record, holds earlier record) ∧
      read row = .error e) ∧ s' = { s with conn := s.conn.next })

theorem ReadsStrictly.fails {ε α β : Type} {program : EStateM ε TextStorage β} {records : β → List α}
    {rows : TextTables → List SqlRow} {read : SqlRow → Except ε α} {holds : SqlRow → α → Prop}
    (strict : ReadsStrictly program records rows read holds) {s : TextStorage} {row : SqlRow}
    (found : row ∈ rows s.conn.tables) (unreadable : ∀ record, ¬holds row record) :
    StatefulResult.succeeds program s = false := by
  unfold StatefulResult.succeeds
  cases ran : program s with
  | error e s' => rfl
  | ok answer s' =>
    obtain ⟨-, related, -⟩ := (strict.ok_iff s s' answer).mp ran
    obtain ⟨record, -, held⟩ := Rows.exists_left_of_mem related.flip found
    exact absurd held (unreadable record)

namespace TextStorage

variable {ε α β : Type} {rows : TextTables → List SqlRow} {read : SqlRow → Except ε α} {holds : SqlRow → α → Prop}

def readingEach (failure : String → ε) (rows : TextTables → List SqlRow) (read : SqlRow → Except ε α) :
    EStateM ε TextStorage (List α) := do
  let found ← sql failure (query rows)
  ofExcept (found.mapM read)

theorem readingEach_eq (failure : String → ε) (s : TextStorage) (reliable : s.conn.fails s.conn.executed = none) :
    readingEach failure rows read s = match (rows s.conn.tables).mapM read with
      | .ok records => .ok records { s with conn := s.conn.next }
      | .error e => .error e { s with conn := s.conn.next } := by
  have queried : sql failure (query rows) s = .ok (rows s.conn.tables) { s with conn := s.conn.next } := by
    unfold sql
    rw [query_ok.mpr ⟨reliable, rfl, rfl⟩]
  unfold readingEach
  rw [bind_of_ok queried]
  cases (rows s.conn.tables).mapM read <;> rfl

theorem readingEach_fails (failure : String → ε) (s : TextStorage) {message : String}
    (fails : s.conn.fails s.conn.executed = some message) :
    readingEach failure rows read s = .error (failure message) { s with conn := s.conn.next } := by
  have queried : sql failure (query rows) s = .error (failure message) { s with conn := s.conn.next } := by
    unfold sql query statement
    rw [fails]
  exact bind_of_error queried _

theorem readingEach_strict (failure : String → ε) (holds_iff : ∀ row record, read row = .ok record ↔ holds row record) :
    ReadsStrictly (readingEach failure rows read) id rows read holds where
  holds_iff
  ok_iff s s' found := by
    have related : (rows s.conn.tables).mapM read = .ok found ↔ List.Forall₂ holds (rows s.conn.tables) found := by
      simp only [Rows.mapM_ok, holds_iff]
    show _ ↔ _ ∧ List.Forall₂ holds (rows s.conn.tables) found ∧ _
    rw [← related]
    cases fails : s.conn.fails s.conn.executed with
    | some message => simp [readingEach_fails failure s fails]
    | none =>
      rw [readingEach_eq failure s fails]
      cases (rows s.conn.tables).mapM read <;> simp [eq_comm]
  error_iff s s' e reliable := by
    simp only [← holds_iff, ← Rows.mapM_error]
    rw [readingEach_eq failure s reliable]
    cases (rows s.conn.tables).mapM read <;> simp [eq_comm]

theorem mapError_mapM {ε' : Type} (complaint : ε' → ε) (read : SqlRow → Except ε' α) (found : List SqlRow) :
    (found.mapM read).mapError complaint = found.mapM fun row => (read row).mapError complaint := by
  induction found with
  | nil => rfl
  | cons row found ih =>
    rw [List.mapM_cons, List.mapM_cons, ← ih]
    cases read row with
    | error e => rfl
    | ok record => cases found.mapM read <;> rfl

theorem readingEach_first {row : TextTables → Option SqlRow} (failure : String → ε)
    (holds_iff : ∀ row record, read row = .ok record ↔ holds row record) :
    ReadsStrictly (readingEach failure (fun tables => (row tables).toList) read >>= fun records => pure records.head?)
      Option.toList (fun tables => (row tables).toList) read holds where
  holds_iff
  ok_iff s s' found := by
    have each : ReadsStrictly (readingEach failure (fun tables => (row tables).toList) read) id
      (fun tables => (row tables).toList) read holds := readingEach_strict failure holds_iff
    have strict := each.ok_iff s
    rw [bind_ok]
    constructor
    · rintro ⟨records, m, ran, done⟩
      obtain ⟨reliable, related, rfl⟩ := (strict m records).mp ran
      cases done
      refine ⟨reliable, ?_, rfl⟩
      change List.Forall₂ holds _ records at related
      have atMostOne : records.length ≤ 1 := by
        rw [← related.length_eq]
        cases row s.conn.tables <;> simp
      rwa [show records.head?.toList = records from ?_]
      cases records with
      | nil => rfl
      | cons record rest => simpa using atMostOne
    · rintro ⟨reliable, related, rfl⟩
      refine ⟨found.toList, _, (strict _ _).mpr ⟨reliable, related, rfl⟩, ?_⟩
      cases found <;> rfl
  error_iff s s' e reliable := by
    rw [bind_error, (readingEach_strict failure holds_iff).error_iff s s' e reliable]
    exact or_iff_left fun later => by
      obtain ⟨records, m, -, done⟩ := later
      cases done

theorem select_strict (text : RowText) {columns : List String} {read : List SqlValue → Except ColumnError α}
    {holds : SqlRow → α → Prop} (rows : TextTables → List SqlRow)
    (holds_iff : ∀ row record, read (row.select columns) = .ok record ↔ holds row record) :
    ReadsStrictly (select text columns read rows) id rows
      (fun row => (read (row.select columns)).mapError text.rowError)
      holds := by
  have each : select text columns read rows =
      readingEach .backend rows fun row => (read (row.select columns)).mapError text.rowError := by
    unfold select readingEach readRows
    simp only [mapError_mapM]
  rw [each]
  exact readingEach_strict _ fun row record => except_mapError_ok.trans (holds_iff row record)

theorem selectOne_strict (text : RowText) {columns : List String} {read : List SqlValue → Except ColumnError α}
    {holds : SqlRow → α → Prop} (row : TextTables → Option SqlRow)
    (holds_iff : ∀ row record, read (row.select columns) = .ok record ↔ holds row record) :
    ReadsStrictly (selectOne text columns read row) Option.toList (fun tables => (row tables).toList)
      (fun row => (read (row.select columns)).mapError text.rowError) holds := by
  have each : selectOne text columns read row =
      readingEach .backend (fun tables => (row tables).toList)
        (fun row => (read (row.select columns)).mapError text.rowError)
        >>= fun records => pure records.head? := by
    unfold selectOne readingEach readRows
    simp only [mapError_mapM, bind_assoc]
  rw [each]
  exact readingEach_first _ fun row record => except_mapError_ok.trans (holds_iff row record)

theorem selectEvents_strict (text : RowText) (querying reading : String) (rows : TextTables → List SqlRow) :
    ReadsStrictly (selectEvents text querying reading rows) id rows
      (fun row => (text.rowToEvent (row.select RowText.eventColumns)).mapError fun e =>
        .corrupt s!"reading {reading}: {text.columnError e}")
      (EventColumns text text.reading) := by
  have each : selectEvents text querying reading rows =
      readingEach (fun e => .backend s!"querying {querying}: {e}") rows fun row =>
        (text.rowToEvent (row.select RowText.eventColumns)).mapError fun e =>
          .corrupt s!"reading {reading}: {text.columnError e}" := by
    unfold selectEvents readingEach readRows
    simp only [mapError_mapM]
  rw [each]
  exact readingEach_strict _ fun row record => except_mapError_ok.trans RowText.rowToEvent_ok

theorem readOperationalState_strict (text : RowText) :
    ReadsStrictly (readOperationalState text) Option.toList (fun tables => tables.currentState.toList)
      (fun row =>
        (text.rowToOperationalState (row.select RowText.operationalColumns)).mapError OperationalStateError.store)
      (OperationalColumns text text.reading) := by
  have each : readOperationalState text = readingEach .store (fun tables => tables.currentState.toList)
      (fun row =>
        (text.rowToOperationalState (row.select RowText.operationalColumns)).mapError OperationalStateError.store)
        >>= fun records => pure records.head? := by
    unfold readOperationalState readingEach
    simp only [mapError_mapM, bind_assoc]
  rw [each]
  exact readingEach_first _ fun row record => except_mapError_ok.trans RowText.rowToOperationalState_ok

section Recommendations

open TextTables

variable (text : RowText)

theorem latestRecommendations_strict (limit : Nat) :
    ReadsStrictly (latestRecommendations text limit) id
      (fun tables => (descending "created_at" tables.recommendations).take limit)
      (fun row => (text.rowToRecommendation (row.select RowText.recommendationColumns)).mapError text.rowError)
      (RecommendationColumns text text.reading) :=
  select_strict text _ fun _ _ => RowText.rowToRecommendation_ok

theorem latestActiveRecommendations_strict (limit : Nat) :
    ReadsStrictly (latestActiveRecommendations text limit) id
      (fun tables => (descending "created_at" (tables.recommendations.filter isActive)).take limit)
      (fun row => (text.rowToRecommendation (row.select RowText.recommendationColumns)).mapError text.rowError)
      (RecommendationColumns text text.reading) :=
  select_strict text _ fun _ _ => RowText.rowToRecommendation_ok

theorem recommendationForAction_strict (actionId : String) :
    ReadsStrictly (recommendationForAction text actionId) Option.toList
      (fun tables => (tables.recommendations.find? fun row => (row "action_id").equals (.text actionId)).toList)
      (fun row => (text.rowToRecommendation (row.select RowText.recommendationColumns)).mapError text.rowError)
      (RecommendationColumns text text.reading) :=
  selectOne_strict text _ fun _ _ => RowText.rowToRecommendation_ok

end Recommendations

end TextStorage

open TextStorage TextTables in
/-- The queries of the storage over rows, with the rows that each finds and what a row has to hold. -/
structure StrictQueries (text : RowText) : Prop where
  selectLatest (condition : SqlRow → Bool) (limit : Nat) :
    ReadsStrictly (selectLatest text condition limit) id
      (fun tables => (descending "ts" (tables.findings.filter condition)).take limit)
      (fun row => (text.rowToFinding (row.select RowText.findingColumns)).mapError text.rowError)
      (FindingColumns text text.reading)
  findingById (findingId : String) :
    ReadsStrictly (findingById text findingId) Option.toList
      (fun tables => (tables.findings.find? fun row => (row "id").equals (.text findingId)).toList)
      (fun row => (text.rowToFinding (row.select RowText.findingColumns)).mapError text.rowError)
      (FindingColumns text text.reading)
  latestRecommendations (limit : Nat) :
    ReadsStrictly (latestRecommendations text limit) id
      (fun tables => (descending "created_at" tables.recommendations).take limit)
      (fun row => (text.rowToRecommendation (row.select RowText.recommendationColumns)).mapError text.rowError)
      (RecommendationColumns text text.reading)
  latestActiveRecommendations (limit : Nat) :
    ReadsStrictly (latestActiveRecommendations text limit) id
      (fun tables => (descending "created_at" (tables.recommendations.filter isActive)).take limit)
      (fun row => (text.rowToRecommendation (row.select RowText.recommendationColumns)).mapError text.rowError)
      (RecommendationColumns text text.reading)
  recommendationForAction (actionId : String) :
    ReadsStrictly (recommendationForAction text actionId) Option.toList
      (fun tables => (tables.recommendations.find? fun row => (row "action_id").equals (.text actionId)).toList)
      (fun row => (text.rowToRecommendation (row.select RowText.recommendationColumns)).mapError text.rowError)
      (RecommendationColumns text text.reading)
  recentAudit (limit : Nat) :
    ReadsStrictly (recentAudit text limit) id (fun tables => (descending "ts" tables.audit).take limit)
      (fun row => (text.rowToAudit (row.select RowText.auditColumns)).mapError text.rowError)
      (AuditColumns text text.reading)
  recentChannelSnapshots (channelId : String) (limit : Nat) :
    ReadsStrictly (recentChannelSnapshots text channelId limit) id (recentSnapshots channelId limit)
      (fun row => (text.rowToSnapshot (row.select RowText.snapshotColumns)).mapError text.rowError)
      (SnapshotColumns text.reading)
  recentChannelSnapshotsForNode (nodeId channelId : String) (limit : Nat) :
    ReadsStrictly (recentChannelSnapshotsForNode text nodeId channelId limit) id
      (recentSnapshotsForNode nodeId channelId limit)
      (fun row => (text.rowToSnapshot (row.select RowText.snapshotColumns)).mapError text.rowError)
      (SnapshotColumns text.reading)
  recentChannelSnapshotsForNetwork (network : BitcoinNetwork) (nodeId : Option String) (channelId : String)
    (limit : Nat) :
    ReadsStrictly (recentChannelSnapshotsForNetwork text network nodeId channelId limit) id
      (recentSnapshotsForNetwork network nodeId channelId limit)
      (fun row => (text.rowToSnapshot (row.select RowText.snapshotColumns)).mapError text.rowError)
      (SnapshotColumns text.reading)
  channelSnapshotAt (network : BitcoinNetwork) (nodeId channelId : String) (observedAt : DateTime) :
    ReadsStrictly (channelSnapshotAt text network nodeId channelId observedAt) Option.toList
      (fun tables => (tables.snapshotAt network nodeId channelId observedAt).toList)
      (fun row => (text.rowToSnapshot (row.select RowText.snapshotColumns)).mapError text.rowError)
      (SnapshotColumns text.reading)
  pendingWebhookEvents (limit : Nat) :
    ReadsStrictly (pendingWebhookEvents text limit) id
      (fun tables => (tables.acceptedEvents fun row => row "processed_at" = .null).take (webhookLimit limit))
      (fun row => (text.rowToEvent (row.select RowText.eventColumns)).mapError fun e =>
        .corrupt s!"reading pending webhook event: {text.columnError e}")
      (EventColumns text text.reading)
  recentProcessedWebhookEvents (limit : Nat) :
    ReadsStrictly (recentProcessedWebhookEvents text limit) id
      (fun tables =>
        let events := tables.acceptedEvents fun row => row "processed_at" ≠ .null
        events.drop (events.length - webhookLimit limit))
      (fun row => (text.rowToEvent (row.select RowText.eventColumns)).mapError fun e =>
        .corrupt s!"reading processed webhook history: {text.columnError e}")
      (EventColumns text text.reading)
  readOperationalState :
    ReadsStrictly (readOperationalState text) Option.toList (fun tables => tables.currentState.toList)
      (fun row =>
        (text.rowToOperationalState (row.select RowText.operationalColumns)).mapError OperationalStateError.store)
      (OperationalColumns text text.reading)

/-- Whatever the rows hold, no query skips one or answers with less than it finds. -/
theorem rows_read_strictly (text : RowText) : StrictQueries text where
  selectLatest _ _ := TextStorage.select_strict text _ fun _ _ => RowText.rowToFinding_ok
  findingById _ := TextStorage.selectOne_strict text _ fun _ _ => RowText.rowToFinding_ok
  latestRecommendations := TextStorage.latestRecommendations_strict text
  latestActiveRecommendations := TextStorage.latestActiveRecommendations_strict text
  recommendationForAction := TextStorage.recommendationForAction_strict text
  recentAudit _ := TextStorage.select_strict text _ fun _ _ => RowText.rowToAudit_ok
  recentChannelSnapshots _ _ := TextStorage.select_strict text _ fun _ _ => RowText.rowToSnapshot_ok
  recentChannelSnapshotsForNode _ _ _ := TextStorage.select_strict text _ fun _ _ => RowText.rowToSnapshot_ok
  recentChannelSnapshotsForNetwork _ _ _ _ := TextStorage.select_strict text _ fun _ _ => RowText.rowToSnapshot_ok
  channelSnapshotAt _ _ _ _ := TextStorage.selectOne_strict text _ fun _ _ => RowText.rowToSnapshot_ok
  pendingWebhookEvents _ := TextStorage.selectEvents_strict text "pending webhook events" "pending webhook event" _
  recentProcessedWebhookEvents _ :=
    TextStorage.selectEvents_strict text "processed webhook history" "processed webhook history" _
  readOperationalState := TextStorage.readOperationalState_strict text

end Rieko
