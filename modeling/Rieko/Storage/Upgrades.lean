import Rieko.Storage.SchemaSteps
import Rieko.Storage.StrictReads

namespace Rieko

open SqlStatement StatefulResult Transition

variable {sql : SqlBatches SqlFile} {texts : MigrationTexts} {extractNetwork : SqlValue → Except String SqlValue}

/-- What an upgrade from a version keeps of the tables. -/
abbrev UpgradeKeeps (since : Int) (before after : SqlFile) : Prop :=
  SqlFile.Keeps (KeptColumn since) (MayChange since) before after

section Steps

variable {since : Int} {file after : SchemaFile SqlFile} (runs : sql.Runs texts extractNetwork)

include runs

theorem apply_ok {step : Migration} {statements : List SqlStatement}
    (member : (step, statements) ∈ schemaSteps texts extractNetwork) :
    step.apply sql file = .ok after ↔ ∃ contents,
      (if !step.isConditional || sql.hasOperationalState file.contents then runAll statements file.contents
        else .ok file.contents) = .ok contents ∧ after = ⟨step.version, contents⟩ := by
  have batch := runs.execute (step, statements) member
  dsimp only at batch
  unfold Migration.apply
  rw [batch]
  cases (if !step.isConditional || sql.hasOperationalState file.contents then runAll statements file.contents
    else .ok file.contents) with
  | error e => simp [Except.map]
  | ok contents => simp [Except.map, eq_comm]

theorem apply_keeps {step : Migration} {statements : List SqlStatement}
    (member : (step, statements) ∈ schemaSteps texts extractNetwork) (newer : since < step.version)
    (applied : step.apply sql file = .ok after) : UpgradeKeeps since file.contents after.contents := by
  obtain ⟨contents, ran, rfl⟩ := (apply_ok runs member).mp applied
  split at ran
  · exact (steps_careful texts extractNetwork _ member newer).keeps mayChange_same mayChange_chain ran
  · cases ran
    exact .refl mayChange_same _

theorem applyAll_keeps {steps : List (Migration × List SqlStatement)}
    (members : ∀ step ∈ steps, step ∈ schemaSteps texts extractNetwork ∧ since < step.1.version)
    (applied : applyAll sql (steps.map (·.1)) file = .ok after) : UpgradeKeeps since file.contents after.contents := by
  induction steps generalizing file with
  | nil =>
    cases applied
    exact .refl mayChange_same _
  | cons step steps ih =>
    obtain ⟨middle, first, rest⟩ := except_bind_ok.mp applied
    obtain ⟨member, newer⟩ := members step List.mem_cons_self
    exact (apply_keeps runs member newer first).trans mayChange_chain
      (ih (fun other later => members other (List.mem_cons_of_mem _ later)) rest)

end Steps

theorem migrations_eq (texts : MigrationTexts) (extractNetwork : SqlValue → Except String SqlValue) :
    (schemaSteps texts extractNetwork).map (·.1) = migrations texts := rfl

theorem upgrade_keeps (runs : sql.Runs texts extractNetwork) {file after : SchemaFile SqlFile}
    (applied : applyAll sql ((migrations texts).filter fun step => file.userVersion < step.version) file = .ok after) :
    UpgradeKeeps file.userVersion file.contents after.contents := by
  have steps : ((schemaSteps texts extractNetwork).filter fun step => file.userVersion < step.1.version).map (·.1) =
      (migrations texts).filter fun step => file.userVersion < step.version := by
    rw [← migrations_eq texts extractNetwork, List.filter_map]
    rfl
  rw [← steps] at applied
  refine applyAll_keeps runs (fun step member => ?_) applied
  rw [List.mem_filter, decide_eq_true_eq] at member
  exact member

theorem newest_has_no_step (texts : MigrationTexts) {version : Int} (newest : 17 ≤ version) :
    ((migrations texts).filter fun step => version < step.version) = [] := by
  have below : ∀ step ∈ migrations texts, step.version ≤ 17 := by simp [migrations]
  refine List.filter_eq_nil_iff.mpr fun step member => ?_
  have bound := below step member
  simp only [decide_eq_true_eq]
  omega

namespace Openers

variable {C : Type} {sql : SqlBatches C} {binaries : Nat → SchemaBinary} {s : Openers C} {t : OpenerTick}

/-- A step leaves the committed file, or it commits all steps that were pending on it. -/
theorem next_committed (inv : Inv sql binaries s) : (next sql binaries s t).db.committed = s.db.committed ∨
    applyAll sql ((binaries t.process).steps.filter fun step => s.db.committed.userVersion < step.version)
      s.db.committed = .ok (next sql binaries s t).db.committed := by
  by_cases commits : ∃ tx, s.Commits t tx
  · obtain ⟨tx, commits⟩ := commits
    obtain ⟨owned, ⟨found, stands⟩, works⟩ := commits
    obtain ⟨opened, owner⟩ := SharedDatabase.ownedBy_eq_some.mp owned
    have upgraded := (inv tx opened).1
    rw [owner] at upgraded
    simp only [Upgraded, stands, List.append_nil] at upgraded
    obtain ⟨-, done, steps, applied⟩ := upgraded
    rw [← steps] at applied
    rw [next_of_commits ⟨owned, ⟨found, stands⟩, works⟩]
    exact .inr applied
  · exact .inl (next_of_not_commits inv fun tx also => commits ⟨tx, also⟩).1

theorem run_committed (sql : SqlBatches C) (texts : MigrationTexts) (file : SchemaFile C) (schedule : List OpenerTick) :
    let s := run (next sql fun _ => .this texts) (.start file) schedule
    s.db.committed = file ∨ s.db.committed.userVersion = 17 ∧
      applyAll sql ((migrations texts).filter fun step => file.userVersion < step.version) file =
        .ok s.db.committed := by
  let Holds (s : Openers C) : Prop := Inv sql (fun _ => .this texts) s ∧
    (s.db.committed = file ∨ s.db.committed.userVersion = 17 ∧
      applyAll sql ((migrations texts).filter fun step => file.userVersion < step.version) file = .ok s.db.committed)
  have step (s : Openers C) (t : OpenerTick) (held : Holds s) : Holds (next sql (fun _ => .this texts) s t) := by
    refine ⟨held.1.next t, ?_⟩
    have nothing {found : SchemaFile C} (newest : 17 ≤ found.userVersion)
        (applied : applyAll sql ((migrations texts).filter fun step => found.userVersion < step.version) found =
          .ok (next sql (fun _ => .this texts) s t).db.committed) :
        (next sql (fun _ => .this texts) s t).db.committed = found := by
      rw [newest_has_no_step texts newest] at applied
      exact (Except.ok.inj applied).symm
    rcases next_committed (t := t) held.1 with same | applied
    · rw [same]
      exact held.2
    · rcases held.2 with old | upgraded
      · rw [old] at applied
        rcases le_or_gt 17 file.userVersion with newest | older
        · exact .inl (nothing newest applied)
        · exact .inr ⟨(this_complete texts sql file _ applied).mpr older.le, applied⟩
      · rw [nothing upgraded.1.ge applied]
        exact .inr upgraded
  exact (run_invariant step (s := .start file) ⟨Inv.start file, .inl rfl⟩ schedule).2

end Openers

def sampleBatches (extractNetwork : SqlValue → Except String SqlValue) : SqlBatches SqlFile where
  execute text file := ((schemaSteps sampleTexts extractNetwork).find? fun step => step.1.sql = text).elim
    (.error "syntax error") fun step => runAll step.2 file
  hasOperationalState file := (file.schema.tables "operational_state").isSome

theorem sampleBatches_runs (extractNetwork : SqlValue → Except String SqlValue) :
    (sampleBatches extractNetwork).Runs sampleTexts extractNetwork where
  execute := by
    unfold schemaSteps migrations
    simp only [List.zip_cons_cons, List.zip_nil_left, List.forall_mem_cons]
    exact ⟨rfl, rfl, rfl, rfl, rfl, rfl, rfl, rfl, rfl, rfl, rfl, rfl, rfl, rfl, rfl, rfl, rfl,
      fun _ member => nomatch member⟩
  operational _ := rfl

def sampleExtract (value : SqlValue) : Except String SqlValue :=
  if value = .null then .ok .null else .error "malformed JSON"

/-- Whoever opens a database file of any contents, and whichever of their statements fail: the file is as it was, or it
    has the newest version with every row of every table in its place. A column keeps its values, but for the lifecycle
    of findings that were active before version 11, if programs of the file's version had the column. -/
theorem upgrades_keep_rows (sql : SqlBatches SqlFile) (texts : MigrationTexts)
    (extractNetwork : SqlValue → Except String SqlValue) (runs : sql.Runs texts extractNetwork)
    (file : SchemaFile SqlFile) (schedule : List OpenerTick) :
    let s := run (Openers.next sql fun _ => .this texts) (.start file) schedule
    s.db.committed = file ∨
      s.db.committed.userVersion = 17 ∧ UpgradeKeeps file.userVersion file.contents s.db.committed.contents := by
  intro s
  rcases Openers.run_committed sql texts file schedule with same | ⟨newest, applied⟩
  · exact .inl same
  · exact .inr ⟨newest, upgrade_keeps runs applied⟩

def versionTen : SchemaFile SqlFile where
  userVersion := 10
  contents := {
    schema.tables := fun name =>
      if name = "findings" then some ⟨[{ name := "id" }, { name := "lifecycle" }, { name := "provenance" }], ["id"]⟩
      else if name = "channel_snapshots" then
        some ⟨{ name := "node_id" } :: SchemaSteps.balanceColumns ++ SchemaSteps.spendableColumns,
          ["node_id", "channel_id", "ts"]⟩
      else none
    rows := fun name =>
      if name = "findings" then [SqlRow.set (fun _ => .null) [("id", .text "f"), ("lifecycle", .text "active")]]
      else if name = "channel_snapshots" then
        [SqlRow.set (fun _ => .null) [("node_id", .text "node"), ("channel_id", .text "chan"), ("ts", .text "2020"),
          ("local_ratio", .integer 0), ("status_int", .integer 1), ("spendable_outbound_msat", .integer 7),
          ("spendable_inbound_msat", .integer 0)]]
      else [] }

def racing (statements : Nat) : List OpenerTick :=
  ([0, 1] ++ List.replicate statements 0 ++ [1, 1, 1]).map fun process => { process }

def raced (file : SchemaFile SqlFile) (statements : Nat) : Openers SqlFile :=
  run (Openers.next (sampleBatches sampleExtract) fun _ => .this sampleTexts) (.start file) (racing statements)

theorem upgrades_keep_rows_racing :
    let s := raced versionTen 17
    UpgradeKeeps 10 versionTen.contents s.db.committed.contents ∧
      (s.db.committed.contents.rows "findings").map (·.select ["id", "lifecycle", "consecutive_absent"]) =
        [[.text "f", .text "resolved", .integer 0]] ∧
      (s.db.committed.contents.rows "channel_snapshots").map
          (·.select ["network_id", "node_id", "channel_id", "spendable_outbound_msat", "state_digest"]) =
        [[.null, .text "node", .text "chan", .integer 7, .null]] ∧
      s.progress 0 = .finished (.ok ()) ∧ s.progress 1 = .finished (.ok ()) := by
  intro s
  have newest : s.db.committed.userVersion = 17 := by decide
  have kept : s.db.committed = versionTen ∨
      s.db.committed.userVersion = 17 ∧ UpgradeKeeps 10 versionTen.contents s.db.committed.contents :=
    upgrades_keep_rows (sampleBatches sampleExtract) sampleTexts sampleExtract (sampleBatches_runs sampleExtract)
      versionTen (racing 17)
  rcases kept with same | ⟨-, kept⟩
  · rw [same] at newest
    exact absurd newest (by decide)
  · exact ⟨kept, by decide⟩

section Listings

theorem listed_of_nonempty (column : String) {limit : Nat} (some : limit ≠ 0) {rows : List SqlRow}
    (nonempty : rows ≠ []) : ∃ row ∈ (TextTables.descending column rows).take limit, row ∈ rows := by
  have sorted := List.perm_insertionSort (fun a b : SqlRow => (b column).le (a column) = true) rows
  cases listed : TextTables.descending column rows with
  | nil =>
    change List.Perm (TextTables.descending column rows) rows at sorted
    rw [listed] at sorted
    exact absurd (List.nil_perm.mp sorted) nonempty
  | cons row rest =>
    refine ⟨row, ?_, sorted.subset (by
      change row ∈ TextTables.descending column rows
      simp [listed])⟩
    cases limit with
    | zero => exact absurd rfl some
    | succ limit => simp

end Listings

section Defaults

def ColumnHolds (name column : String) (value : SqlValue) (file : SqlFile) : Prop :=
  ∃ table, file.schema.tables name = some table ∧ column ∈ table.names ∧ ∀ row ∈ file.rows name, row column = value

theorem holds_added {name : String} {column : SqlColumn} {before rest : List SqlStatement} {file after : SqlFile}
    (adds : rest.all adds = true) (ran : runAll (before ++ addColumn name column :: rest) file = .ok after) :
    ColumnHolds name column.name column.default after := by
  obtain ⟨middle, -, ran⟩ := runAll_append.mp ran
  obtain ⟨added, first, ran⟩ := runAll_cons.mp ran
  obtain ⟨table, -, -, tables, rows⟩ := of_addColumn first
  have careful : Careful (fun _ _ => True) (fun _ _ => Eq) rest := by
    simpa using careful_of_adds rest adds .nil
  have keeps := careful.keeps (fun _ _ _ => rfl) (fun _ _ _ _ _ => Eq.trans) ran
  have found : added.schema.tables name = some { table with columns := table.columns ++ [column] } := by
    rw [tables, Function.update_self]
  have member : column.name ∈ ({ table with columns := table.columns ++ [column] } : SqlTable).names := by
    simp [SqlTable.names]
  obtain ⟨table', found', columns, related⟩ := keeps.table name _ found
  refine ⟨table', found', columns _ member trivial, fun row inside => ?_⟩
  obtain ⟨row', inside', same⟩ := Rows.exists_left_of_mem related inside
  rw [← same _ member trivial]
  rw [rows, Function.update_self] at inside'
  obtain ⟨old, -, rfl⟩ := List.mem_map.mp inside'
  simp [SqlRow.set_cons]

theorem ColumnHolds.kept {name column : String} {value : SqlValue} {since : Int} {file after : SqlFile}
    (holds : ColumnHolds name column value file) (kept : KeptColumn since name column)
    (stable : ∀ changed, MayChange since name column value changed → changed = value)
    (keeps : UpgradeKeeps since file after) : ColumnHolds name column value after := by
  obtain ⟨table, found, member, rows⟩ := holds
  obtain ⟨table', found', columns, related⟩ := keeps.table name table found
  refine ⟨table', found', columns column member kept, fun row inside => ?_⟩
  obtain ⟨row', inside', change⟩ := Rows.exists_left_of_mem related inside
  have changes := change column member kept
  rw [rows row' inside'] at changes
  exact stable _ changes

end Defaults

theorem pending_split {file : SchemaFile SqlFile} (place : Nat) {step : Migration} {statements : List SqlStatement}
    (older : file.userVersion < step.version)
    (placed : (schemaSteps texts extractNetwork).drop place =
      (step, statements) :: (schemaSteps texts extractNetwork).drop (place + 1))
    (later : ∀ other ∈ (schemaSteps texts extractNetwork).drop (place + 1), step.version < other.1.version) :
    ((migrations texts).filter fun step => file.userVersion < step.version) =
      (((schemaSteps texts extractNetwork).take place).map (·.1)).filter
      (fun step => file.userVersion < step.version) ++
        step :: ((schemaSteps texts extractNetwork).drop (place + 1)).map (·.1) := by
  have all : migrations texts = ((schemaSteps texts extractNetwork).take place).map (·.1) ++
      step :: ((schemaSteps texts extractNetwork).drop (place + 1)).map (·.1) := by
    rw [← migrations_eq texts extractNetwork]
    conv_lhs => rw [← List.take_append_drop place (schemaSteps texts extractNetwork), placed]
    rw [List.map_append, List.map_cons]
  have newer : ∀ other ∈ ((schemaSteps texts extractNetwork).drop (place + 1)).map (·.1),
      decide (file.userVersion < other.version) = true := by
    intro other member
    obtain ⟨pair, inside, rfl⟩ := List.mem_map.mp member
    exact decide_eq_true (older.trans (later pair inside))
  rw [all, List.filter_append, List.filter_cons_of_pos (by simpa using older), List.filter_eq_self.mpr newer]

section Recommendations

variable {file after : SchemaFile SqlFile} (runs : sql.Runs texts extractNetwork)

include runs

/-- What an older file holds in a column that a later step adds, once it is upgraded. -/
theorem upgrade_holds {name : String} {column : SqlColumn} (place : Nat) {step : Migration}
    (before : List SqlStatement) {rest : List SqlStatement} (older : file.userVersion < step.version)
    (placed : (schemaSteps texts extractNetwork).drop place =
      (step, before ++ addColumn name column :: rest) :: (schemaSteps texts extractNetwork).drop (place + 1))
    (later : ∀ other ∈ (schemaSteps texts extractNetwork).drop (place + 1), step.version < other.1.version)
    (always : step.isConditional = false) (adds : rest.all adds = true)
    (kept : KeptColumn step.version name column.name)
    (stable : ∀ changed, MayChange step.version name column.name column.default changed → changed = column.default)
    (applied : applyAll sql ((migrations texts).filter fun step => file.userVersion < step.version) file = .ok after) :
    ColumnHolds name column.name column.default after.contents := by
  rw [pending_split place older placed later] at applied
  unfold applyAll at applied
  rw [List.foldlM_append] at applied
  obtain ⟨reached, -, applied⟩ := except_bind_ok.mp applied
  obtain ⟨added, first, applied⟩ := except_bind_ok.mp applied
  have member : (step, before ++ addColumn name column :: rest) ∈ schemaSteps texts extractNetwork :=
    List.mem_of_mem_drop (placed ▸ List.mem_cons_self)
  obtain ⟨contents, ran, rfl⟩ := (apply_ok runs member).mp first
  rw [always, Bool.not_false, Bool.true_or, if_pos rfl] at ran
  refine (holds_added adds ran).kept kept stable ?_
  exact applyAll_keeps runs (fun other inside => ⟨List.mem_of_mem_drop inside, later other inside⟩) applied

theorem old_rationale (old : file.userVersion < 5)
    (applied : applyAll sql ((migrations texts).filter fun step => file.userVersion < step.version) file = .ok after) :
    ColumnHolds "recommendations" "rationale" (.text "\x7b\x7d") after.contents :=
  upgrade_holds runs 4 [] old rfl (by simp [schemaSteps, migrations]) rfl rfl (by simp [KeptColumn])
    (by simp [MayChange]) applied

theorem old_lifecycle (old : file.userVersion < 14)
    (applied : applyAll sql ((migrations texts).filter fun step => file.userVersion < step.version) file = .ok after) :
    ColumnHolds "recommendations" "lifecycle" (.text "active") after.contents :=
  upgrade_holds runs 13 [createTable true "recommendations" SchemaSteps.recommendations] old rfl
    (by simp [schemaSteps, migrations]) rfl rfl (by simp [KeptColumn]) (by simp [MayChange]) applied

end Recommendations

/-- A recommendation that was stored before version 5 cannot be read after the upgrade, and neither can any listing that
    finds it, if a rationale without its fields is refused. -/
theorem old_recommendations_unreadable (sql : SqlBatches SqlFile) (texts : MigrationTexts)
    (extractNetwork : SqlValue → Except String SqlValue) (runs : sql.Runs texts extractNetwork) (text : RowText)
    (refused : ∀ rationale, text.rationale.read "\x7b\x7d" ≠ .ok rationale) (file : SchemaFile SqlFile)
    (old : file.userVersion < 5) (present : (file.contents.schema.tables "recommendations").isSome = true)
    (stored : file.contents.rows "recommendations" ≠ []) (schedule : List OpenerTick) :
    let s := run (Openers.next sql fun _ => .this texts) (.start file) schedule
    s.db.committed = file ∨ ∀ storage : TextStorage,
      storage.conn.tables.recommendations = s.db.committed.contents.rows "recommendations" →
      (∀ limit ≠ 0, StatefulResult.succeeds (TextStorage.latestRecommendations text limit) storage = false ∧
        StatefulResult.succeeds (TextStorage.latestActiveRecommendations text limit) storage = false) ∧
      ∀ row ∈ storage.conn.tables.recommendations, ∀ actionId, row "action_id" = .text actionId →
        StatefulResult.succeeds (TextStorage.recommendationForAction text actionId) storage = false := by
  intro s
  rcases Openers.run_committed sql texts file schedule with same | ⟨-, applied⟩
  · exact .inl same
  · refine .inr fun storage rows => ?_
    obtain ⟨-, -, -, rationale⟩ := old_rationale runs old applied
    obtain ⟨-, -, -, lifecycle⟩ := old_lifecycle runs (by omega) applied
    obtain ⟨table, found⟩ := Option.isSome_iff_exists.mp present
    obtain ⟨-, -, -, related⟩ := (upgrade_keeps runs applied).table "recommendations" table found
    rw [← rows] at rationale lifecycle related
    have nonempty : storage.conn.tables.recommendations ≠ [] := fun none => stored (by
      rw [none] at related
      exact List.forall₂_nil_right_iff.mp related)
    have unreadable (row : SqlRow) (member : row ∈ storage.conn.tables.recommendations) (record : Recommendation) :
        ¬RecommendationColumns text text.reading row record := by
      intro held
      obtain ⟨written, is, read⟩ := held.rationale
      rw [rationale row member] at is
      cases is
      exact refused _ read
    have active : storage.conn.tables.recommendations.filter TextTables.isActive =
        storage.conn.tables.recommendations := by
      refine List.filter_eq_self.mpr fun row member => ?_
      unfold TextTables.isActive
      rw [lifecycle row member, SqlValue.equals_text]
      simp
    refine ⟨fun limit some => ⟨?_, ?_⟩, fun row member actionId named => ?_⟩
    · obtain ⟨row, listed, member⟩ := listed_of_nonempty "created_at" some nonempty
      exact (TextStorage.latestRecommendations_strict text limit).fails listed (unreadable row member)
    · obtain ⟨row, listed, member⟩ := listed_of_nonempty "created_at" some nonempty
      rw [← active] at listed
      exact (TextStorage.latestActiveRecommendations_strict text limit).fails listed (unreadable row member)
    · have some : (storage.conn.tables.recommendations.find? fun row =>
          (row "action_id").equals (.text actionId)).isSome = true :=
        List.find?_isSome.mpr ⟨row, member, SqlValue.equals_text_iff.mpr named⟩
      obtain ⟨first, found⟩ := Option.isSome_iff_exists.mp some
      exact (TextStorage.recommendationForAction_strict text actionId).fails
        (by rw [found]; exact List.mem_singleton_self first)
        (unreadable first (List.mem_of_find?_eq_some found))

def versionFour : SchemaFile SqlFile where
  userVersion := 4
  contents := {
    schema := ((runAll (SchemaSteps.v1Schema ++ SchemaSteps.v2FindingMetadata ++ SchemaSteps.v3AuditTransitions ++
      SchemaSteps.v4OperationalState) {}).toOption.getD {}).schema
    rows := fun name =>
      if name = "recommendations" then
        [SqlRow.set (fun _ => .null) [("finding_id", .text "f"), ("action_id", .text "a"),
          ("action_type", .text "rebalance_channel"), ("stage", .text "Recommended"), ("params", .text "null"),
          ("summary", .text "summary"), ("created_at", .text "2020"), ("updated_at", .text "2020")]]
      else [] }

theorem old_recommendations_unreadable_four :
    let unread {α : Type} : TextForm α := ⟨fun _ => "", fun _ => .error "EOF while parsing a value"⟩
    let text : RowText := {
      readInstant := fun _ => .error "premature end of input"
      debugText := fun s => s!"\"{s}\""
      unknownNetwork := fun s => s!"unknown network {s}"
      evidence := unread
      provenance := unread
      json := unread
      rationale := ⟨fun _ => "", fun _ => .error "missing field evidence"⟩
      event := unread
      bitcoinCore := unread
      lightning := unread
      extractNetwork := sampleExtract
      columnError := fun _ => "" }
    let s := raced versionFour 32
    let storage : TextStorage :=
      ⟨{ tables := { recommendations := s.db.committed.contents.rows "recommendations" } }, false⟩
    s.progress 0 = .finished (.ok ()) ∧
      StatefulResult.succeeds (TextStorage.latestActiveRecommendations text 10) storage = false := by
  intro unread text s storage
  obtain ⟨newest, finished⟩ : s.db.committed.userVersion = 17 ∧ s.progress 0 = .finished (.ok ()) := by decide +kernel
  have present : (versionFour.contents.schema.tables "recommendations").isSome = true := by decide
  have stored : versionFour.contents.rows "recommendations" ≠ [] := List.cons_ne_nil _ _
  have old : versionFour.userVersion < 5 := by decide
  have unreadable := old_recommendations_unreadable (sampleBatches sampleExtract) sampleTexts sampleExtract
    (sampleBatches_runs sampleExtract) text (fun _ read => nomatch read) versionFour old present stored (racing 32)
  rw [show run (Openers.next (sampleBatches sampleExtract) fun _ => .this sampleTexts) (.start versionFour)
    (racing 32) =
    s from rfl] at unreadable
  clear_value s
  rcases unreadable with same | fails
  · rw [same] at newest
    exact absurd newest (by decide)
  · exact ⟨finished, ((fails storage rfl).1 10 (by decide)).2⟩

end Rieko
