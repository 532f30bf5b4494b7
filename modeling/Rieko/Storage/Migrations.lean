import Rieko.Lib.SharedDatabase
import Rieko.Lib.Transition
import Rieko.Storage.Types

namespace Rieko

open Transition SharedDatabase

structure Migration where
  version : Int
  sql : String
deriving DecidableEq, Repr

structure MigrationTexts where
  v1Schema : String
  v2FindingMetadata : String
  v3AuditTransitions : String
  v4OperationalState : String
  v5RecommendationRationale : String
  v6CleanupState : String
  v7SnapshotSpendable : String
  v8SimulationV2 : String
  v9FindingProvenance : String
  v10SimulationIntegrity : String
  v11SnapshotIdentity : String
  v12ConsecutiveAbsent : String
  v13WebhookDeliveries : String
  v14RecommendationLifecycle : String
  v15DurableWebhookEvents : String
  v16BitcoinCoreState : String
  v17LightningState : String

def migrations (texts : MigrationTexts) : List Migration :=
  [⟨1, texts.v1Schema⟩, ⟨2, texts.v2FindingMetadata⟩, ⟨3, texts.v3AuditTransitions⟩,
    ⟨4, texts.v4OperationalState⟩, ⟨5, texts.v5RecommendationRationale⟩, ⟨6, texts.v6CleanupState⟩,
    ⟨7, texts.v7SnapshotSpendable⟩, ⟨8, texts.v8SimulationV2⟩, ⟨9, texts.v9FindingProvenance⟩,
    ⟨10, texts.v10SimulationIntegrity⟩, ⟨11, texts.v11SnapshotIdentity⟩, ⟨12, texts.v12ConsecutiveAbsent⟩,
    ⟨13, texts.v13WebhookDeliveries⟩, ⟨14, texts.v14RecommendationLifecycle⟩,
    ⟨15, texts.v15DurableWebhookEvents⟩, ⟨16, texts.v16BitcoinCoreState⟩, ⟨17, texts.v17LightningState⟩]

structure SchemaFile (Contents : Type) where
  userVersion : Int
  contents : Contents

/-- What SQLite does with a batch of statements, and whether there is a table `operational_state`. -/
structure SqlBatches (Contents : Type) where
  execute : String → Contents → Except String Contents
  hasOperationalState : Contents → Bool

structure SchemaBinary where
  current : Int
  steps : List Migration
deriving DecidableEq

def SchemaBinary.this (texts : MigrationTexts) : SchemaBinary := ⟨currentSchemaVersion, migrations texts⟩

variable {C : Type}

/-- The steps that only apply to a database with operational state. -/
def Migration.isConditional (step : Migration) : Bool := step.version = 16 ∨ step.version = 17

def Migration.apply (sql : SqlBatches C) (step : Migration) (file : SchemaFile C) :
    Except String (SchemaFile C) :=
  (if !step.isConditional || sql.hasOperationalState file.contents then sql.execute step.sql file.contents
    else .ok file.contents).map fun contents => ⟨step.version, contents⟩

def applyAll (sql : SqlBatches C) (steps : List Migration) (file : SchemaFile C) : Except String (SchemaFile C) :=
  steps.foldlM (fun file step => step.apply sql file) file

/-- The next statement of a migrating transaction. `found` is the version read under the lock. -/
inductive MigrationWork where
  | readVersion
  | upgrade (found : Int) (pending : List Migration)
  | execute (found : Int) (step : Migration) (rest : List Migration)
  | record (found : Int) (step : Migration) (rest : List Migration)
deriving DecidableEq

def MigrationWork.failure (message : String) : MigrationWork → StorageError
  | .readVersion => .backend s!"reading schema version: {message}"
  | .upgrade _ [] => .backend s!"committing migration: {message}"
  | .upgrade _ (step :: _) =>
    if step.isConditional then .backend s!"checking operational_state table: {message}"
    else .backend s!"migration to v{step.version} failed: {message}"
  | .execute _ step _ => .backend s!"migration to v{step.version} failed: {message}"
  | .record _ _ _ => .backend s!"recording schema version: {message}"

inductive MigrationProgress where
  | ready
  | pending
  | finished (result : Except StorageError Unit)
deriving DecidableEq

structure Openers (C : Type) where
  db : SharedDatabase (SchemaFile C) MigrationWork
  progress : Nat → MigrationProgress

structure OpenerTick where
  process : Nat
  fails : Option String := none

namespace Openers

def start (file : SchemaFile C) : Openers C := ⟨⟨file, none⟩, fun _ => .ready⟩

def set (s : Openers C) (process : Nat) (progress : MigrationProgress) : Openers C :=
  { s with progress := Function.update s.progress process progress }

/-- An error drops the transaction, which rolls it back. -/
def abandon (s : Openers C) (process : Nat) (error : StorageError) : Openers C :=
  { s.set process (.finished (.error error)) with db := s.db.rollback }

def outside (binary : SchemaBinary) (s : Openers C) (t : OpenerTick) : Openers C :=
  match s.progress t.process with
  | .ready =>
    match t.fails with
    | some message => s.set t.process (.finished (.error (.backend s!"reading schema version: {message}")))
    | none =>
      let current := s.db.committed.userVersion
      if current = binary.current then s.set t.process (.finished (.ok ()))
      else if binary.current < current then
        s.set t.process (.finished (.error (.unsupported (s!"database schema version {current} is newer than " ++
          s!"the supported version {binary.current}; upgrade rieo before opening it"))))
      else s.set t.process .pending
  | .pending =>
    match t.fails with
    | some message => s.set t.process (.finished (.error (.backend s!"starting migration: {message}")))
    | none =>
      -- an opener waits while another one holds the write lock
      match s.db.begin t.process .readVersion with
      | none => s
      | some db => { s with db }
  | .finished _ => s

def runBatch (sql : SqlBatches C) (s : Openers C) (t : OpenerTick)
    (tx : WriteTransaction (SchemaFile C) MigrationWork) (found : Int) (step : Migration)
    (rest : List Migration) : Openers C :=
  match sql.execute step.sql tx.tables.contents with
  | .error message => s.abandon t.process ((MigrationWork.execute found step rest).failure message)
  | .ok contents => { s with db := s.db.proceed tx (.record found step rest) { tx.tables with contents } }

def inside (sql : SqlBatches C) (binary : SchemaBinary) (s : Openers C) (t : OpenerTick)
    (tx : WriteTransaction (SchemaFile C) MigrationWork) : Openers C :=
  match t.fails, tx.work with
  | some message, work => s.abandon t.process (work.failure message)
  | none, .readVersion =>
    let found := tx.tables.userVersion
    let pending := binary.steps.filter fun step => found < step.version
    { s with db := s.db.proceed tx (.upgrade found pending) tx.tables }
  | none, .upgrade _ [] => { s.set t.process (.finished (.ok ())) with db := s.db.commit tx }
  | none, .upgrade found (step :: rest) =>
    if step.isConditional then
      let next := if sql.hasOperationalState tx.tables.contents then MigrationWork.execute found step rest
        else .record found step rest
      { s with db := s.db.proceed tx next tx.tables }
    else s.runBatch sql t tx found step rest
  | none, .execute found step rest => s.runBatch sql t tx found step rest
  | none, .record found step rest =>
    { s with db := s.db.proceed tx (.upgrade found rest) { tx.tables with userVersion := step.version } }

def next (sql : SqlBatches C) (binaries : Nat → SchemaBinary) (s : Openers C) (t : OpenerTick) : Openers C :=
  match s.db.ownedBy t.process with
  | some tx => s.inside sql (binaries t.process) t tx
  | none => s.outside (binaries t.process) t

def returns (sql : SqlBatches C) (binaries : Nat → SchemaBinary) (s : Openers C) (t : OpenerTick) :
    Option (Except StorageError Unit) :=
  match s.progress t.process, (next sql binaries s t).progress t.process with
  | .finished _, _ => none
  | _, .finished result => some result
  | _, _ => none

/-- A step that returns `Ok` leaves the version of its program, and has applied exactly the steps above the
    version found under the lock, if it took it. Any other step leaves the committed file as it is. -/
structure Migrates (sql : SqlBatches C) (binaries : Nat → SchemaBinary) (s : Openers C) (t : OpenerTick) :
    Prop where
  version : returns sql binaries s t = some (.ok ()) →
    (next sql binaries s t).db.committed.userVersion = (binaries t.process).current
  applied : returns sql binaries s t = some (.ok ()) → match s.db.ownedBy t.process with
    | some tx => tx.work = .upgrade s.db.committed.userVersion [] ∧
        applyAll sql ((binaries t.process).steps.filter fun step => s.db.committed.userVersion < step.version)
          s.db.committed = .ok (next sql binaries s t).db.committed
    | none => (next sql binaries s t).db.committed = s.db.committed
  kept : returns sql binaries s t ≠ some (.ok ()) → (next sql binaries s t).db.committed = s.db.committed

/-- A call that commits has found a version under the lock that its program understands. -/
def Understood (binaries : Nat → SchemaBinary) (s : Openers C) (t : OpenerTick) : Prop :=
  ∀ tx found, s.db.ownedBy t.process = some tx → tx.work = .upgrade found [] → t.fails = none →
    s.db.committed.userVersion ≤ (binaries t.process).current

instance (binaries : Nat → SchemaBinary) (s : Openers C) (t : OpenerTick) : Decidable (Understood binaries s t) :=
  decidable_of_iff ((s.db.ownedBy t.process).all fun tx => match tx.work, t.fails with
    | .upgrade _ [], none => s.db.committed.userVersion ≤ (binaries t.process).current
    | _, _ => true) (by
      unfold Understood
      rw [Option.all_eq_true]
      constructor
      · intro all tx found owned stands works
        have holds := all tx owned
        rw [stands, works] at holds
        simpa using holds
      · intro understood tx owned
        split
        next found stands works => exact decide_eq_true (understood tx found owned stands works)
        · rfl)

def Upgraded (sql : SqlBatches C) (binary : SchemaBinary) (committed : SchemaFile C)
    (tx : WriteTransaction (SchemaFile C) MigrationWork) : Prop :=
  let steps := binary.steps.filter fun step => committed.userVersion < step.version
  match tx.work with
  | .readVersion => tx.tables = committed
  | .upgrade found pending => found = committed.userVersion ∧
      ∃ done, steps = done ++ pending ∧ applyAll sql done committed = .ok tx.tables
  | .execute found step rest => found = committed.userVersion ∧
      sql.hasOperationalState tx.tables.contents = true ∧
      ∃ done, steps = done ++ step :: rest ∧ applyAll sql done committed = .ok tx.tables
  | .record found step rest => found = committed.userVersion ∧
      ∃ done before, steps = done ++ step :: rest ∧ applyAll sql done committed = .ok before ∧
        step.apply sql before = .ok { tx.tables with userVersion := step.version }

def Inv (sql : SqlBatches C) (binaries : Nat → SchemaBinary) (s : Openers C) : Prop :=
  ∀ tx, s.db.writer = some tx →
    Upgraded sql (binaries tx.owner) s.db.committed tx ∧ ∀ result, s.progress tx.owner ≠ .finished result

variable {sql : SqlBatches C} {binaries : Nat → SchemaBinary} {s : Openers C} {t : OpenerTick}

theorem applyAll_snoc {done : List Migration} {step : Migration} {file before after : SchemaFile C}
    (first : applyAll sql done file = .ok before) (last : step.apply sql before = .ok after) :
    applyAll sql (done ++ [step]) file = .ok after := by
  unfold applyAll at *
  rw [List.foldlM_append, first]
  show (step.apply sql before >>= fun file => pure file) = _
  rw [last]
  rfl

theorem upgraded_runBatch {tx : WriteTransaction (SchemaFile C) MigrationWork} {step : Migration}
    {rest done : List Migration} {found : Int} {contents : C} {binary : SchemaBinary}
    (runs : (!step.isConditional || sql.hasOperationalState tx.tables.contents) = true)
    (version : found = s.db.committed.userVersion)
    (steps : (binary.steps.filter fun step => s.db.committed.userVersion < step.version) = done ++ step :: rest)
    (applied : applyAll sql done s.db.committed = .ok tx.tables)
    (executed : sql.execute step.sql tx.tables.contents = .ok contents) :
    Upgraded sql binary s.db.committed
      { tx with work := .record found step rest, tables := { tx.tables with contents } } := by
  refine ⟨version, done, tx.tables, steps, applied, ?_⟩
  unfold Migration.apply
  rw [if_pos runs, executed]
  rfl

theorem Inv.start (file : SchemaFile C) : Inv sql binaries (start file) := fun _ opened => nomatch opened

theorem Inv.outside (inv : Inv sql binaries s) (free : s.db.ownedBy t.process = none) :
    Inv sql binaries (s.outside (binaries t.process) t) := by
  have moved (progress : MigrationProgress) : Inv sql binaries (s.set t.process progress) := by
    intro tx opened
    have other : tx.owner ≠ t.process := fun same => by
      have owned : s.db.ownedBy t.process = some tx := ownedBy_eq_some.mpr ⟨opened, same⟩
      rw [free] at owned
      cases owned
    obtain ⟨upgraded, running⟩ := inv tx opened
    refine ⟨upgraded, fun result ended => running result ?_⟩
    change Function.update _ _ _ _ = _ at ended
    rwa [Function.update_of_ne other] at ended
  unfold Openers.outside
  split
  · split
    · exact moved _
    · dsimp only
      split
      · exact moved _
      · split <;> exact moved _
  next standing =>
    split
    · exact moved _
    · split
      · exact inv
      next db begun =>
        obtain ⟨-, rfl⟩ := begin_eq_some.mp begun
        intro tx opened
        cases opened
        refine ⟨rfl, fun result ended => ?_⟩
        rw [show s.progress t.process = _ from ended] at standing
        cases standing
  · exact inv

theorem Inv.runBatch (inv : Inv sql binaries s) {tx : WriteTransaction (SchemaFile C) MigrationWork}
    (owned : s.db.ownedBy t.process = some tx) {step : Migration} {rest done : List Migration} {found : Int}
    (runs : (!step.isConditional || sql.hasOperationalState tx.tables.contents) = true)
    (version : found = s.db.committed.userVersion)
    (steps : ((binaries t.process).steps.filter fun step => s.db.committed.userVersion < step.version) =
      done ++ step :: rest)
    (applied : applyAll sql done s.db.committed = .ok tx.tables) :
    Inv sql binaries (s.runBatch sql t tx found step rest) := by
  obtain ⟨opened, owner⟩ := ownedBy_eq_some.mp owned
  unfold Openers.runBatch
  split
  · exact fun _ opened => nomatch opened
  next contents executed =>
    intro tx' now
    cases now
    refine ⟨?_, (inv tx opened).2⟩
    rw [owner]
    exact upgraded_runBatch runs version steps applied executed

theorem Inv.inside (inv : Inv sql binaries s) {tx : WriteTransaction (SchemaFile C) MigrationWork}
    (owned : s.db.ownedBy t.process = some tx) : Inv sql binaries (s.inside sql (binaries t.process) t tx) := by
  obtain ⟨opened, owner⟩ := ownedBy_eq_some.mp owned
  obtain ⟨upgraded, running⟩ := inv tx opened
  rw [owner] at upgraded
  unfold Upgraded at upgraded
  unfold Openers.inside
  split
  · exact fun _ opened => nomatch opened
  next works stands =>
    simp only [stands] at upgraded
    intro tx' now
    cases now
    refine ⟨?_, running⟩
    rw [owner]
    refine ⟨by rw [upgraded]; rfl, [], ?_, by rw [upgraded]; rfl⟩
    rw [upgraded]
    rfl
  · exact fun _ opened => nomatch opened
  next found step rest works stands =>
    simp only [stands] at upgraded
    obtain ⟨version, done, steps, applied⟩ := upgraded
    split
    next conditional =>
      intro tx' now
      cases now
      refine ⟨?_, running⟩
      rw [owner]
      by_cases present : sql.hasOperationalState tx.tables.contents = true
      · rw [if_pos present]
        exact ⟨version, present, done, steps, applied⟩
      · rw [if_neg present]
        refine ⟨version, done, tx.tables, steps, applied, ?_⟩
        unfold Migration.apply
        rw [if_neg (by simp [conditional, present])]
        rfl
    next plain => exact inv.runBatch owned (by simp [plain]) version steps applied
  next found step rest works stands =>
    simp only [stands] at upgraded
    obtain ⟨version, present, done, steps, applied⟩ := upgraded
    exact inv.runBatch owned (by simp [present]) version steps applied
  next found step rest works stands =>
    simp only [stands] at upgraded
    obtain ⟨version, done, before, steps, applied, last⟩ := upgraded
    intro tx' now
    cases now
    refine ⟨?_, running⟩
    rw [owner]
    exact ⟨version, done ++ [step], steps.trans (by simp), applyAll_snoc applied last⟩

theorem Inv.next (inv : Inv sql binaries s) (t : OpenerTick) : Inv sql binaries (next sql binaries s t) := by
  unfold Openers.next
  split
  next tx owned => exact inv.inside owned
  next free => exact inv.outside free

def Commits (s : Openers C) (t : OpenerTick) (tx : WriteTransaction (SchemaFile C) MigrationWork) : Prop :=
  s.db.ownedBy t.process = some tx ∧ (∃ found, tx.work = .upgrade found []) ∧ t.fails = none

theorem next_of_commits {tx : WriteTransaction (SchemaFile C) MigrationWork} (commits : s.Commits t tx) :
    next sql binaries s t = { s.set t.process (.finished (.ok ())) with db := s.db.commit tx } := by
  obtain ⟨owned, ⟨found, stands⟩, works⟩ := commits
  simp only [next, owned, inside, stands, works]

theorem returns_of_commits (inv : Inv sql binaries s) {tx : WriteTransaction (SchemaFile C) MigrationWork}
    (commits : s.Commits t tx) : returns sql binaries s t = some (.ok ()) := by
  obtain ⟨opened, owner⟩ := ownedBy_eq_some.mp commits.1
  have running := (inv tx opened).2
  rw [owner] at running
  have ended : (next sql binaries s t).progress t.process = .finished (.ok ()) := by
    rw [next_of_commits commits]
    exact Function.update_self ..
  unfold returns
  rw [ended]
  cases standing : s.progress t.process with
  | finished result => exact absurd standing (running result)
  | ready | pending => rfl

theorem abandon_not_ok (s : Openers C) (process : Nat) (error : StorageError) :
    (s.abandon process error).progress process ≠ .finished (.ok ()) := by
  have ended : (s.abandon process error).progress process = .finished (.error error) := Function.update_self ..
  rw [ended]
  exact fun same => nomatch same

theorem inside_of_not_commits {tx : WriteTransaction (SchemaFile C) MigrationWork}
    (owned : s.db.ownedBy t.process = some tx) (idle : ¬s.Commits t tx)
    (running : s.progress t.process ≠ .finished (.ok ())) :
    (s.inside sql (binaries t.process) t tx).db.committed = s.db.committed ∧
      (s.inside sql (binaries t.process) t tx).progress t.process ≠ .finished (.ok ()) := by
  have batch (found : Int) (step : Migration) (rest : List Migration) :
      (s.runBatch sql t tx found step rest).db.committed = s.db.committed ∧
        (s.runBatch sql t tx found step rest).progress t.process ≠ .finished (.ok ()) := by
    unfold runBatch
    split
    · exact ⟨rfl, abandon_not_ok s _ _⟩
    · exact ⟨rfl, running⟩
  unfold Openers.inside
  split
  · exact ⟨rfl, abandon_not_ok s _ _⟩
  · exact ⟨rfl, running⟩
  next found works stands => exact absurd ⟨owned, ⟨found, stands⟩, works⟩ idle
  · split
    · exact ⟨rfl, running⟩
    · exact batch _ _ _
  · exact batch _ _ _
  · exact ⟨rfl, running⟩

theorem outside_returns (free : s.db.ownedBy t.process = none) :
    (next sql binaries s t).db.committed = s.db.committed ∧
      (returns sql binaries s t = some (.ok ()) → s.db.committed.userVersion = (binaries t.process).current) := by
  have same : next sql binaries s t = s.outside (binaries t.process) t := by simp only [next, free]
  have ends (progress : MigrationProgress) : (s.set t.process progress).progress t.process = progress :=
    Function.update_self ..
  unfold returns
  rw [same]
  unfold Openers.outside
  cases standing : s.progress t.process with
  | finished result => exact ⟨rfl, fun returned => nomatch returned⟩
  | ready =>
    cases t.fails with
    | some message =>
      dsimp only
      rw [ends]
      exact ⟨rfl, fun returned => nomatch returned⟩
    | none =>
      dsimp only
      split
      next current => exact ⟨rfl, fun _ => current⟩
      · split
        · rw [ends]
          exact ⟨rfl, fun returned => nomatch returned⟩
        · rw [ends]
          exact ⟨rfl, fun returned => nomatch returned⟩
  | pending =>
    cases t.fails with
    | some message =>
      dsimp only
      rw [ends]
      exact ⟨rfl, fun returned => nomatch returned⟩
    | none =>
      dsimp only
      split
      · rw [standing]
        exact ⟨rfl, fun returned => nomatch returned⟩
      next db begun =>
        obtain ⟨-, rfl⟩ := begin_eq_some.mp begun
        dsimp only
        rw [standing]
        exact ⟨rfl, fun returned => nomatch returned⟩

theorem next_of_not_commits (inv : Inv sql binaries s) (idle : ∀ tx, ¬s.Commits t tx) :
    (next sql binaries s t).db.committed = s.db.committed ∧
      (returns sql binaries s t = some (.ok ()) →
        s.db.ownedBy t.process = none ∧ s.db.committed.userVersion = (binaries t.process).current) := by
  cases owned : s.db.ownedBy t.process with
  | some tx =>
    obtain ⟨opened, owner⟩ := ownedBy_eq_some.mp owned
    have running := (inv tx opened).2
    rw [owner] at running
    have same : next sql binaries s t = s.inside sql (binaries t.process) t tx := by simp only [next, owned]
    have inside := @inside_of_not_commits C sql binaries s t tx owned (idle tx) (running _)
    rw [← same] at inside
    refine ⟨inside.1, fun returned => absurd ?_ inside.2⟩
    unfold returns at returned
    split at returned
    · cases returned
    next result ended _ =>
      cases returned
      exact ended
    · cases returned
  | none =>
    obtain ⟨kept, current⟩ := outside_returns owned
    exact ⟨kept, fun returned => ⟨rfl, current returned⟩⟩

/-- Upgrading past every older version ends at the version of the program, unless a newer one was found. -/
def Complete (binary : SchemaBinary) : Prop :=
  ∀ (sql : SqlBatches C) (file after : SchemaFile C),
    applyAll sql (binary.steps.filter fun step => file.userVersion < step.version) file = .ok after →
      (after.userVersion = binary.current ↔ file.userVersion ≤ binary.current)

theorem migrates_iff_understood (inv : Inv sql binaries s) (complete : Complete (C := C) (binaries t.process)) :
    Migrates sql binaries s t ↔ Understood binaries s t := by
  by_cases commits : ∃ tx, s.Commits t tx
  · obtain ⟨tx, commits⟩ := commits
    obtain ⟨owned, ⟨found, stands⟩, works⟩ := commits
    obtain ⟨opened, owner⟩ := ownedBy_eq_some.mp owned
    have upgraded := (inv tx opened).1
    rw [owner] at upgraded
    simp only [Upgraded, stands, List.append_nil] at upgraded
    obtain ⟨version, done, steps, applied⟩ := upgraded
    rw [← steps] at applied
    have returned := returns_of_commits inv ⟨owned, ⟨found, stands⟩, works⟩
    have after : (next sql binaries s t).db.committed = tx.tables := by
      rw [next_of_commits ⟨owned, ⟨found, stands⟩, works⟩]
      rfl
    have reached := complete sql s.db.committed tx.tables applied
    constructor
    · intro migrates also found' owned' _ _
      have last := migrates.version returned
      rw [after] at last
      exact reached.mp last
    · intro understood
      refine ⟨fun _ => ?_, fun _ => ?_, fun fails => absurd returned fails⟩
      · rw [after]
        exact reached.mpr (understood tx found owned stands works)
      · rw [owned, after]
        exact ⟨version ▸ stands, applied⟩
  · have idle : ∀ tx, ¬s.Commits t tx := fun tx also => commits ⟨tx, also⟩
    obtain ⟨kept, quick⟩ := next_of_not_commits inv idle
    constructor
    · intro _ tx found owned stands works
      exact absurd ⟨owned, ⟨found, stands⟩, works⟩ (idle tx)
    · intro _
      refine ⟨fun returned => ?_, fun returned => ?_, fun _ => kept⟩
      · rw [kept]
        exact (quick returned).2
      · rw [(quick returned).1]
        exact kept

end Openers

theorem Migration.apply_version {sql : SqlBatches C} {step : Migration} {file after : SchemaFile C}
    (applied : step.apply sql file = .ok after) : after.userVersion = step.version := by
  unfold Migration.apply at applied
  generalize (if !step.isConditional || sql.hasOperationalState file.contents then _ else _ : Except String C) =
    contents at applied
  cases contents with
  | error e => cases applied
  | ok result =>
    cases applied
    rfl

theorem applyAll_version {sql : SqlBatches C} {steps : List Migration} {file after : SchemaFile C}
    (applied : applyAll sql steps file = .ok after) :
    after.userVersion = ((steps.getLast?).map (·.version)).getD file.userVersion := by
  induction steps generalizing file with
  | nil =>
    cases applied
    rfl
  | cons step steps ih =>
    have shape : applyAll sql (step :: steps) file = (step.apply sql file >>= applyAll sql steps) := rfl
    rw [shape] at applied
    cases first : step.apply sql file with
    | error e =>
      rw [first] at applied
      cases applied
    | ok middle =>
      rw [first] at applied
      have last := ih applied
      rw [step.apply_version first] at last
      rw [last, List.getLast?_cons]
      cases steps.getLast? <;> rfl

theorem migrations_ascending (texts : MigrationTexts) :
    (migrations texts).Pairwise fun a b => a.version < b.version := by
  simp [migrations]

theorem this_complete (texts : MigrationTexts) : Openers.Complete (C := C) (.this texts) := by
  intro sql file after applied
  have version := applyAll_version applied
  have below : ∀ step ∈ migrations texts, step.version ≤ 17 := by simp [migrations]
  show after.userVersion = 17 ↔ file.userVersion ≤ 17
  change after.userVersion = (((migrations texts).filter fun step => file.userVersion < step.version).getLast?.map
    (·.version)).getD file.userVersion at version
  by_cases older : file.userVersion < 17
  · have last : ((migrations texts).filter fun step => file.userVersion < step.version).getLast? =
        some ⟨17, texts.v17LightningState⟩ := by
      have split : migrations texts = (migrations texts).dropLast ++ [⟨17, texts.v17LightningState⟩] := rfl
      rw [split, List.filter_append, List.filter_cons_of_pos (by simpa using older), List.filter_nil,
        List.getLast?_concat]
    rw [last] at version
    exact ⟨fun _ => older.le, fun _ => version⟩
  · have none : ((migrations texts).filter fun step => file.userVersion < step.version) = [] := by
      refine List.filter_eq_nil_iff.mpr fun step member => ?_
      have bound := below step member
      simp only [decide_eq_true_eq]
      omega
    rw [none] at version
    change after.userVersion = file.userVersion at version
    omega

/-- For any openers of one database, of this program and of any others, under any schedule of their
    statements and from any version: the calls of this program migrate as they should exactly when none
    commits over a version, found under the lock, that is newer than its own. -/
theorem migrations_correct_iff (sql : SqlBatches C) (texts : MigrationTexts) (binaries : Nat → SchemaBinary)
    (file : SchemaFile C) (schedule : List OpenerTick) :
    (EachStep (Openers.next sql binaries)
        (fun s t => binaries t.process = .this texts → Openers.Migrates sql binaries s t) (.start file) schedule ↔
      EachStep (Openers.next sql binaries)
        (fun s t => binaries t.process = .this texts → Openers.Understood binaries s t) (.start file) schedule) ∧
    ∀ found : Int, ((migrations texts).filter fun step => found < step.version).Pairwise
      fun a b => a.version < b.version := by
  constructor
  · have agree (s : Openers C) (t : OpenerTick) (inv : Openers.Inv sql binaries s) :
        (binaries t.process = .this texts → Openers.Migrates sql binaries s t) ↔
          (binaries t.process = .this texts → Openers.Understood binaries s t) := by
      refine forall_congr' fun own => Openers.migrates_iff_understood inv ?_
      rw [own]
      exact this_complete texts
    exact eachStep_iff agree (fun _ t inv _ => inv.next t) (Openers.Inv.start file)
  · exact fun found => (migrations_ascending texts).sublist List.filter_sublist

def recordedBatches : SqlBatches (List String) := ⟨fun sql executed => .ok (executed ++ [sql]), fun _ => true⟩

def sampleTexts : MigrationTexts :=
  ⟨"v1", "v2", "v3", "v4", "v5", "v6", "v7", "v8", "v9", "v10", "v11", "v12", "v13", "v14", "v15", "v16", "v17"⟩

/-- Two openers of this program that both read version 15. The second one finds version 17 under the lock. -/
theorem migrations_correct_racing :
    let binaries (_ : Nat) : SchemaBinary := .this sampleTexts
    let schedule := [0, 1, 0, 0, 0, 1, 0, 0, 0, 0, 0, 0, 1, 1, 1].map fun process => ({ process } : OpenerTick)
    let s := run (Openers.next recordedBatches binaries) (.start ⟨15, []⟩) schedule
    EachStep (Openers.next recordedBatches binaries)
        (fun s t => binaries t.process = .this sampleTexts → Openers.Migrates recordedBatches binaries s t)
        (.start ⟨15, []⟩) schedule ∧
      s.db.committed.userVersion = 17 ∧ s.db.committed.contents = ["v16", "v17"] ∧
      s.progress 0 = .finished (.ok ()) ∧ s.progress 1 = .finished (.ok ()) := by
  intro binaries schedule s
  have understood : EachStep (Openers.next recordedBatches binaries)
      (fun s t => binaries t.process = .this sampleTexts → Openers.Understood binaries s t)
      (.start ⟨15, []⟩) schedule := by
    decide
  have correct := (migrations_correct_iff recordedBatches sampleTexts binaries ⟨15, []⟩ schedule).1.mpr understood
  exact ⟨correct, by decide, by decide, by decide, by decide⟩

/-- Between this opener's reading of version 16 and its lock, a newer program migrates the file to version 18. -/
theorem newer_schema_is_accepted :
    let newer : SchemaBinary := ⟨18, migrations sampleTexts ++ [⟨18, "v18"⟩]⟩
    let binaries (process : Nat) : SchemaBinary := if process = 0 then .this sampleTexts else newer
    let schedule := [0, 1, 1, 1, 1, 1, 1, 1, 1, 1, 0, 0].map fun process => ({ process } : OpenerTick)
    let s := run (Openers.next recordedBatches binaries) (.start ⟨16, []⟩) schedule
    Openers.returns recordedBatches binaries s ⟨0, none⟩ = some (.ok ()) ∧
      (Openers.next recordedBatches binaries s ⟨0, none⟩).db.committed.userVersion = 18 ∧
      (SchemaBinary.this sampleTexts).current = 17 := by
  intro newer binaries schedule s
  exact ⟨by decide, by decide, rfl⟩

end Rieko
