import Rieko.Execution.Transition
import Rieko.Lib.SharedDatabase
import Rieko.Lib.Transition
import Rieko.Storage.Tables

namespace Rieko

open Transition SharedDatabase

inductive ActionCommand where
  | approve | reject
deriving DecidableEq, Repr

def ActionCommand.stage : ActionCommand → ActionStage
  | .approve => .approved
  | .reject => .rejected

structure TransitionCall where
  command : ActionCommand
  actor : String
deriving DecidableEq, Repr

inductive TransitionError where
  | systemApproval
  | unknownAction (actionId : String)
  | execution (error : ExecutionError)
deriving DecidableEq, Repr

def stageOf (actionId : String) (tables : Tables) : Option ActionStage :=
  (Rows.lookup (·.action.id) tables.recommendations actionId).map (·.action.stage)

namespace TransitionCall

def check (actionId : String) (tables : Tables) (call : TransitionCall) : Except TransitionError Recommendation := do
  if call.command.stage ≠ .rejected ∧ call.actor = systemActor then throw .systemApproval
  match Rows.lookup (·.action.id) tables.recommendations actionId with
  | none => throw (.unknownAction actionId)
  | some recommendation =>
    match transition recommendation.action call.command.stage call.actor with
    | .error e => throw (.execution e)
    | .ok _ => return recommendation

def entry (id : String) (now : DateTime) (recommendation : Recommendation) (call : TransitionCall) : AuditEntry :=
  .fromTransition id now { recommendation.action with stage := call.command.stage } recommendation.action.stage
    call.actor (.ofPairs [])

theorem check_ok {actionId : String} {tables : Tables} {call : TransitionCall} {recommendation : Recommendation}
    (checked : call.check actionId tables = .ok recommendation) :
    Rows.lookup (·.action.id) tables.recommendations actionId = some recommendation ∧
      canTransition recommendation.action.stage call.command.stage = true := by
  unfold check at checked
  by_cases system : call.command.stage ≠ .rejected ∧ call.actor = systemActor
  · rw [if_pos system] at checked
    cases checked
  · rw [if_neg system] at checked
    cases found : Rows.lookup (·.action.id) tables.recommendations actionId with
    | none =>
      rw [found] at checked
      cases checked
    | some stored =>
      rw [found] at checked
      dsimp only [pure_bind] at checked
      cases accepted : transition stored.action call.command.stage call.actor with
      | error e =>
        simp only [accepted] at checked
        cases checked
      | ok next =>
        simp only [accepted] at checked
        cases checked
        exact ⟨rfl, (transition_ok accepted).1⟩

end TransitionCall

inductive TransitionStatement where
  | setActionStage | appendAudit | commit
deriving DecidableEq, Repr

structure TransitionWork where
  recommendation : Recommendation
  next : TransitionStatement

inductive TransitionProgress where
  | ready
  | read (recommendation : Recommendation)
  | finished (succeeded : Bool)

/-- Calls of any number of processes on one database. Process `n` makes call `n`. -/
structure ActionCalls where
  db : SharedDatabase Tables TransitionWork
  progress : Nat → TransitionProgress

/-- One storage step of one process. It may fail, which also stands for a process that dies there. -/
structure ActionTick where
  process : Nat
  fails : Bool := false
  now : DateTime := 0
  uuid : String := ""

namespace ActionCalls

def start (tables : Tables) : ActionCalls := ⟨⟨tables, none⟩, fun _ => .ready⟩

def set (s : ActionCalls) (process : Nat) (progress : TransitionProgress) : ActionCalls :=
  { s with progress := Function.update s.progress process progress }

/-- A process that ends closes its connection, and with it a transaction that is still open. -/
def abandon (s : ActionCalls) (process : Nat) : ActionCalls :=
  { s.set process (.finished false) with db := s.db.rollback }

def outside (actionId : String) (call : TransitionCall) (s : ActionCalls) (t : ActionTick) : ActionCalls :=
  match s.progress t.process with
  | .ready =>
    if t.fails then s.set t.process (.finished false)
    else match call.check actionId s.db.committed with
      | .error _ => s.set t.process (.finished false)
      | .ok recommendation => s.set t.process (.read recommendation)
  | .read recommendation =>
    if t.fails then s.set t.process (.finished false)
    -- a process waits while another one holds the write lock
    else match s.db.begin t.process ⟨recommendation, .setActionStage⟩ with
      | none => s
      | some db => { s with db }
  | .finished _ => s

def inside (actionId : String) (call : TransitionCall) (s : ActionCalls) (t : ActionTick)
    (tx : WriteTransaction Tables TransitionWork) : ActionCalls :=
  if t.fails then s.abandon t.process
  else match tx.work.next with
    | .setActionStage =>
      let tables := tx.tables.setStage actionId call.command.stage t.now
      { s with db := s.db.proceed tx { tx.work with next := .appendAudit } tables }
    | .appendAudit =>
      match tx.tables.insertAudit (call.entry t.uuid t.now tx.work.recommendation) with
      | .error _ => s.abandon t.process
      | .ok (tables, ()) => { s with db := s.db.proceed tx { tx.work with next := .commit } tables }
    | .commit => { s.set t.process (.finished true) with db := s.db.commit tx }

def next (actionId : String) (calls : Nat → TransitionCall) (s : ActionCalls) (t : ActionTick) : ActionCalls :=
  match s.db.ownedBy t.process with
  | some tx => s.inside actionId (calls t.process) t tx
  | none => s.outside actionId (calls t.process) t

def committing (s : ActionCalls) (t : ActionTick) : Option (WriteTransaction Tables TransitionWork) :=
  (s.db.ownedBy t.process).filter fun tx => !t.fails && decide (tx.work.next = .commit)

/-- The stage in force when a call commits is the stage that it read before its transaction. -/
def Fresh (actionId : String) (s : ActionCalls) (t : ActionTick) : Prop :=
  ∀ tx, s.committing t = some tx →
    stageOf actionId s.db.committed = some tx.work.recommendation.action.stage

instance (actionId : String) (s : ActionCalls) (t : ActionTick) : Decidable (s.Fresh actionId t) :=
  decidable_of_iff ((s.committing t).all fun tx =>
    stageOf actionId s.db.committed = some tx.work.recommendation.action.stage) (by simp [Fresh, Option.all_eq_true])

/-- What a step commits is one legal transition from the stage in force, with the audit entry of it. -/
def Follows (actionId : String) (s : ActionCalls) (t : ActionTick) : Prop :=
  ∀ tx, s.committing t = some tx → ∃ source target entry,
    stageOf actionId s.db.committed = some source ∧ stageOf actionId tx.tables = some target ∧
      canTransition source target = true ∧ tx.tables.audit = s.db.committed.audit ++ [entry] ∧
      entry.actionId = actionId ∧ entry.previousStage = some source ∧ entry.stage = target

structure Checked (actionId : String) (committed : Tables) (call : TransitionCall)
    (recommendation : Recommendation) : Prop where
  stored : (stageOf actionId committed).isSome = true
  named : recommendation.action.id = actionId
  legal : canTransition recommendation.action.stage call.command.stage = true

def Written (actionId : String) (committed : Tables) (call : TransitionCall)
    (tx : WriteTransaction Tables TransitionWork) : Prop :=
  match tx.work.next with
  | .setActionStage => tx.tables = committed
  | .appendAudit => stageOf actionId tx.tables = some call.command.stage ∧ tx.tables.audit = committed.audit
  | .commit => stageOf actionId tx.tables = some call.command.stage ∧
      ∃ id now, tx.tables.audit = committed.audit ++ [call.entry id now tx.work.recommendation]

structure Inv (actionId : String) (calls : Nat → TransitionCall) (s : ActionCalls) : Prop where
  read : ∀ process recommendation, s.progress process = .read recommendation →
    Checked actionId s.db.committed (calls process) recommendation
  writer : ∀ tx, s.db.writer = some tx →
    Checked actionId s.db.committed (calls tx.owner) tx.work.recommendation ∧
      Written actionId s.db.committed (calls tx.owner) tx

variable {actionId : String} {calls : Nat → TransitionCall} {s : ActionCalls} {t : ActionTick}

theorem Inv.start (tables : Tables) : Inv actionId calls (start tables) where
  read _ _ standing := nomatch standing
  writer _ opened := nomatch opened

theorem committing_eq_some {tx : WriteTransaction Tables TransitionWork} :
    s.committing t = some tx ↔
      s.db.ownedBy t.process = some tx ∧ t.fails = false ∧ tx.work.next = .commit := by
  unfold committing
  rw [Option.filter_eq_some_iff]
  simp

theorem stageOf_setStage (tables : Tables) (stage : ActionStage) (now : DateTime)
    (stored : (stageOf actionId tables).isSome = true) :
    stageOf actionId (tables.setStage actionId stage now) = some stage := by
  unfold stageOf at *
  have moved : Rows.lookup (fun row : Recommendation => row.action.id)
        (tables.setStage actionId stage now).recommendations actionId =
      (Rows.lookup (fun row : Recommendation => row.action.id) tables.recommendations actionId).map fun row =>
        if decide (row.action.id = actionId) = true then
          { row with action := { row.action with stage, updatedAt := now } }
        else row :=
    Rows.lookup_updateWhere fun _ => rfl
  rw [moved]
  cases found : Rows.lookup (fun row : Recommendation => row.action.id) tables.recommendations actionId with
  | none => simp [found] at stored
  | some row => simp [Rows.key_of_lookup found]

theorem Inv.set (inv : Inv actionId calls s) (process : Nat) {progress : TransitionProgress}
    (checked : ∀ recommendation, progress = .read recommendation →
      Checked actionId s.db.committed (calls process) recommendation) :
    Inv actionId calls (s.set process progress) where
  read other recommendation standing := by
    by_cases same : other = process
    · subst same
      change Function.update _ _ _ _ = _ at standing
      rw [Function.update_self] at standing
      exact checked recommendation standing
    · change Function.update _ _ _ _ = _ at standing
      rw [Function.update_of_ne same] at standing
      exact inv.read other recommendation standing
  writer := inv.writer

theorem Inv.finish (inv : Inv actionId calls s) (process : Nat) (succeeded : Bool) :
    Inv actionId calls (s.set process (.finished succeeded)) :=
  inv.set process fun _ standing => nomatch standing

theorem Inv.abandon (inv : Inv actionId calls s) (process : Nat) : Inv actionId calls (s.abandon process) where
  read := (inv.finish process false).read
  writer _ opened := nomatch opened

theorem Inv.outside (inv : Inv actionId calls s) :
    Inv actionId calls (s.outside actionId (calls t.process) t) := by
  have ended := inv.finish t.process false
  unfold ActionCalls.outside
  split
  · split
    · exact ended
    · split
      · exact ended
      next recommendation checked =>
        obtain ⟨found, legal⟩ := TransitionCall.check_ok checked
        refine inv.set t.process fun also standing => ?_
        cases standing
        have named : recommendation.action.id = actionId := by simpa using List.find?_some found
        exact ⟨by rw [stageOf, found]; rfl, named, legal⟩
  next recommendation standing =>
    split
    · exact ended
    · split
      · exact inv
      next db begun =>
        obtain ⟨-, rfl⟩ := begin_eq_some.mp begun
        refine ⟨inv.read, fun tx opened => ?_⟩
        cases opened
        exact ⟨inv.read t.process recommendation standing, rfl⟩
  · exact inv

theorem Inv.inside (inv : Inv actionId calls s) {tx : WriteTransaction Tables TransitionWork}
    (owned : s.db.ownedBy t.process = some tx) :
    Inv actionId calls (s.inside actionId (calls t.process) t tx) := by
  obtain ⟨opened, owner⟩ := ownedBy_eq_some.mp owned
  obtain ⟨checked, written⟩ := inv.writer tx opened
  rw [owner] at checked written
  unfold Written at written
  unfold ActionCalls.inside
  split
  · exact inv.abandon t.process
  split
  next stands =>
    simp only [stands] at written
    refine ⟨inv.read, fun tx' now => ?_⟩
    cases now
    rw [owner]
    refine ⟨checked, stageOf_setStage tx.tables _ t.now (written ▸ checked.stored), ?_⟩
    show tx.tables.audit = s.db.committed.audit
    rw [written]
  next stands =>
    simp only [stands] at written
    split
    · exact inv.abandon t.process
    next tables inserted =>
      unfold Tables.insertAudit at inserted
      split at inserted
      · cases inserted
      cases inserted
      refine ⟨inv.read, fun tx' now => ?_⟩
      cases now
      rw [owner]
      exact ⟨checked, written.1, t.uuid, t.now, congrArg (· ++ [_]) written.2⟩
  next stands =>
    simp only [stands] at written
    have kept : (stageOf actionId tx.tables).isSome = true := by rw [written.1]; rfl
    refine ⟨fun other recommendation standing => ?_, fun _ opened => nomatch opened⟩
    have before := (inv.finish t.process true).read other recommendation standing
    exact ⟨kept, before.named, before.legal⟩

theorem Inv.next (inv : Inv actionId calls s) (t : ActionTick) : Inv actionId calls (next actionId calls s t) := by
  unfold ActionCalls.next
  split
  next tx owned => exact inv.inside owned
  · exact inv.outside

theorem Inv.committing (inv : Inv actionId calls s) {tx : WriteTransaction Tables TransitionWork}
    (commits : s.committing t = some tx) :
    ∃ stage entry, stageOf actionId s.db.committed = some stage ∧
      stageOf actionId tx.tables = some (calls t.process).command.stage ∧
      tx.tables.audit = s.db.committed.audit ++ [entry] ∧ entry.actionId = actionId ∧
      entry.previousStage = some tx.work.recommendation.action.stage ∧
      entry.stage = (calls t.process).command.stage ∧
      canTransition tx.work.recommendation.action.stage (calls t.process).command.stage = true := by
  obtain ⟨owned, -, stands⟩ := committing_eq_some.mp commits
  obtain ⟨opened, owner⟩ := ownedBy_eq_some.mp owned
  obtain ⟨checked, written⟩ := inv.writer tx opened
  rw [owner] at checked written
  simp only [Written, stands] at written
  obtain ⟨stage, inForce⟩ := Option.isSome_iff_exists.mp checked.stored
  obtain ⟨target, id, now, audit⟩ := written
  exact ⟨stage, _, inForce, target, audit, checked.named, rfl, rfl, checked.legal⟩

theorem follows_iff_fresh (inv : Inv actionId calls s) : s.Follows actionId t ↔ s.Fresh actionId t := by
  constructor
  · intro follows tx commits
    obtain ⟨source, target, entry, inForce, -, -, audit, -, previous, -⟩ := follows tx commits
    obtain ⟨-, own, -, -, ownAudit, -, ownPrevious, -, -⟩ := inv.committing commits
    have same : entry = own := by
      rw [audit] at ownAudit
      simpa using ownAudit
    rw [same, ownPrevious] at previous
    cases previous
    exact inForce
  · intro fresh tx commits
    obtain ⟨stage, entry, -, target, audit, named, previous, written, legal⟩ := inv.committing commits
    exact ⟨_, _, entry, fresh tx commits, target, legal, audit, named, previous, written⟩

theorem committed_next (actionId : String) (calls : Nat → TransitionCall) (s : ActionCalls) (t : ActionTick) :
    (next actionId calls s t).db.committed = s.db.committed ∨
      ∃ tx, s.committing t = some tx ∧ (next actionId calls s t).db.committed = tx.tables := by
  unfold next
  split
  next tx owned =>
    unfold inside
    split
    · exact .inl rfl
    next works =>
      split
      · exact .inl rfl
      · split <;> exact .inl rfl
      next stands => exact .inr ⟨tx, committing_eq_some.mpr ⟨owned, by simpa using works, stands⟩, rfl⟩
  · unfold outside
    split
    · split
      · exact .inl rfl
      · split <;> exact .inl rfl
    · split
      · exact .inl rfl
      · split
        · exact .inl rfl
        next db begun =>
          obtain ⟨-, rfl⟩ := begin_eq_some.mp begun
          exact .inl rfl
    · exact .inl rfl

theorem rejected_stays (inv : Inv actionId calls s) (fresh : s.Fresh actionId t)
    (rejected : stageOf actionId s.db.committed = some .rejected) :
    stageOf actionId (next actionId calls s t).db.committed = some .rejected := by
  rcases committed_next actionId calls s t with same | ⟨tx, commits, -⟩
  · rw [same, rejected]
  · obtain ⟨source, target, -, inForce, -, legal, -⟩ := (follows_iff_fresh inv).mpr fresh tx commits
    rw [rejected] at inForce
    cases inForce
    rw [rejected_is_final] at legal
    cases legal

end ActionCalls

open ActionCalls

/-- For any calls on one action, from any database and under any schedule of their storage steps: each
    commit is a legal transition from the stage in force, with the audit entry that says so, exactly when
    each call commits over the stage that it had read. Then a rejected action stays rejected. -/
theorem transitions_follow_iff (actionId : String) (calls : Nat → TransitionCall) (tables : Tables)
    (schedule : List ActionTick) :
    (EachStep (next actionId calls) (Follows actionId) (start tables) schedule ↔
      EachStep (next actionId calls) (Fresh actionId) (start tables) schedule) ∧
    (EachStep (next actionId calls) (Fresh actionId) (start tables) schedule →
      ∀ before later, schedule = before ++ later →
        stageOf actionId (run (next actionId calls) (start tables) before).db.committed = some .rejected →
        stageOf actionId (run (next actionId calls) (start tables) schedule).db.committed = some .rejected) := by
  have begins : Inv actionId calls (start tables) := .start tables
  constructor
  · exact eachStep_iff (fun _ _ inv => follows_iff_fresh inv) (fun _ t inv _ => inv.next t) begins
  · rintro fresh before later rfl rejected
    obtain ⟨first, rest⟩ := eachStep_append.mp fresh
    have keeps (s : ActionCalls) (t : ActionTick) (inv : Inv actionId calls s) (_ : s.Fresh actionId t) :
        Inv actionId calls (next actionId calls s t) := inv.next t
    have stays (s : ActionCalls) (t : ActionTick)
        (held : Inv actionId calls s ∧ stageOf actionId s.db.committed = some .rejected)
        (fresh : s.Fresh actionId t) : Inv actionId calls (next actionId calls s t) ∧
          stageOf actionId (next actionId calls s t).db.committed = some .rejected :=
      ⟨held.1.next t, rejected_stays held.1 fresh held.2⟩
    have middle := EachStep.invariant keeps begins first
    rw [run_append]
    exact (EachStep.invariant stays ⟨middle, rejected⟩ rest).2

def sampleRecommendation (actionId : String) : Recommendation where
  findingId := "f"
  action := ⟨actionId, .rebalanceChannel, .recommended, some "chan", .null, "summary", 0, 0⟩
  rationale := ⟨[], [], "", [], [], .operatorActionable⟩
  lifecycle := some "active"

theorem transitions_follow_in_turn :
    let calls (n : Nat) : TransitionCall := if n = 0 then ⟨.approve, "alice"⟩ else ⟨.reject, "bob"⟩
    let tables : Tables := { recommendations := [sampleRecommendation "a"] }
    let turn (process : Nat) : List ActionTick := List.replicate 5 { process, uuid := if process = 0 then "0" else "1" }
    let s := run (next "a" calls) (start tables) (turn 0 ++ turn 1)
    EachStep (next "a" calls) (Follows "a") (start tables) (turn 0 ++ turn 1) ∧
      s.db.committed.audit.map (fun entry => (entry.previousStage, entry.stage)) =
        [(some .recommended, .approved), (some .approved, .rejected)] := by
  intro calls tables turn s
  have fresh : EachStep (next "a" calls) (Fresh "a") (start tables) (turn 0 ++ turn 1) := by decide
  exact ⟨(transitions_follow_iff "a" calls tables (turn 0 ++ turn 1)).1.mpr fresh, by decide⟩

/-- An approval that was checked before another process rejected the action is written after it. -/
theorem rejected_action_becomes_approved :
    let calls (n : Nat) : TransitionCall := if n = 0 then ⟨.approve, "alice"⟩ else ⟨.reject, "bob"⟩
    let tables : Tables := { recommendations := [sampleRecommendation "a"] }
    let rejection : List ActionTick := List.replicate 5 { process := 1, uuid := "1" }
    let approval : List ActionTick := List.replicate 4 { process := 0, uuid := "0" }
    let before := run (next "a" calls) (start tables) ({ process := 0 } :: rejection)
    let s := run (next "a" calls) before approval
    stageOf "a" before.db.committed = some .rejected ∧ stageOf "a" s.db.committed = some .approved ∧
      s.db.committed.audit.map (fun entry => (entry.previousStage, entry.stage)) =
        [(some .recommended, .rejected), (some .recommended, .approved)] := by
  intro calls tables rejection approval before s
  exact ⟨by decide, by decide, by decide⟩

end Rieko
