import Rieko.Cli.Ladders
import Rieko.Status.Polling

namespace Rieko

open StatefulResult CycleM SqlConnection SqliteStorage Transition OperationalState

section Programs

variable {σ : Type} [Storage σ]

def recordPollUpdate (env : CycleEnv) (update : PollUpdate) : CycleM σ Unit := do
  let now ← now env
  operational (Storage.updateOperationalState (update.apply now))

def recordGreenfieldAttempt (env : CycleEnv) : CycleM σ Unit := recordPollUpdate env .greenfieldAttempt

def recordGreenfieldFailure (env : CycleEnv) : CycleM σ Unit := recordPollUpdate env .greenfieldFailure

def recordBitcoinCoreAttempt (env : CycleEnv) : CycleM σ Unit := recordPollUpdate env .bitcoinCoreAttempt

def recordBitcoinCoreSuccess (env : CycleEnv) (snapshot : BitcoinCoreSnapshot) : CycleM σ Unit :=
  recordPollUpdate env (.bitcoinCoreSuccess snapshot)

def recordBitcoinCoreFailure (env : CycleEnv) : CycleM σ Unit := recordPollUpdate env .bitcoinCoreFailure

def recordLndAttempt (env : CycleEnv) : CycleM σ Unit := recordPollUpdate env .lndAttempt

def recordLndSuccess (env : CycleEnv) (snapshot : LightningSnapshot) : CycleM σ Unit :=
  recordPollUpdate env (.lndSuccess snapshot)

def recordLndFailure (env : CycleEnv) : CycleM σ Unit := recordPollUpdate env .lndFailure

def PollUpdate.record (env : CycleEnv) : PollUpdate → CycleM σ Unit
  | .greenfieldAttempt => recordGreenfieldAttempt env
  | .greenfieldSnapshot snapshot => persistGreenfieldSnapshot env snapshot
  | .greenfieldFailure => recordGreenfieldFailure env
  | .bitcoinCoreAttempt => recordBitcoinCoreAttempt env
  | .bitcoinCoreSuccess snapshot => recordBitcoinCoreSuccess env snapshot
  | .bitcoinCoreFailure => recordBitcoinCoreFailure env
  | .lndAttempt => recordLndAttempt env
  | .lndSuccess snapshot => recordLndSuccess env snapshot
  | .lndFailure => recordLndFailure env

end Programs

namespace World

def operationalState (w : World SqliteStorage) : OperationalState := w.storage.conn.tables.operationalState.getD {}

end World

/-- A call makes the whole update of the operational state. If it fails it may have made none of it instead. -/
def Updates (program : CycleM SqliteStorage Unit) (f : OperationalState → OperationalState)
    (w : World SqliteStorage) : Prop :=
  Ends (fun _ w' => w'.operationalState = f w.operationalState)
    (fun w' => w'.operationalState = w.operationalState ∨ w'.operationalState = f w.operationalState) program w

section Calls

variable {env : CycleEnv} {w w' : World SqliteStorage}

theorem operational_updates (f : OperationalState → OperationalState) :
    Updates (operational (Storage.updateOperationalState f)) f w := by
  refine .intro (fun u w' ran => ?_) fun e w' failed => ?_
  · obtain ⟨s, updated, rfl⟩ := lift_ok.mp ran
    unfold World.operationalState
    rw [(updateOperationalState_ok updated).1]
    rfl
  · obtain ⟨reason, s, refused, -, rfl⟩ := lift_error.mp failed
    unfold World.operationalState
    rcases updateOperationalState_error refused with same | rewritten
    · exact .inl (by rw [same])
    · exact .inr (by rw [rewritten]; rfl)

theorem now_updates {next : DateTime → CycleM SqliteStorage Unit} {f : OperationalState → OperationalState}
    (updates : Updates (next (env.clock w.ticks)) f { w with ticks := w.ticks + 1 }) :
    Updates (do let now ← now env; next now) f w := by
  have read : CycleM.now env w = .ok (env.clock w.ticks) { w with ticks := w.ticks + 1 } := rfl
  unfold Updates Ends
  rw [bind_of_ok read]
  exact updates

theorem recordPollUpdate_updates (update : PollUpdate) :
    Updates (recordPollUpdate env update) (update.apply (env.clock w.ticks)) w :=
  now_updates (operational_updates _)

/-- A transaction that began at given tables is open, in which neither the operational state nor the clock moved. -/
structure Holding (saved : Tables) (state : Option OperationalState) (ticks : Nat) (w : World SqliteStorage) :
    Prop where
  begun : w.storage.Begun
  opened : w.storage.conn.saved = some saved
  same : w.storage.conn.tables.operationalState = state
  clock : w.ticks = ticks

theorem saveChannelSnapshot_holding (saved : Tables) (state : Option OperationalState) (ticks : Nat)
    (snapshot : ChannelSnapshot) :
    Preserves (Holding saved state ticks) (storage (Storage.saveChannelSnapshot (σ := SqliteStorage) snapshot)) := by
  intro w held
  rw [final_storage]
  have kept : SameTransaction w.storage (final (SqliteStorage.saveChannelSnapshot snapshot) w.storage) := by
    unfold final SqliteStorage.saveChannelSnapshot sql execute statement
    cases w.storage.conn.fails w.storage.conn.executed <;> exact ⟨rfl, rfl⟩
  have state : (final (SqliteStorage.saveChannelSnapshot snapshot) w.storage).conn.tables.operationalState =
      w.storage.conn.tables.operationalState := by
    unfold final SqliteStorage.saveChannelSnapshot sql execute statement
    cases w.storage.conn.fails w.storage.conn.executed <;> rfl
  exact ⟨Begun.stable _ _ kept held.begun, kept.1.trans held.opened, state.trans held.same, held.clock⟩

theorem persistGreenfieldSnapshotInside_ends (env : CycleEnv) {saved : Tables} {state : Option OperationalState}
    {ticks : Nat}
    (snapshot : NodeSnapshot) (held : Holding saved state ticks w) :
    Ends (fun _ w' => w'.storage.Begun ∧ w'.operationalState =
        (PollUpdate.greenfieldSnapshot snapshot).apply (env.clock ticks) (state.getD {}))
      (fun w' => w'.storage.Begun ∧ w'.storage.conn.saved = some saved)
      (persistGreenfieldSnapshotInside env snapshot) w := by
  have saves := Preserves.forM fun (channel : ChannelSnapshot) (_ : channel ∈ snapshot.channels) =>
    saveChannelSnapshot_holding saved state ticks
      { channel with stateDigest := some (channelSnapshotStateDigest env.ext channel) }
  have middle := saves w held
  unfold final at middle
  refine .intro (fun u w' ran => ?_) fun e w' failed => ?_
  · obtain ⟨_, m, saved, ran⟩ := bind_ok.mp ran
    rw [saved] at middle
    obtain ⟨now, m', read, ran⟩ := bind_ok.mp ran
    obtain ⟨rfl, rfl⟩ := now_ok.mp read
    obtain ⟨s, updated, rfl⟩ := lift_ok.mp ran
    obtain ⟨rewritten, transaction⟩ := updateOperationalState_ok updated
    refine ⟨Begun.stable _ _ transaction middle.begun, ?_⟩
    unfold World.operationalState
    rw [rewritten, ← middle.same, ← middle.clock]
    rfl
  · rcases bind_error.mp failed with refused | ⟨_, m, saved, failed⟩
    · rw [refused] at middle
      exact ⟨middle.begun, middle.opened⟩
    rw [saved] at middle
    rcases bind_error.mp failed with read | ⟨now, m', read, failed⟩
    · cases read
    obtain ⟨rfl, rfl⟩ := now_ok.mp read
    obtain ⟨reason, s, refused, -, rfl⟩ := lift_error.mp failed
    rw [show Storage.updateOperationalState (σ := SqliteStorage) = SqliteStorage.updateOperationalState from rfl,
      updateOperationalState_begun _ middle.begun] at refused
    obtain ⟨-, transaction⟩ := rewriteOperationalState_error refused
    exact ⟨Begun.stable _ _ transaction middle.begun, transaction.1.trans middle.opened⟩

theorem persistGreenfieldSnapshot_updates (snapshot : NodeSnapshot) :
    Updates (persistGreenfieldSnapshot env snapshot)
      ((PollUpdate.greenfieldSnapshot snapshot).apply (env.clock w.ticks)) w := by
  unfold persistGreenfieldSnapshot Updates Ends
  cases first : beginTransaction w.storage with
  | error e s =>
    have refused : storage (Storage.beginTransaction (σ := SqliteStorage)) w =
        .error ⟨[], .storage e⟩ { w with storage := s } := lift_error.mpr ⟨e, s, first, rfl, rfl⟩
    rw [bind_of_error refused]
    refine .inl ?_
    unfold World.operationalState
    rw [beginTransaction_error first]
  | ok u s =>
    have began : storage (Storage.beginTransaction (σ := SqliteStorage)) w = .ok u { w with storage := s } :=
      lift_ok.mpr ⟨s, first, rfl⟩
    rw [bind_of_ok began]
    obtain ⟨-, rfl⟩ := beginTransaction_ok first
    have held : Holding w.storage.conn.tables w.storage.conn.tables.operationalState w.ticks
        { w with storage := ⟨{ w.storage.conn.next with saved := some w.storage.conn.tables }, true⟩ } :=
      ⟨⟨rfl, rfl⟩, rfl, rfl, rfl⟩
    have body := persistGreenfieldSnapshotInside_ends env snapshot held
    cases inside : persistGreenfieldSnapshotInside (σ := SqliteStorage) env snapshot
        { w with storage := ⟨{ w.storage.conn.next with saved := some w.storage.conn.tables }, true⟩ } with
    | error e m =>
      obtain ⟨begun, opened⟩ := body.error inside
      obtain ⟨tables, saved, undone⟩ := rollback_begun begun
      rw [opened] at saved
      cases saved
      have after : final (storage (Storage.rollbackTransaction (σ := SqliteStorage))) m =
          { m with storage := ⟨{ m.storage.conn.next with tables := w.storage.conn.tables, saved := none },
            false⟩ } := by
        rw [final_storage]
        unfold final
        rw [show Storage.rollbackTransaction m.storage = _ from undone]
      rw [bind_of_ok (attempt_of_error inside)]
      dsimp only
      rw [bind_of_ok (discard_attempt _ m), after]
      exact .inl rfl
    | ok u m =>
      obtain ⟨begun, rewritten⟩ := body.ok inside
      have closes := commit_begun begun
      rw [bind_of_ok (attempt_of_ok inside)]
      dsimp only
      unfold storage lift
      cases closed : commitTransaction m.storage with
      | ok u s =>
        rw [closed] at closes
        rw [show Storage.commitTransaction m.storage = _ from closed, closes.1]
        exact rewritten
      | error e s =>
        rw [closed] at closes
        rw [show Storage.commitTransaction m.storage = _ from closed, closes.1]
        exact .inr rewritten

theorem record_updates (env : CycleEnv) (w : World SqliteStorage) (update : PollUpdate) :
    Updates (update.record env) (update.apply (env.clock w.ticks)) w := by
  cases update with
  | greenfieldSnapshot snapshot => exact persistGreenfieldSnapshot_updates snapshot
  | _ => exact recordPollUpdate_updates _

/-- The storage is idle and no statement of its connection will fail. -/
def Working (w : World SqliteStorage) : Prop := w.storage.Idle ∧ ∀ n, w.storage.conn.fails n = none

theorem recordPollUpdate_succeeds (update : PollUpdate) (working : Working w) :
    ∃ w', recordPollUpdate env update w = .ok () w' ∧ Working w' := by
  obtain ⟨s, ran, idle, fails⟩ :=
    updateOperationalState_quiet (update.apply (env.clock w.ticks)) working.1 working.2
  refine ⟨{ w with storage := s, ticks := w.ticks + 1 }, ?_, idle, fun n => (congrFun fails n).trans (working.2 n)⟩
  have read : CycleM.now env w = .ok (env.clock w.ticks) { w with ticks := w.ticks + 1 } := rfl
  unfold recordPollUpdate
  rw [bind_of_ok read]
  exact lift_ok.mpr ⟨s, ran, rfl⟩

theorem persistGreenfieldSnapshot_succeeds (snapshot : NodeSnapshot) (working : Working w) :
    ∃ w', persistGreenfieldSnapshot env snapshot w = .ok () w' ∧ Working w' := by
  have opens := begin_idle working.1
  cases first : beginTransaction w.storage with
  | error e s =>
    rw [first] at opens
    have failed := opens.2
    rw [working.2] at failed
    cases failed
  | ok u s =>
    rw [first] at opens
    obtain ⟨rfl, -⟩ := opens
    have began : storage (Storage.beginTransaction (σ := SqliteStorage)) w = .ok u { w with storage := _ } :=
      lift_ok.mpr ⟨_, first, rfl⟩
    have begun : Begun ⟨{ w.storage.conn.next with saved := some w.storage.conn.tables }, true⟩ := ⟨rfl, rfl⟩
    have body := TransactionOp.persistGreenfieldSnapshotInside_runs env snapshot { w with storage := _ } begun
    unfold persistGreenfieldSnapshot
    rw [bind_of_ok began]
    cases inside : persistGreenfieldSnapshotInside (σ := SqliteStorage) env snapshot
        { w with storage := ⟨{ w.storage.conn.next with saved := some w.storage.conn.tables }, true⟩ } with
    | error e m =>
      rw [inside] at body
      obtain ⟨-, i, -, failed⟩ := body
      change (w.storage.conn.fails (w.storage.conn.executed + 1 + i)).isSome = true at failed
      rw [working.2] at failed
      cases failed
    | ok u m =>
      rw [inside] at body
      obtain ⟨kept, -, fails, -⟩ := body
      have quiet (n : Nat) : m.storage.conn.fails n = none := (congrFun fails n).trans (working.2 n)
      have closes := commit_begun kept
      cases closed : commitTransaction m.storage with
      | error e s =>
        rw [closed] at closes
        have failed := closes.2
        rw [quiet] at failed
        cases failed
      | ok u s =>
        rw [closed] at closes
        obtain ⟨rfl, -⟩ := closes
        rw [bind_of_ok (attempt_of_ok inside)]
        exact ⟨{ m with storage := _ }, lift_ok.mpr ⟨_, closed, rfl⟩, ⟨rfl, rfl⟩, quiet⟩

theorem record_succeeds (env : CycleEnv) (update : PollUpdate) (working : Working w) :
    ∃ w', update.record env w = .ok () w' ∧ Working w' := by
  cases update with
  | greenfieldSnapshot snapshot => exact persistGreenfieldSnapshot_succeeds snapshot working
  | _ => exact recordPollUpdate_succeeds _ working

end Calls

def afterPoll (env : CycleEnv) (w : World SqliteStorage) (update : PollUpdate) : World SqliteStorage :=
  final (update.record env) w

def runPolls (env : CycleEnv) (w : World SqliteStorage) (updates : List PollUpdate) : World SqliteStorage :=
  run (afterPoll env) w updates

def pollLog (env : CycleEnv) : World SqliteStorage → List PollUpdate → List ((PollUpdate × DateTime) × Bool)
  | _, [] => []
  | w, update :: updates =>
    ((update, env.clock w.ticks), StatefulResult.succeeds (update.record env) w) ::
      pollLog env (afterPoll env w update) updates

section Runs

variable {env : CycleEnv} {w : World SqliteStorage}

theorem afterPoll_state (env : CycleEnv) (w : World SqliteStorage) (update : PollUpdate) :
    (afterPoll env w update).operationalState = w.operationalState.polled (update, env.clock w.ticks) ∨
      (afterPoll env w update).operationalState = w.operationalState ∧
        StatefulResult.succeeds (update.record env) w = false := by
  have updates := record_updates env w update
  unfold afterPoll final StatefulResult.succeeds
  cases result : PollUpdate.record env update w with
  | ok u w' => exact .inl (updates.ok result)
  | error e w' =>
    rcases updates.error result with same | made
    · exact .inr ⟨same, rfl⟩
    · exact .inl made

theorem runPolls_state (env : CycleEnv) (w : World SqliteStorage) (updates : List PollUpdate) :
    ∃ made : List (PollUpdate × DateTime),
      (runPolls env w updates).operationalState = run polled w.operationalState made ∧
      made.Sublist ((pollLog env w updates).map (·.1)) ∧
      (((pollLog env w updates).filter (·.2)).map (·.1)).Sublist made := by
  induction updates generalizing w with
  | nil => exact ⟨[], rfl, List.Sublist.refl _, List.Sublist.refl _⟩
  | cons update updates ih =>
    obtain ⟨made, ended, within, successes⟩ := ih (afterPoll env w update)
    unfold pollLog
    rcases afterPoll_state env w update with performed | ⟨skipped, failed⟩
    · refine ⟨(update, env.clock w.ticks) :: made, ?_, within.cons_cons _, ?_⟩
      · rw [performed] at ended
        exact ended
      · rw [List.filter_cons]
        split
        · exact successes.cons_cons _
        · exact successes.cons _
    · refine ⟨made, ?_, within.cons _, ?_⟩
      · rw [skipped] at ended
        exact ended
      · rw [List.filter_cons, if_neg (by simp [failed])]
        exact successes

theorem pollLog_working (working : Working w) (updates : List PollUpdate) :
    ∀ entry ∈ pollLog env w updates, entry.2 = true := by
  induction updates generalizing w with
  | nil => exact fun _ member => by cases member
  | cons update updates ih =>
    obtain ⟨w', ran, still⟩ := record_succeeds env update working
    have after : afterPoll env w update = w' := by
      unfold afterPoll final
      rw [ran]
    unfold pollLog
    refine List.forall_mem_cons.mpr ⟨?_, after ▸ ih still⟩
    unfold StatefulResult.succeeds
    rw [ran]

end Runs

/-- In every interleaving of the calls of the three pollers, whichever statements of the connection fail: the
    operational state is the result of the updates of the calls that succeeded, and of none but possibly some whose
    call failed. Each poller's part is what its own updates alone make of it, a connected part has what its last
    success brought, and a call that brings no snapshot leaves the successes as they were. -/
theorem pollers_keep_apart (env : CycleEnv) (w : World SqliteStorage) (updates : List PollUpdate) :
    (∃ made : List (PollUpdate × DateTime),
      (runPolls env w updates).operationalState = run polled w.operationalState made ∧
      (∀ poller, (runPolls env w updates).operationalState.part poller =
        (run polled w.operationalState (made.filter (·.1.poller = poller))).part poller) ∧
      made.Sublist ((pollLog env w updates).map (·.1)) ∧
      (((pollLog env w updates).filter (·.2)).map (·.1)).Sublist made ∧
      (Working w → made = (pollLog env w updates).map (·.1))) ∧
    (w.storage.conn.tables.operationalState = none ∨ w.operationalState.Sound →
      (runPolls env w updates).operationalState.Sound) ∧
    ∀ update, update.isAttemptOrFailure = true → SameSuccesses (runPolls env w updates).operationalState
      (afterPoll env (runPolls env w updates) update).operationalState := by
  obtain ⟨made, ended, within, successes⟩ := runPolls_state env w updates
  refine ⟨⟨made, ended, fun poller => ?_, within, successes, fun working => ?_⟩, fun sound => ?_,
    fun update quiet => ?_⟩
  · rw [ended]
    exact polled_separate.part_run poller w.operationalState made
  · have all : (pollLog env w updates).filter (·.2) = pollLog env w updates :=
      List.filter_eq_self.mpr (pollLog_working working updates)
    rw [all] at successes
    exact within.antisymm successes
  · have start : w.operationalState.Sound := by
      rcases sound with fresh | sound
      · unfold World.operationalState
        rw [fresh]
        exact .new
      · exact sound
    rw [ended]
    exact run_invariant (fun _ stamped held => held.polled stamped) start made
  · rcases afterPoll_state env (runPolls env w updates) update with performed | ⟨skipped, -⟩
    · rw [performed]
      exact .polled _ quiet
    · rw [skipped]
      exact ⟨rfl, rfl, rfl, rfl, rfl, rfl⟩

/-- Interleaved calls of the three pollers over a fresh database, no statement of which fails. -/
theorem pollers_keep_apart_working :
    let env : CycleEnv := ⟨⟨fun _ => "digest", fun _ => "null", fun _ => "instant", fun _ => "instant"⟩,
      fun tick => tick, fun _ => "uuid"⟩
    let w : World SqliteStorage := ⟨⟨{ tables := {}, saved := none }, false⟩, 0, 0⟩
    let updates : List PollUpdate :=
      [.greenfieldAttempt, .lndAttempt, .greenfieldFailure, .bitcoinCoreAttempt, .lndFailure]
    (runPolls env w updates).operationalState = run polled w.operationalState ((pollLog env w updates).map (·.1)) ∧
      (runPolls env w updates).operationalState.Sound := by
  intro env w updates
  have working : Working w := ⟨⟨rfl, rfl⟩, fun _ => rfl⟩
  obtain ⟨⟨made, ended, -, -, -, all⟩, sound, -⟩ := pollers_keep_apart env w updates
  rw [all working] at ended
  exact ⟨ended, sound (.inl rfl)⟩

end Rieko
