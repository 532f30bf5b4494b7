import Mathlib.Tactic.SplitIfs
import Rieko.Simulation.Service

namespace Rieko

open StatefulResult

namespace MemoryStorage

def basis (s : MemoryStorage) : List Recommendation × List Finding × List ChannelSnapshot :=
  (s.recommendations, s.findings, s.channelSnapshots)

def newestSimulation (s : MemoryStorage) (inputHash : String) : Option SimulationRecord :=
  latestCreated (s.simulationRecords.filter fun record =>
    inputHash ≠ "" ∧ record.inputHash = inputHash ∧ !record.canonicalInput.isNull)

def opened (s : MemoryStorage) : MemoryStorage := { s with transactionSnapshot := some s.snapshot }

/-- Nothing but simulations and their events differs. -/
def OnlySimulations (s s' : MemoryStorage) : Prop :=
  s' = { s with simulationRecords := s'.simulationRecords, simulationEvents := s'.simulationEvents }

theorem OnlySimulations.restore {s m : MemoryStorage} (idle : s.transactionSnapshot = none)
    (only : OnlySimulations s.opened m) : m.restore s.snapshot = s := by
  have kept : m.findingAbsent = s.findingAbsent := (congrArg findingAbsent (show m = _ from only):)
  show { s with findingAbsent := m.findingAbsent, transactionSnapshot := none } = s
  rw [kept, ← idle]

end MemoryStorage

/-- What the libraries promise of their results. -/
structure SimulationExternal.Lawful (ext : SimulationExternal) : Prop where
  digest : ∀ bytes, ext.sha256 bytes ≠ ""
  input : ∀ input, (ext.codec.input input).isNull = false
  result : ∀ result, (ext.codec.result result).isNull = false
  /-- Instants whose texts can be read back have texts in their own order. -/
  chronological : ∀ earlier later, earlier ≤ later → ∀ t t', ext.parseRfc3339 (ext.rfc3339 earlier) = .ok t →
    ext.parseRfc3339 (ext.rfc3339 later) = .ok t' → ext.rfc3339 earlier ≤ ext.rfc3339 later

namespace SimulationService

open MemoryStorage

section Reads

variable {ext : SimulationExternal}

theorem recommendationForAction_reads (actionId : String) :
    ReadsOnly basis (stored (σ := MemoryStorage) (Storage.recommendationForAction actionId)) := by
  refine ReadsOnly.adapt _ fun s => ⟨.ok (Rows.lookup (·.action.id) s.recommendations actionId), fun t same => ?_⟩
  have recommendations : t.recommendations = s.recommendations := congrArg Prod.fst same
  show EStateM.Result.ok (Rows.lookup _ t.recommendations actionId) t = _
  rw [recommendations]
  rfl

theorem findingById_reads (findingId : String) :
    ReadsOnly basis (stored (σ := MemoryStorage) (SimulationStorage.findingById findingId)) := by
  refine ReadsOnly.adapt _ fun s => ⟨.ok (Rows.lookup Finding.id s.findings findingId), fun t same => ?_⟩
  have findings : t.findings = s.findings := congrArg (·.2.1) same
  show EStateM.Result.ok (Rows.lookup _ t.findings findingId) t = _
  rw [findings]
  rfl

theorem snapshotAt_reads (network : BitcoinNetwork) (nodeId channelId : String) (observedAt : DateTime)
    (role : String) :
    ReadsOnly basis (snapshotAt (σ := MemoryStorage) ext network nodeId channelId observedAt role) := by
  have looked : ReadsOnly basis
      (stored (σ := MemoryStorage) (SimulationStorage.channelSnapshotAt network nodeId channelId observedAt)) := by
    refine ReadsOnly.adapt _ fun s => ⟨.ok (s.channelSnapshots.find? fun snapshot => snapshot.network = some network ∧
      snapshot.nodeId = some nodeId ∧ snapshot.channelId = channelId ∧ snapshot.ts = observedAt), fun t same => ?_⟩
    have snapshots : t.channelSnapshots = s.channelSnapshots := congrArg (·.2.2) same
    show EStateM.Result.ok (t.channelSnapshots.find? _) t = _
    rw [snapshots]
    rfl
  exact looked.bind fun _ => ReadsOnly.ofExcept _

theorem simulationInput_reads (ext : SimulationExternal) (command : CreateSimulationCommand) (amountMsat : Nat) :
    ReadsOnly basis (simulationInput (σ := MemoryStorage) ext command amountMsat) := by
  refine (recommendationForAction_reads _).bind fun _ => (ReadsOnly.ofExcept _).bind fun _ => ?_
  refine (findingById_reads _).bind fun _ => (ReadsOnly.ofExcept _).bind fun _ => ?_
  refine (ReadsOnly.ofExcept _).bind fun _ => (ReadsOnly.ofExcept _).bind fun _ => ?_
  refine ((snapshotAt_reads _ _ _ _ _).adapt _).bind fun _ => ((snapshotAt_reads _ _ _ _ _).adapt _).bind fun _ => ?_
  exact ReadsOnly.ofExcept (.ok _)

def Asks (ext : SimulationExternal) (command : CreateSimulationCommand) (s : MemoryStorage)
    (recommendation : Recommendation) (input : SimulationInput) : Prop :=
  ∃ amountMsat, command.amountMsat (V := SimulationView) = .ok amountMsat ∧
    simulationInput ext command amountMsat s = .ok (recommendation, input) s

theorem Asks.elsewhere {command : CreateSimulationCommand} {s t : MemoryStorage} {recommendation : Recommendation}
    {input : SimulationInput} (asks : Asks ext command s recommendation input)
    (same : t.basis = s.basis) : Asks ext command t recommendation input := by
  obtain ⟨amountMsat, valid, ran⟩ := asks
  exact ⟨amountMsat, valid, ((simulationInput_reads ext command amountMsat).ok ran).2 t same⟩

end Reads

theorem evaluate_eq_ok {ext : SimulationExternal} {recommendation : Recommendation} {input : SimulationInput}
    {requestedAt : DateTime} {allowStale : Bool} {result : SimulationResult} :
    evaluate ext recommendation input requestedAt allowStale = .ok result ↔
      LiquidityRedistributionModel.supports recommendation = true ∧ input.isFutureAt requestedAt = false ∧
        staleRefused input requestedAt allowStale = false ∧
        LiquidityRedistributionModel.simulate ext.toExternal ext.codec input = .ok result := by
  unfold evaluate
  cases LiquidityRedistributionModel.supports recommendation with
  | false => simp
  | true =>
    cases input.isFutureAt requestedAt with
    | true => simp
    | false => cases staleRefused input requestedAt allowStale <;> simp

section Persist

variable {ext : SimulationExternal} {draws : SimulationDraws} {record : SimulationRecord} {s s' : MemoryStorage}

def requestedEvent (draws : SimulationDraws) (record : SimulationRecord) : SimulationEvent :=
  ⟨draws.requestedEventId, record.id, SimulationStatus.requested.asStr, none, record.requestedAt⟩

def terminalEvent (draws : SimulationDraws) (record : SimulationRecord) : SimulationEvent :=
  ⟨draws.terminalEventId, record.id, record.status, record.errorCode, record.completedAt.getD record.requestedAt⟩

def recorded (draws : SimulationDraws) (record : SimulationRecord) (s : MemoryStorage) : MemoryStorage :=
  { s with
    simulationRecords := s.simulationRecords ++ [record]
    simulationEvents := s.simulationEvents ++ [requestedEvent draws record, terminalEvent draws record] }

/-- No stored record keeps the record from being the only one of its input with a projection. -/
def Admits (s : MemoryStorage) (record : SimulationRecord) : Prop :=
  record.inputHash ≠ "" → record.replayable → ∀ existing ∈ s.simulationRecords,
    existing.inputHash = record.inputHash → existing.replayable = false

theorem parseStatus_asStr {text : String} {status : SimulationStatus} (parsed : parseStatus ext text = .ok status) :
    status.asStr = text := by
  unfold parseStatus at parsed
  split at parsed <;> cases parsed <;> rfl

theorem saveSimulationV2_ok (fresh : ∀ existing ∈ s.simulationRecords, existing.id ≠ record.id)
    (saved : saveSimulationV2 record s = .ok () s') :
    Admits s record ∧ s' = { s with simulationRecords := s.simulationRecords ++ [record] } := by
  unfold saveSimulationV2 at saved
  rw [Rows.lookup_eq_none.mpr fresh] at saved
  dsimp only at saved
  split at saved
  · cases saved
  · rename_i admitted
    cases saved
    refine ⟨fun hashed replayable existing member same => ?_, rfl⟩
    by_contra also
    refine admitted ⟨hashed, replayable, List.any_eq_true.mpr ⟨existing, member, ?_⟩⟩
    simpa [same] using also

theorem saveSimulationV2_error {e : StorageError} (failed : saveSimulationV2 record s = .error e s') : s' = s := by
  unfold saveSimulationV2 at failed
  split at failed <;> split at failed <;> cases failed <;> rfl

theorem appendSimulationEvent_ok {event : SimulationEvent} (appended : appendSimulationEvent event s = .ok () s') :
    s' = { s with simulationEvents := s.simulationEvents ++ [event] } := by
  unfold appendSimulationEvent at appended
  split at appended <;> cases appended
  rfl

theorem appendSimulationEvent_error {event : SimulationEvent} {e : StorageError}
    (failed : appendSimulationEvent event s = .error e s') : s' = s := by
  unfold appendSimulationEvent at failed
  split at failed <;> cases failed
  rfl

theorem persistOutcome_ends (fresh : ∀ existing ∈ s.simulationRecords, existing.id ≠ record.id) :
    Ends (fun _ s' => Admits s record ∧ s' = recorded draws record s) (OnlySimulations s)
      (persistOutcome ext draws record record.errorCode) s := by
  refine .intro (fun _ s' ran => ?_) fun e s' failed => ?_
  · obtain ⟨_, saved, save, ran⟩ := bind_ok.mp ran
    obtain ⟨status, _, parse, ran⟩ := bind_ok.mp ran
    obtain ⟨_, begun, requested, terminal⟩ := bind_ok.mp ran
    obtain ⟨admits, rfl⟩ := saveSimulationV2_ok fresh (adapt_ok.mp save)
    obtain ⟨parsed, rfl⟩ := ofExcept_ok.mp parse
    refine ⟨admits, ?_⟩
    rw [appendSimulationEvent_ok (adapt_ok.mp terminal), appendSimulationEvent_ok (adapt_ok.mp requested),
      parseStatus_asStr parsed]
    show { s with simulationRecords := _, simulationEvents := s.simulationEvents ++ [_] ++ [_] } = _
    rw [List.append_assoc]
    rfl
  · rcases bind_error.mp failed with failed | ⟨_, saved, save, failed⟩
    · obtain ⟨_, failed, -⟩ := adapt_error.mp failed
      rw [saveSimulationV2_error failed]
      rfl
    obtain ⟨-, rfl⟩ := saveSimulationV2_ok fresh (adapt_ok.mp save)
    rcases bind_error.mp failed with failed | ⟨status, _, parse, failed⟩
    · rw [(ofExcept_error.mp failed).2]
      rfl
    obtain ⟨-, rfl⟩ := ofExcept_ok.mp parse
    rcases bind_error.mp failed with failed | ⟨_, begun, requested, failed⟩
    · obtain ⟨_, failed, -⟩ := adapt_error.mp failed
      rw [appendSimulationEvent_error failed]
      rfl
    · obtain ⟨_, failed, -⟩ := adapt_error.mp failed
      rw [appendSimulationEvent_error failed, appendSimulationEvent_ok (adapt_ok.mp requested)]
      rfl

end Persist

section Existing

variable {ext : SimulationExternal} {existing : SimulationRecord} {view : SimulationView} {now : DateTime}
  {allowStale : Bool}

theorem answerOfExisting_some : answerOfExisting ext now allowStale existing = .ok (some view) ↔
    existing.projection.isNull = false ∧ simulationView ext existing now = .ok view ∧
      (view.stale = true → allowStale = true) := by
  unfold answerOfExisting
  cases existing.projection.isNull with
  | true =>
    cases simulationView ext existing now <;>
      cases (allowStale && decide (existing.status = SimulationStatus.stale.asStr)) <;>
      simp [Except.mapError, bind, Except.bind, throw, throwThe, MonadExceptOf.throw, pure, Except.pure]
  | false =>
    cases simulationView ext existing now with
    | error e => simp [Except.mapError, bind, Except.bind]
    | ok found =>
      cases stale : found.stale <;> cases allowStale <;>
        simp [Except.mapError, bind, Except.bind, throw, throwThe, MonadExceptOf.throw, pure, Except.pure, stale]
      all_goals
        rintro rfl
        simp [stale]

theorem answerOfExisting_none (again : answerOfExisting ext now allowStale existing = .ok none) :
    existing.projection.isNull = true := by
  unfold answerOfExisting at again
  cases projected : existing.projection.isNull with
  | true => rfl
  | false =>
    cases viewed : simulationView ext existing now with
    | error e => rw [projected, viewed] at again; cases again
    | ok found =>
      rw [projected, viewed] at again
      change (if found.stale && !allowStale then .error _ else .ok (some found)) = Except.ok none at again
      split at again <;> cases again

theorem answerOfExisting_error {error : SimulationAppError SimulationView}
    (failed : answerOfExisting ext now allowStale existing = .error error) :
    error.simulation = none ∨ ∃ view, error.simulation = some view ∧ simulationView ext existing now = .ok view := by
  unfold answerOfExisting at failed
  cases viewed : simulationView ext existing now with
  | error e =>
    split at failed
    · rw [viewed] at failed; cases failed; exact .inl rfl
    split at failed
    · rw [viewed] at failed; cases failed; exact .inl rfl
    · cases failed
  | ok found =>
    refine .inr ⟨found, ?_, rfl⟩
    split at failed
    · rw [viewed] at failed
      change (if found.stale && !allowStale then .error _ else .ok (some found)) = Except.error error at failed
      split at failed <;> cases failed
      rfl
    split at failed
    · rw [viewed] at failed; cases failed; rfl
    · cases failed

end Existing

def closed (s : MemoryStorage) : EStateM.Result (Stopped SimulationView) MemoryStorage (Answer × Bool) →
    EStateM.Result (Stopped SimulationView) MemoryStorage Answer
  | .ok (answer, true) m => .ok answer { m with transactionSnapshot := none }
  | .ok (answer, false) m => .ok answer (m.restore s.snapshot)
  | .error (.failed error) m =>
    .error (.failed error) (if error.simulation.isSome then { m with transactionSnapshot := none }
      else m.restore s.snapshot)
  | .error .panicked m => .error .panicked m

abbrev inputHash (ext : SimulationExternal) (input : SimulationInput) : String :=
  computeInputHash ext.toExternal ext.codec input

structure Evaluated (ext : SimulationExternal) (call : SimulationCall) (s : MemoryStorage)
    (recommendation : Recommendation) (input : SimulationInput) (record : SimulationRecord)
    (view : SimulationView) : Prop where
  replaces : ∀ existing, s.newestSimulation (inputHash ext input) = some existing → existing.projection.isNull = true
  built : simulationRecord ext recommendation input call.draws (inputHash ext input)
    (settle input call.draws.requestedAt call.command.allowStale
      (evaluate ext recommendation input call.draws.requestedAt call.command.allowStale)) = some record
  admits : Admits s record
  viewed : simulationView ext record call.draws.completedAt = .ok view

inductive Exit (ext : SimulationExternal) (call : SimulationCall) (s : MemoryStorage) :
    EStateM.Result (Stopped SimulationView) MemoryStorage Answer → Prop where
  | refused {error : SimulationAppError SimulationView} (plain : error.simulation = none) :
    Exit ext call s (.error (.failed error) s)
  | repeated {error : SimulationAppError SimulationView} {record : SimulationRecord} {view : SimulationView}
      (member : record ∈ s.simulationRecords) (viewed : simulationView ext record call.draws.lookedUpAt = .ok view)
      (shows : error.simulation = some view) : Exit ext call s (.error (.failed error) s)
  | reused {recommendation : Recommendation} {input : SimulationInput} {record : SimulationRecord}
      {view : SimulationView} (idle : s.transactionSnapshot = none)
      (asks : Asks ext call.command s.opened recommendation input)
      (newest : s.newestSimulation (inputHash ext input) = some record)
      (projected : record.projection.isNull = false)
      (viewed : simulationView ext record call.draws.lookedUpAt = .ok view) :
    Exit ext call s (.ok ⟨view, true⟩ s)
  | created {recommendation : Recommendation} {input : SimulationInput} {record : SimulationRecord}
      {view : SimulationView} {result : SimulationResult} (idle : s.transactionSnapshot = none)
      (asks : Asks ext call.command s.opened recommendation input)
      (evaluated : Evaluated ext call s recommendation input record view)
      (projected : record.projection = ext.codec.result result) :
    Exit ext call s (.ok ⟨view, false⟩ (recorded call.draws record s))
  | failure {error : SimulationAppError SimulationView} {recommendation : Recommendation} {input : SimulationInput}
      {record : SimulationRecord} {view : SimulationView}
      (evaluated : Evaluated ext call s recommendation input record view)
      (shows : error.simulation = some view) :
    Exit ext call s (.error (.failed error) (recorded call.draws record s))
  | panicked (idle : s.transactionSnapshot = none) : Exit ext call s (.error .panicked s.opened)

section Exits

variable {ext : SimulationExternal} {call : SimulationCall} {s : MemoryStorage} {recommendation : Recommendation}
  {input : SimulationInput}

theorem recorded_commit (idle : s.transactionSnapshot = none) (draws : SimulationDraws) (record : SimulationRecord) :
    { recorded draws record s.opened with transactionSnapshot := none } = recorded draws record s := by
  show { recorded draws record s with transactionSnapshot := none } = _
  rw [← idle]
  rfl

theorem opened_commit (idle : s.transactionSnapshot = none) : { s.opened with transactionSnapshot := none } = s := by
  show { s with transactionSnapshot := none } = s
  rw [← idle]

theorem closed_refused (idle : s.transactionSnapshot = none) {error : SimulationAppError SimulationView}
    {m : MemoryStorage} (plain : error.simulation = none) (only : OnlySimulations s.opened m) :
    Exit ext call s (closed s (.error (.failed error) m)) := by
  have ended : closed s (.error (.failed error) m) = .error (.failed error) s := by
    show EStateM.Result.error _ (if error.simulation.isSome then _ else m.restore s.snapshot) = _
    rw [plain, Option.isSome_none, if_neg (by simp), only.restore idle]
  rw [ended]
  exact .refused plain

theorem settle_cases (input : SimulationInput) (requestedAt : DateTime) (allowStale : Bool)
    (outcome : Except ModelError SimulationResult) :
    let settlement := settle input requestedAt allowStale outcome
    (∃ result, settlement.projection = some result ∧ settlement.kind = none) ∨
      ∃ kind message, settlement.kind = some kind ∧ settlement.message = some message := by
  intro settlement
  cases outcome with
  | ok result => exact .inl ⟨result, rfl, rfl⟩
  | error e =>
    refine .inr ?_
    cases e with
    | unsupported modelId => exact ⟨_, _, rfl, rfl⟩
    | calculationFailed message => exact ⟨_, _, rfl, rfl⟩
    | serialization message => exact ⟨_, _, rfl, rfl⟩
    | invalidInput message =>
      show ∃ kind text, (settle input requestedAt allowStale (.error (.invalidInput message))).kind = some kind ∧
        (settle input requestedAt allowStale (.error (.invalidInput message))).message = some text
      unfold settle
      dsimp only
      split
      · exact ⟨_, _, rfl, rfl⟩
      split <;> exact ⟨_, _, rfl, rfl⟩

theorem evaluateAndPersist_exit (idle : s.transactionSnapshot = none)
    (fresh : ∀ existing ∈ s.simulationRecords, existing.id ≠ call.draws.id)
    (asks : Asks ext call.command s.opened recommendation input)
    (replaces : ∀ existing, s.newestSimulation (inputHash ext input) = some existing →
      existing.projection.isNull = true) :
    Exit ext call s (closed s (evaluateAndPersist ext call.draws recommendation input (inputHash ext input)
      call.command.allowStale s.opened)) := by
  unfold evaluateAndPersist
  have cases := settle_cases input call.draws.requestedAt call.command.allowStale
    (evaluate ext recommendation input call.draws.requestedAt call.command.allowStale)
  dsimp only at cases ⊢
  generalize settled : settle input call.draws.requestedAt call.command.allowStale
    (evaluate ext recommendation input call.draws.requestedAt call.command.allowStale) = settlement at cases ⊢
  cases built : simulationRecord ext recommendation input call.draws (inputHash ext input) settlement with
  | none => exact .panicked idle
  | some record =>
    rw [bind_of_ok (ofExcept_ok.mpr ⟨(rfl : okOr (some record) Stopped.panicked = .ok record), rfl⟩)]
    obtain ⟨explanation, -, made⟩ := Option.map_eq_some_iff.mp built
    have named : record.id = call.draws.id := made ▸ rfl
    have coded : record.errorCode = settlement.errorCode := made ▸ rfl
    have ends : Ends (fun _ m => Admits s.opened record ∧ m = recorded call.draws record s.opened)
        (OnlySimulations s.opened) (persistOutcome ext call.draws record record.errorCode) s.opened :=
      persistOutcome_ends fun existing member => (fresh existing member).trans_eq named.symm
    rw [coded] at ends
    cases persisted : persistOutcome ext call.draws record settlement.errorCode s.opened with
    | error e m =>
      rw [bind_of_error (show plainly _ _ = _ from adapt_of_error persisted)]
      exact closed_refused idle rfl (ends.error persisted)
    | ok _ m =>
      obtain ⟨admits, rfl⟩ := ends.ok persisted
      rw [bind_of_ok (show plainly _ _ = _ from adapt_of_ok persisted)]
      cases viewed : simulationView ext record call.draws.completedAt with
      | error e => exact closed_refused idle rfl rfl
      | ok view =>
        subst settled
        have evaluated : Evaluated ext call s recommendation input record view := ⟨replaces, built, admits, viewed⟩
        rw [bind_of_ok (show plainly (ofExcept (.ok view)) _ = .ok view _ from rfl)]
        rcases cases with ⟨result, projected, accepted⟩ | ⟨kind, message, rejected, text⟩
        · unfold conclude
          rw [accepted]
          show Exit ext call s (.ok _ { recorded call.draws record s.opened with transactionSnapshot := none })
          rw [recorded_commit idle]
          have encoded : record.projection = ext.codec.result result := by rw [← made, projected]; rfl
          exact .created idle asks evaluated encoded
        · unfold conclude
          rw [rejected, text]
          show Exit ext call s (.error _ { recorded call.draws record s.opened with transactionSnapshot := none })
          rw [recorded_commit idle]
          exact .failure evaluated rfl

theorem createInTransaction_exit (idle : s.transactionSnapshot = none)
    (fresh : ∀ existing ∈ s.simulationRecords, existing.id ≠ call.draws.id) {amountMsat : Nat}
    (valid : call.command.amountMsat (V := SimulationView) = .ok amountMsat) :
    Exit ext call s (closed s (createInTransaction ext call.draws call.command amountMsat s.opened)) := by
  unfold createInTransaction
  have reads := simulationInput_reads ext call.command amountMsat
  cases found : simulationInput ext call.command amountMsat s.opened with
  | error e m =>
    rw [bind_of_error (show plainly _ _ = _ from adapt_of_error found)]
    rw [reads.error found]
    exact closed_refused idle rfl rfl
  | ok pair m =>
    obtain ⟨rfl, -⟩ := reads.ok found
    rw [bind_of_ok (show plainly _ _ = _ from adapt_of_ok found)]
    obtain ⟨recommendation, input⟩ := pair
    have asks : Asks ext call.command s.opened recommendation input := ⟨amountMsat, valid, found⟩
    dsimp only
    rw [bind_of_ok (show plainly (stored (SimulationStorage.simulationV2ByInputHash (inputHash ext input))) s.opened =
      .ok (s.newestSimulation (inputHash ext input)) s.opened from rfl)]
    cases newest : s.newestSimulation (inputHash ext input) with
    | none =>
      rw [bind_of_ok (ofExcept_ok.mpr ⟨(rfl : Except.mapError _ (.ok none) = .ok none), rfl⟩)]
      exact evaluateAndPersist_exit idle fresh asks (by simp [newest])
    | some existing =>
      dsimp only
      have member : existing ∈ s.simulationRecords := (List.mem_filter.mp (mem_of_latestCreated newest)).1
      cases answered : answerOfExisting ext call.draws.lookedUpAt call.command.allowStale existing with
      | error e =>
        rw [bind_of_error (ofExcept_error.mpr ⟨(rfl : Except.mapError _ (.error e) = .error (.failed e)), rfl⟩)]
        rcases answerOfExisting_error answered with plain | ⟨view, shows, viewed⟩
        · exact closed_refused idle plain rfl
        · have committed : closed s (.error (.failed e) s.opened) = .error (.failed e) s := by
            show EStateM.Result.error _ (if e.simulation.isSome then _ else _) = _
            rw [shows, Option.isSome_some, if_pos rfl, opened_commit idle]
          rw [committed]
          exact .repeated member viewed shows
      | ok answer =>
        rw [bind_of_ok (ofExcept_ok.mpr ⟨(rfl : Except.mapError _ (.ok answer) = .ok answer), rfl⟩)]
        cases answer with
        | none =>
          exact evaluateAndPersist_exit idle fresh asks fun _ same => by
            cases newest.symm.trans same
            exact answerOfExisting_none answered
        | some view =>
          obtain ⟨projected, viewed, -⟩ := answerOfExisting_some.mp answered
          have undone : s.opened.restore s.snapshot = s := OnlySimulations.restore idle rfl
          show Exit ext call s (.ok _ (s.opened.restore s.snapshot))
          rw [undone]
          exact .reused idle asks newest projected viewed

theorem persistOutcome_keeps (saved : MemoryStorageState) (draws : SimulationDraws) (record : SimulationRecord)
    (errorCode : Option String) :
    Preserves (fun s : MemoryStorage => s.transactionSnapshot = some saved)
      (persistOutcome ext draws record errorCode) := by
  have appends (event : SimulationEvent) : Preserves (fun s : MemoryStorage => s.transactionSnapshot = some saved)
      (appendSimulationEvent event) := by
    intro s begun
    unfold final appendSimulationEvent
    by_cases duplicate : s.simulationEvents.any (·.id = event.id)
    · rw [if_pos duplicate]; exact begun
    · rw [if_neg duplicate]; exact begun
  have saves : Preserves (fun s : MemoryStorage => s.transactionSnapshot = some saved) (saveSimulationV2 record) := by
    intro s begun
    unfold final
    cases ended : saveSimulationV2 record s with
    | error e s' => rw [saveSimulationV2_error ended]; exact begun
    | ok u s' =>
      unfold saveSimulationV2 at ended
      split at ended <;> split at ended <;> cases ended <;> exact begun
  refine (saves.adapt _).bind fun _ => (Preserves.ofExcept _).bind fun _ => ?_
  exact ((appends _).adapt _).bind fun _ => (appends _).adapt _

theorem createInTransaction_keeps (saved : MemoryStorageState) (draws : SimulationDraws)
    (command : CreateSimulationCommand) (amountMsat : Nat) :
    Preserves (fun s : MemoryStorage => s.transactionSnapshot = some saved)
      (createInTransaction ext draws command amountMsat) := by
  refine ((simulationInput_reads ext command amountMsat).preserves.adapt _).bind fun pair => ?_
  refine (Preserves.adapt _ (Preserves.adapt _ fun _ begun => begun)).bind fun existing => ?_
  refine (Preserves.ofExcept _).bind fun answer => ?_
  cases answer with
  | some view => exact Preserves.pure _
  | none =>
    refine (Preserves.ofExcept _).bind fun record => ?_
    refine ((persistOutcome_keeps saved draws record _).adapt _).bind fun _ => ?_
    exact ((Preserves.ofExcept _).adapt _).bind fun view => Preserves.ofExcept _

theorem validate_error {V : Type} {command : CreateSimulationCommand} {e : SimulationAppError V}
    (refused : command.validate = .error e) : ∃ message, e = .new .invalidRequest message := by
  unfold CreateSimulationCommand.validate at refused
  simp only [List.forIn_cons, List.forIn_nil, bind, Except.bind, throw, throwThe, MonadExceptOf.throw, pure,
    Except.pure] at refused
  split_ifs at refused <;> cases refused <;> exact ⟨_, rfl⟩

theorem amountMsat_error {V : Type} {command : CreateSimulationCommand} {e : SimulationAppError V}
    (refused : command.amountMsat = .error e) :
    ∃ kind message, e = .new kind message ∧ (kind = .invalidRequest ∨ kind = .unknownModel) := by
  unfold CreateSimulationCommand.amountMsat at refused
  rcases except_bind_error.mp refused with invalid | ⟨_, _, refused⟩
  · obtain ⟨message, rfl⟩ := validate_error invalid
    exact ⟨_, message, rfl, .inl rfl⟩
  · simp only [bind, Except.bind, throw, throwThe, MonadExceptOf.throw, pure, Except.pure] at refused
    split_ifs at refused
    · cases refused
      exact ⟨_, _, rfl, .inr rfl⟩
    · cases refused
      exact ⟨_, _, rfl, .inl rfl⟩

theorem create_idle {body : CreateSimulationCommand → Nat →
      EStateM (Stopped SimulationView) MemoryStorage (Answer × Bool)} {command : CreateSimulationCommand}
    {amountMsat : Nat} (idle : s.transactionSnapshot = none)
    (valid : command.amountMsat (V := SimulationView) = .ok amountMsat)
    (keeps : (final (body command amountMsat) s.opened).transactionSnapshot = some s.snapshot) :
    create body command s = closed s (body command amountMsat s.opened) := by
  have begins : Storage.beginTransaction s = .ok () s.opened := beginTransaction_ok.mpr ⟨idle, rfl⟩
  have opens : createSimulation.opening (V := SimulationView) s = .ok () s.opened := adapt_of_ok begins
  unfold final at keeps
  unfold create unwound
  rw [valid, begins]
  dsimp only
  cases ran : body command amountMsat s.opened with
  | ok pair m =>
    rw [ran] at keeps
    have calmed : calm body command amountMsat s.opened = .ok pair m := adapt_of_ok ran
    have commits : createSimulation.commit (V := SimulationView) m = .ok () { m with transactionSnapshot := none } :=
      adapt_of_ok (commitTransaction_ok.mpr ⟨by simp [keeps], rfl⟩)
    have undoes : createSimulation.undo (V := SimulationView) m = .ok () (m.restore s.snapshot) :=
      adapt_of_ok (rollbackTransaction_of_begun keeps)
    obtain ⟨answer, wrote⟩ := pair
    have closes : closeOrUndo (if wrote then createSimulation.commit else createSimulation.undo)
        (createSimulation.undo (V := SimulationView)) m =
          .ok () (if wrote then { m with transactionSnapshot := none } else m.restore s.snapshot) := by
      rw [closeOrUndo_eq]
      cases wrote
      · rw [if_neg (by simp), undoes]; rfl
      · rw [if_pos rfl, commits]; rfl
    have ended : createSimulation (calm body) command s =
        .ok answer (if wrote then { m with transactionSnapshot := none } else m.restore s.snapshot) := by
      unfold createSimulation
      rw [valid]
      dsimp only
      rw [bind_of_ok opens, bind_of_ok (attempt_of_ok calmed)]
      dsimp only
      rw [bind_of_ok closes]
      rfl
    refine (adapt_of_ok ended).trans ?_
    cases wrote <;> rfl
  | error stopped m =>
    rw [ran] at keeps
    cases stopped with
    | panicked => rfl
    | failed e =>
      have calmed : calm body command amountMsat s.opened = .error e m := adapt_of_error ran
      have commits : createSimulation.commit (V := SimulationView) m = .ok () { m with transactionSnapshot := none } :=
        adapt_of_ok (commitTransaction_ok.mpr ⟨by simp [keeps], rfl⟩)
      have undoes : createSimulation.undo (V := SimulationView) m = .ok () (m.restore s.snapshot) :=
        adapt_of_ok (rollbackTransaction_of_begun keeps)
      have closes : (if e.simulation.isSome then closeOrUndo createSimulation.commit createSimulation.undo
          else createSimulation.undo (V := SimulationView)) m =
            .ok () (if e.simulation.isSome then { m with transactionSnapshot := none } else m.restore s.snapshot) := by
        split
        · rw [closeOrUndo_eq, commits]
        · exact undoes
      have ended : createSimulation (calm body) command s = .error e
          (if e.simulation.isSome then { m with transactionSnapshot := none } else m.restore s.snapshot) := by
        unfold createSimulation
        rw [valid]
        dsimp only
        rw [bind_of_ok opens, bind_of_ok (attempt_of_error calmed)]
        dsimp only
        rw [bind_of_ok closes]
        rfl
      exact adapt_of_error ended

theorem create_invalid {body : CreateSimulationCommand → Nat →
      EStateM (Stopped SimulationView) MemoryStorage (Answer × Bool)} {command : CreateSimulationCommand}
    {e : SimulationAppError SimulationView} (refused : command.amountMsat = .error e) :
    create body command s = .error (.failed e) s := by
  simp only [create, unwound, createSimulation, refused]
  rfl

theorem create_nested {body : CreateSimulationCommand → Nat →
      EStateM (Stopped SimulationView) MemoryStorage (Answer × Bool)} {command : CreateSimulationCommand}
    {amountMsat : Nat} {saved : MemoryStorageState} (begun : s.transactionSnapshot = some saved)
    (valid : command.amountMsat (V := SimulationView) = .ok amountMsat) :
    create body command s = .error (.failed (.ofStorage (.backend "nested transaction attempted"))) s := by
  have refuses : Storage.beginTransaction s = .error (.backend "nested transaction attempted") s := by
    show beginTransaction s = _
    unfold beginTransaction
    rw [begun]
  have ended : createSimulation (calm body) command s =
      .error (.ofStorage (.backend "nested transaction attempted")) s := by
    unfold createSimulation
    rw [valid]
    exact bind_of_error (adapt_of_error refuses) _
  unfold create unwound
  rw [valid, refuses]
  exact adapt_of_error ended

theorem run_exit (ext : SimulationExternal) (fresh : ∀ existing ∈ s.simulationRecords, existing.id ≠ call.draws.id) :
    Exit ext call s (call.run ext s) := by
  unfold SimulationCall.run
  cases valid : call.command.amountMsat (V := SimulationView) with
  | error e =>
    rw [create_invalid valid]
    obtain ⟨kind, message, rfl, -⟩ := amountMsat_error valid
    exact .refused rfl
  | ok amountMsat =>
    cases begun : s.transactionSnapshot with
    | some saved =>
      rw [create_nested begun valid]
      exact .refused rfl
    | none =>
      rw [create_idle begun valid
        (createInTransaction_keeps s.snapshot call.draws call.command amountMsat s.opened rfl)]
      exact createInTransaction_exit begun fresh valid

end Exits

end SimulationService

end Rieko
