import Rieko.Simulation.Atomicity

namespace Rieko

open StatefulResult MemoryStorage

namespace SimulationService

/-- An error that no reading of the clock causes. -/
def Dateless {V : Type} (error : SimulationAppError V) : Prop := error.kind ≠ .futureDatedInput

theorem dateless_new {V : Type} {kind : SimulationAppErrorKind} {message : String}
    (other : kind ≠ .futureDatedInput) : Dateless (SimulationAppError.new kind message : SimulationAppError V) := other

section Errors

variable {ext : SimulationExternal}

theorem okOr_error {ε α : Type} {value : Option α} {error e : ε} (failed : okOr value error = .error e) :
    e = error := by
  cases value with
  | none => cases failed; rfl
  | some a => cases failed

theorem dateless_required {value : Option String} {message : String} {e : PlainError}
    (failed : required value message = .error e) : Dateless e := by
  rw [okOr_error failed]
  exact dateless_new (by decide)

theorem dateless_contextOrUnsupported {supported : Bool} {e : PlainError} (plain : Dateless e) :
    Dateless (contextOrUnsupported supported e) := by
  simp only [contextOrUnsupported]
  split
  · exact plain
  · exact dateless_new (by decide)

theorem dateless_referencedObservation {provenance : FindingProvenance} {e : PlainError}
    (failed : referencedObservation provenance = .error e) : Dateless e := by
  simp only [referencedObservation] at failed
  rcases except_bind_error.mp failed with failed | ⟨network, -, failed⟩
  · rw [okOr_error failed]
    exact dateless_new (by decide)
  rcases except_bind_error.mp failed with failed | ⟨reference, -, failed⟩
  · rw [okOr_error failed]
    exact dateless_new (by decide)
  split at failed
  · cases failed
    exact dateless_new (by decide)
  · cases failed

theorem dateless_parseFindingDirection {finding : Finding} {e : PlainError}
    (failed : parseFindingDirection finding = .error e) : Dateless e := by
  simp only [parseFindingDirection] at failed
  split at failed
  · cases failed
    exact dateless_new (by decide)
  split at failed
  · split at failed <;> cases failed <;> exact dateless_new (by decide)
  · cases failed
    exact dateless_new (by decide)

theorem dateless_simulationContext {supported : Bool} {recommendation : Recommendation} {finding : Finding}
    {e : PlainError} (failed : simulationContext supported recommendation finding = .error e) : Dateless e := by
  have inContext {α : Type} {value : Except PlainError α} (plain : ∀ e, value = .error e → Dateless e) {e : PlainError}
      (failed : value.mapError (contextOrUnsupported supported) = .error e) : Dateless e := by
    obtain ⟨inner, inside, rfl⟩ := mapError_error.mp failed
    exact dateless_contextOrUnsupported (plain inner inside)
  simp only [simulationContext] at failed
  split at failed
  all_goals rcases except_bind_error.mp failed with failed | ⟨direction, -, failed⟩
  · cases parsed : parseFindingDirection finding with
    | error e' => rw [parsed] at failed; cases failed; exact dateless_parseFindingDirection parsed
    | ok direction => rw [parsed] at failed; cases failed
  pick_goal 2
  · cases failed
  all_goals
    rcases except_bind_error.mp failed with failed | ⟨nodeId, -, failed⟩
    · exact inContext (fun _ => dateless_required) failed
    rcases except_bind_error.mp failed with failed | ⟨provenance, -, failed⟩
    · apply inContext _ failed
      intro e missing
      rw [okOr_error missing]
      exact dateless_new (by decide)
    rcases except_bind_error.mp failed with failed | ⟨observation, -, failed⟩
    · exact inContext (fun _ => dateless_referencedObservation) failed
    rcases except_bind_error.mp failed with failed | ⟨channel, -, failed⟩
    · exact inContext (fun _ => dateless_required) failed
    rcases except_bind_error.mp failed with failed | ⟨target, -, failed⟩
    · exact inContext (fun _ => dateless_required) failed
    · cases failed

theorem dateless_stored {σ α : Type} (program : EStateM StorageError σ α) : FailsWith Dateless (stored program) := by
  intro s e s' failed
  obtain ⟨inner, -, rfl⟩ := adapt_error.mp failed
  simp [Dateless, SimulationAppError.ofStorage, SimulationAppError.new]

theorem dateless_okOr {σ α : Type} (value : Option α) {e : PlainError} (plain : Dateless e) :
    FailsWith Dateless (MonadExcept.ofExcept (okOr value e) : EStateM PlainError σ α) := by
  apply FailsWith.ofExcept
  intro e' failed
  rwa [okOr_error failed]

theorem dateless_snapshotAt {σ : Type} [SimulationStorage σ] (network : BitcoinNetwork) (nodeId channelId : String)
    (observedAt : DateTime) (role : String) :
    FailsWith Dateless (snapshotAt (σ := σ) ext network nodeId channelId observedAt role) := by
  apply (dateless_stored _).bind
  intro snapshot
  apply dateless_okOr
  exact dateless_new (by decide)

theorem dateless_simulationInput {σ : Type} [SimulationStorage σ] (command : CreateSimulationCommand)
    (amountMsat : Nat) :
    FailsWith Dateless (simulationInput (σ := σ) ext command amountMsat) := by
  simp only [simulationInput]
  apply (dateless_stored _).bind
  intro found
  apply (dateless_okOr _ (dateless_new (by decide))).bind
  intro recommendation
  apply (dateless_stored _).bind
  intro held
  apply (dateless_okOr _ (dateless_contextOrUnsupported (dateless_new (by decide)))).bind
  intro finding
  apply FailsWith.bind
  · apply FailsWith.ofExcept
    intro e failed
    split at failed
    · cases failed
    · cases failed
      exact dateless_contextOrUnsupported (dateless_new (by decide))
  intro _
  apply (FailsWith.ofExcept fun _ => dateless_simulationContext).bind
  intro context
  apply ((dateless_snapshotAt _ _ _ _ _).adapt fun _ => dateless_contextOrUnsupported).bind
  intro sourceSnapshot
  apply ((dateless_snapshotAt _ _ _ _ _).adapt fun _ => dateless_contextOrUnsupported).bind
  intro destinationSnapshot s e s' failed
  cases failed

theorem dateless_parseStatus {text : String} {e : PlainError} (failed : parseStatus ext text = .error e) :
    Dateless e := by
  simp only [parseStatus] at failed
  split at failed <;> cases failed
  exact dateless_new (by decide)

theorem dateless_parseTime {label text : String} {e : PlainError} (failed : parseTime ext label text = .error e) :
    Dateless e := by
  obtain ⟨inner, -, rfl⟩ := mapError_error.mp failed
  exact dateless_new (by decide)

theorem dateless_simulationView {record : SimulationRecord} {now : DateTime} {e : PlainError}
    (failed : simulationView ext record now = .error e) : Dateless e := by
  simp only [simulationView] at failed
  rcases except_bind_error.mp failed with failed | ⟨input, -, failed⟩
  · obtain ⟨inner, -, rfl⟩ := mapError_error.mp failed
    exact dateless_new (by decide)
  rcases except_bind_error.mp failed with failed | ⟨result, -, failed⟩
  · simp only [decodeProjection] at failed
    split at failed
    · cases failed
    · obtain ⟨inner, -, rfl⟩ := mapError_error.mp failed
      exact dateless_new (by decide)
  rcases except_bind_error.mp failed with failed | ⟨status, -, failed⟩
  · exact dateless_parseStatus failed
  rcases except_bind_error.mp failed with failed | ⟨requestedAt, -, failed⟩
  · exact dateless_parseTime failed
  rcases except_bind_error.mp failed with failed | ⟨completedAt, -, failed⟩
  · simp only [parseCompletion] at failed
    split at failed
    next timestamp _ =>
      cases read : parseTime ext "completed_at" timestamp with
      | error e' => rw [read] at failed; cases failed; exact dateless_parseTime read
      | ok t => rw [read] at failed; cases failed
    next => cases failed
  · cases failed

theorem dateless_persistOutcome {σ : Type} [SimulationStorage σ] (draws : SimulationDraws) (record : SimulationRecord)
    (errorCode : Option String) : FailsWith Dateless (persistOutcome (σ := σ) ext draws record errorCode) := by
  simp only [persistOutcome]
  apply (dateless_stored _).bind
  intro _
  apply (FailsWith.ofExcept fun _ => dateless_parseStatus).bind
  intro status
  apply (dateless_stored _).bind
  intro _
  exact dateless_stored _

theorem dateless_amountMsat {V : Type} {command : CreateSimulationCommand} {e : SimulationAppError V}
    (refused : command.amountMsat = .error e) : Dateless e := by
  obtain ⟨kind, message, rfl, known⟩ := amountMsat_error refused
  apply dateless_new
  rcases known with rfl | rfl <;> decide

end Errors

section Views

variable {ext : SimulationExternal} {record : SimulationRecord} {now : DateTime} {view : SimulationView}

theorem simulationView_errorCode (viewed : simulationView ext record now = .ok view) :
    view.errorCode = record.errorCode := by
  simp only [simulationView] at viewed
  obtain ⟨input, -, viewed⟩ := except_bind_ok.mp viewed
  obtain ⟨result, -, viewed⟩ := except_bind_ok.mp viewed
  obtain ⟨status, -, viewed⟩ := except_bind_ok.mp viewed
  obtain ⟨requestedAt, -, viewed⟩ := except_bind_ok.mp viewed
  obtain ⟨completedAt, -, viewed⟩ := except_bind_ok.mp viewed
  cases viewed
  rfl

theorem errorKindForView_futureDated : errorKindForView view = .futureDatedInput ↔
    view.errorCode = some "future_dated_input" := by
  simp only [errorKindForView]
  split
  next coded => simp [coded]
  next other =>
    apply iff_of_false _ other
    split <;> decide

end Views

section Refusals

variable {ext : SimulationExternal} {existing : SimulationRecord} {now : DateTime} {allowStale : Bool}
  {error : SimulationAppError SimulationView}

def replaceable (allowStale : Bool) (record : SimulationRecord) : Bool :=
  allowStale && decide (record.status = SimulationStatus.stale.asStr)

theorem answerOfExisting_replaced (again : answerOfExisting ext now allowStale existing = .ok none) :
    replaceable allowStale existing = true := by
  simp only [answerOfExisting] at again
  split at again
  · obtain ⟨view, -, again⟩ := except_bind_ok.mp again
    split at again <;> cases again
  split at again
  · obtain ⟨view, -, again⟩ := except_bind_ok.mp again
    cases again
  · rename_i kept
    simpa [replaceable] using kept

theorem answerOfExisting_futureDated (failed : answerOfExisting ext now allowStale existing = .error error)
    (future : error.kind = .futureDatedInput) :
    existing.projection.isNull = true ∧ replaceable allowStale existing = false ∧
      existing.errorCode = some "future_dated_input" ∧
      ∃ view, error.simulation = some view ∧ simulationView ext existing now = .ok view := by
  have unseen {e : PlainError} (missing : simulationView ext existing now = .error e) :
      (e.widen : SimulationAppError SimulationView).kind ≠ .futureDatedInput := dateless_simulationView missing
  simp only [answerOfExisting] at failed
  split at failed
  · rcases except_bind_error.mp failed with failed | ⟨view, -, failed⟩
    · obtain ⟨inner, missing, rfl⟩ := mapError_error.mp failed
      exact absurd future (unseen missing)
    · split at failed <;> cases failed
      cases future
  rename_i unprojected
  split at failed
  · rename_i kept
    rcases except_bind_error.mp failed with failed | ⟨view, viewed, failed⟩
    · obtain ⟨inner, missing, rfl⟩ := mapError_error.mp failed
      exact absurd future (unseen missing)
    · cases failed
      cases shown : simulationView ext existing now with
      | error e => rw [shown] at viewed; cases viewed
      | ok other =>
        rw [shown] at viewed
        cases viewed
        have coded := errorKindForView_futureDated.mp future
        rw [simulationView_errorCode shown] at coded
        exact ⟨by simpa using unprojected, by simpa only [replaceable, Bool.not_eq_true'] using kept, coded,
          _, rfl, rfl⟩
  · cases failed

theorem settle_futureDated {input : SimulationInput} {requestedAt : DateTime}
    {outcome : Except ModelError SimulationResult}
    (future : (settle input requestedAt allowStale outcome).kind = some .futureDatedInput) :
    ∃ message, settle input requestedAt allowStale outcome =
      ⟨.invalidInput, none, some "future_dated_input", some message, some .futureDatedInput⟩ := by
  cases outcome with
  | ok result => cases future
  | error e =>
    cases e with
    | unsupported modelId => cases future
    | calculationFailed message => cases future
    | serialization message => cases future
    | invalidInput message =>
      simp only [settle] at future ⊢
      split at future
      · cases future
      rename_i fresh
      split at future
      · rename_i early
        rw [if_neg fresh, if_pos early]
        exact ⟨message, rfl⟩
      · cases future

variable {draws : SimulationDraws} {recommendation : Recommendation} {input : SimulationInput} {hash : String}
  {s m : MemoryStorage}

structure FutureDated (ext : SimulationExternal) (draws : SimulationDraws) (input : SimulationInput) (hash : String)
    (record : SimulationRecord) : Prop where
  inputHash : record.inputHash = hash
  canonicalInput : record.canonicalInput = ext.codec.input input
  createdAt : record.createdAt = ext.rfc3339 draws.requestedAt
  unprojected : record.projection.isNull = true
  status : record.status = SimulationStatus.invalidInput.asStr
  errorCode : record.errorCode = some "future_dated_input"

theorem evaluateAndPersist_futureDated (fresh : ∀ existing ∈ s.simulationRecords, existing.id ≠ draws.id)
    (ran : evaluateAndPersist ext draws recommendation input hash allowStale s = .error (.failed error) m)
    (future : error.kind = .futureDatedInput) :
    ∃ record view, FutureDated ext draws input hash record ∧ m = recorded draws record s ∧
      error.simulation = some view ∧ simulationView ext record draws.completedAt = .ok view := by
  simp only [evaluateAndPersist] at ran
  generalize settled : settle input draws.requestedAt allowStale
    (evaluate ext recommendation input draws.requestedAt allowStale) = settlement at ran
  rcases bind_error.mp ran with stopped | ⟨record, begun, built, rest⟩
  · cases okOr_error (ofExcept_error.mp stopped).1
  obtain ⟨built, rfl⟩ := ofExcept_ok.mp built
  rcases bind_error.mp rest with stopped | ⟨_, persisted, saved, showing⟩
  · obtain ⟨inner, failed, widened⟩ := adapt_error.mp stopped
    cases widened
    exact absurd future (dateless_persistOutcome draws record _ _ _ _ failed)
  rcases bind_error.mp showing with stopped | ⟨view, shown, viewed, ending⟩
  · obtain ⟨inner, failed, widened⟩ := adapt_error.mp stopped
    cases widened
    exact absurd future (dateless_simulationView (ofExcept_error.mp failed).1)
  obtain ⟨showable, rfl⟩ := ofExcept_ok.mp (adapt_ok.mp viewed)
  obtain ⟨concluded, rfl⟩ := ofExcept_error.mp ending
  have kinds : settlement.kind = some .futureDatedInput ∧ error.simulation = some view := by
    simp only [conclude] at concluded
    split at concluded
    next kind message kept _ =>
      cases concluded
      exact ⟨kept.trans (congrArg some future), rfl⟩
    next => cases concluded
  obtain ⟨message, shape⟩ := settle_futureDated (settled ▸ kinds.1)
  rw [settled] at shape
  subst shape
  have made : record = { record with
      id := draws.id, inputHash := hash, canonicalInput := ext.codec.input input
      createdAt := ext.rfc3339 draws.requestedAt, projection := .null
      status := SimulationStatus.invalidInput.asStr, errorCode := some "future_dated_input" } := by
    cases built
    rfl
  have facts : FutureDated ext draws input hash record := by
    rw [made]
    exact ⟨rfl, rfl, rfl, rfl, rfl, rfl⟩
  have named : record.id = draws.id := by rw [made]
  have ends := @persistOutcome_ends ext draws record _ fun existing member =>
    (fresh existing member).trans_eq named.symm
  rw [facts.errorCode] at ends
  exact ⟨record, view, facts, (ends.ok (adapt_ok.mp saved)).2, kinds.2, showable⟩

end Refusals

/-- The newest record of the command's input is a refusal as future-dated that the command does not replace. -/
structure Refused (ext : SimulationExternal) (command : CreateSimulationCommand) (record : SimulationRecord)
    (s : MemoryStorage) : Prop where
  idle : s.transactionSnapshot = none
  asked : ∃ recommendation input, Asks ext command s.opened recommendation input ∧
    s.newestSimulation (inputHash ext input) = some record
  unprojected : record.projection.isNull = true
  kept : replaceable command.allowStale record = false
  errorCode : record.errorCode = some "future_dated_input"

/-- No simulation that the command replaces is dated after the instant. -/
def NoneReplaceableAfter (ext : SimulationExternal) (command : CreateSimulationCommand) (t : DateTime)
    (s : MemoryStorage) : Prop :=
  ∀ existing ∈ s.simulationRecords, replaceable command.allowStale existing = true → existing.createdAt ≤ ext.rfc3339 t

section Runs

variable {ext : SimulationExternal} {call : SimulationCall} {s next : MemoryStorage} {record : SimulationRecord}
  {view : SimulationView} {error : SimulationAppError SimulationView}

theorem newestSimulation_recorded {input : SimulationInput} {draws : SimulationDraws} (lawful : ext.Lawful)
    (dated : FutureDated ext draws input (inputHash ext input) record)
    (older : ∀ held, s.newestSimulation (inputHash ext input) = some held →
      held.createdAt ≤ ext.rfc3339 draws.requestedAt) :
    (recorded draws record s).newestSimulation (inputHash ext input) = some record := by
  have visible : inputHash ext input ≠ "" ∧ record.inputHash = inputHash ext input ∧ !record.canonicalInput.isNull :=
    ⟨lawful.digest _, dated.inputHash, by rw [dated.canonicalInput, lawful.input]; rfl⟩
  show latestCreated (List.filter _ (s.simulationRecords ++ [record])) = _
  rw [List.filter_append, List.filter_singleton, decide_eq_true visible, cond_true]
  simp only [newestSimulation, latestCreated] at older ⊢
  rw [List.foldl_append]
  cases held : List.foldl _ none _ with
  | none => rfl
  | some best => exact if_pos (dated.createdAt.symm ▸ older best held)

theorem createInTransaction_futureDated (lawful : ext.Lawful)
    (fresh : ∀ existing ∈ s.simulationRecords, existing.id ≠ call.draws.id)
    (forward : NoneReplaceableAfter ext call.command call.draws.requestedAt s) {amountMsat : Nat} {m : MemoryStorage}
    (valid : call.command.amountMsat (V := SimulationView) = .ok amountMsat)
    (ran : createInTransaction ext call.draws call.command amountMsat s.opened = .error (.failed error) m)
    (future : error.kind = .futureDatedInput) :
    ∃ record view now, Refused ext call.command record { m with transactionSnapshot := none } ∧
      error.simulation = some view ∧ simulationView ext record now = .ok view := by
  simp only [createInTransaction] at ran
  rcases bind_error.mp ran with stopped | ⟨⟨recommendation, input⟩, begun, asked, rest⟩
  · obtain ⟨inner, failed, widened⟩ := adapt_error.mp stopped
    cases widened
    exact absurd future (dateless_simulationInput _ _ _ _ _ failed)
  obtain ⟨rfl, -⟩ := (simulationInput_reads ext call.command amountMsat).ok (adapt_ok.mp asked)
  have asks : Asks ext call.command s.opened recommendation input := ⟨amountMsat, valid, adapt_ok.mp asked⟩
  rcases bind_error.mp rest with stopped | ⟨existing, found, looked, ending⟩
  · cases stopped
  cases looked
  have newest : latestCreated (s.opened.simulationRecords.filter _) = s.newestSimulation (inputHash ext input) := rfl
  rcases bind_error.mp ending with stopped | ⟨answer, answering, answered, persisting⟩
  · obtain ⟨refused, rfl⟩ := ofExcept_error.mp stopped
    obtain ⟨inner, refused, wrapped⟩ := mapError_error.mp refused
    cases wrapped
    rw [newest] at refused
    cases held : s.newestSimulation (inputHash ext input) with
    | none => rw [held] at refused; cases refused
    | some existing =>
      rw [held] at refused
      obtain ⟨unprojected, kept, coded, view, shows, viewed⟩ := answerOfExisting_futureDated refused future
      exact ⟨existing, view, _, ⟨rfl, ⟨recommendation, input, asks.elsewhere rfl, held⟩, unprojected, kept, coded⟩,
        shows, viewed⟩
  obtain ⟨silent, rfl⟩ := ofExcept_ok.mp answered
  cases answer with
  | some view => cases persisting
  | none =>
    obtain ⟨record, view, dated, rfl, shows, viewed⟩ :=
      evaluateAndPersist_futureDated (s := s.opened) fresh persisting future
    have held := newestSimulation_recorded (s := s) lawful dated fun existing held => by
      rw [newest, held] at silent
      dsimp only at silent
      have member : existing ∈ s.simulationRecords := (List.mem_filter.mp (mem_of_latestCreated held)).1
      apply forward existing member
      cases again : answerOfExisting ext call.draws.lookedUpAt call.command.allowStale existing with
      | error e => rw [again] at silent; cases silent
      | ok answer =>
        rw [again] at silent
        cases silent
        exact answerOfExisting_replaced again
    have apart : SimulationStatus.invalidInput.asStr ≠ SimulationStatus.stale.asStr := by decide
    have kept : replaceable call.command.allowStale record = false := by
      rw [replaceable, dated.status, decide_eq_false apart, Bool.and_false]
    exact ⟨record, view, _, ⟨rfl, ⟨recommendation, input, asks.elsewhere rfl, held⟩, dated.unprojected, kept,
      dated.errorCode⟩, shows, viewed⟩

theorem run_futureDated (lawful : ext.Lawful) (fresh : ∀ existing ∈ s.simulationRecords, existing.id ≠ call.draws.id)
    (forward : NoneReplaceableAfter ext call.command call.draws.requestedAt s)
    (ran : call.run ext s = .error (.failed error) next) (future : error.kind = .futureDatedInput) :
    ∃ record view now, Refused ext call.command record next ∧
      error.simulation = some view ∧ simulationView ext record now = .ok view := by
  simp only [SimulationCall.run] at ran
  cases valid : call.command.amountMsat (V := SimulationView) with
  | error e =>
    rw [create_invalid valid] at ran
    cases ran
    exact absurd future (dateless_amountMsat valid)
  | ok amountMsat =>
    cases begun : s.transactionSnapshot with
    | some saved =>
      rw [create_nested begun valid] at ran
      cases ran
      cases future
    | none =>
      rw [create_idle begun valid
        (createInTransaction_keeps s.snapshot call.draws call.command amountMsat s.opened rfl)]
        at ran
      cases ended : createInTransaction ext call.draws call.command amountMsat s.opened with
      | ok pair m =>
        rw [ended] at ran
        obtain ⟨answer, wrote⟩ := pair
        cases wrote <;> cases ran
      | error stopped m =>
        rw [ended] at ran
        cases stopped with
        | panicked => cases ran
        | failed e =>
          have same : e = error := by cases ran; rfl
          subst same
          obtain ⟨record, view, now, refused, shows, viewed⟩ :=
            createInTransaction_futureDated lawful fresh forward valid ended future
          simp only [closed, shows] at ran
          cases ran
          exact ⟨record, view, now, refused, shows, viewed⟩

theorem Refused.again (refused : Refused ext call.command record s)
    (viewed : simulationView ext record call.draws.lookedUpAt = .ok view) :
    call.run ext s = .error (.failed (.withSimulation .futureDatedInput
      s!"identical simulation request {record.id} already ended with status {view.status.asStr}" view)) s := by
  obtain ⟨idle, ⟨recommendation, input, ⟨amountMsat, valid, ran⟩, newest⟩, unprojected, kept, coded⟩ := refused
  have kind : errorKindForView view = .futureDatedInput :=
    errorKindForView_futureDated.mpr ((simulationView_errorCode viewed).trans coded)
  have answer : answerOfExisting ext call.draws.lookedUpAt call.command.allowStale record =
      .error (.withSimulation .futureDatedInput
        s!"identical simulation request {record.id} already ended with status {view.status.asStr}" view) := by
    simp only [replaceable] at kept
    simp only [answerOfExisting, unprojected, kept, viewed, ← kind]
    rfl
  have inside : createInTransaction ext call.draws call.command amountMsat s.opened =
      .error (.failed (.withSimulation .futureDatedInput
        s!"identical simulation request {record.id} already ended with status {view.status.asStr}" view)) s.opened := by
    simp only [createInTransaction]
    rw [bind_of_ok (show plainly _ _ = _ from adapt_of_ok ran)]
    dsimp only
    rw [bind_of_ok (show plainly (stored (SimulationStorage.simulationV2ByInputHash (inputHash ext input))) s.opened =
      .ok (s.newestSimulation (inputHash ext input)) s.opened from rfl), newest]
    dsimp only
    rw [answer]
    rfl
  simp only [SimulationCall.run]
  rw [create_idle idle valid (createInTransaction_keeps s.snapshot call.draws call.command amountMsat s.opened rfl),
    inside]
  show EStateM.Result.error _ { s.opened with transactionSnapshot := none } = _
  rw [opened_commit idle]

end Runs

end SimulationService

open SimulationService

/-- A command that was refused because its observation lies in the future is refused as such at every other
    instant, for the sake of the recorded refusal, and the store stays as it is. -/
theorem future_dated_refusal_stands {ext : SimulationExternal} (lawful : ext.Lawful) {call again : SimulationCall}
    {s next : MemoryStorage} {error : SimulationAppError SimulationView}
    (fresh : ∀ existing ∈ s.simulationRecords, existing.id ≠ call.draws.id)
    (forward : NoneReplaceableAfter ext call.command call.draws.requestedAt s)
    (ran : call.run ext s = .error (.failed error) next) (future : error.kind = .futureDatedInput)
    (same : again.command = call.command) :
    ∃ view reply, error.simulation = some view ∧ reply.id = view.id ∧
      reply.errorCode = some "future_dated_input" ∧
      again.run ext next = .error (.failed (.withSimulation .futureDatedInput
        s!"identical simulation request {view.id} already ended with status {reply.status.asStr}" reply)) next := by
  obtain ⟨record, view, now, refused, shows, viewed⟩ := run_futureDated lawful fresh forward ran future
  obtain ⟨status, stale, viewed'⟩ := simulationView_elsewhen viewed again.draws.lookedUpAt
  have named := simulationView_id viewed
  have named' := simulationView_id viewed'
  rw [← same] at refused
  have repeated := refused.again viewed'
  rw [← named] at repeated
  exact ⟨view, _, shows, named'.trans named.symm, (simulationView_errorCode viewed').trans refused.errorCode,
    repeated⟩

namespace Rebalance

def observed : DateTime := 1767225600000000000

def early : DateTime := 1767225540000000000

def late : DateTime := 1767225660000000000

def snapshot (channel : String) (local_ remote : Nat) : ChannelSnapshot := {
  nodeId := some "node", network := some .mainnet, stateDigest := some "digest", channelId := channel
  localRatio := (Binary64.ofNat local_).div (.ofNat 1000000)
  localBalanceMsat := local_, remoteBalanceMsat := remote, capacityMsat := 1000000, status := .active
  ts := observed, spendableOutboundMsat := local_, spendableInboundMsat := remote }

def provenance (drained : String) : FindingProvenance := {
  network := some .mainnet, source := .lnd "node" "node", producers := []
  observation := .channelState drained ⟨some .mainnet, observed, "digest"⟩ }

def input (full drained : String) : SimulationInput := {
  recommendationId := "action", recommendationTarget := drained, findingId := "finding"
  findingChannel := drained, findingDirection := some .outbound, nodeId := "node", network := some .mainnet
  provenance := provenance drained, actionType := .rebalanceChannel
  modelId := LiquidityRedistributionModel.modelId, modelVersion := LiquidityRedistributionModel.modelVersion
  parameters := ⟨full, drained, 400000⟩
  sourceSnapshot := snapshot full 900000 100000, destinationSnapshot := snapshot drained 50000 950000 }

def texts : List (DateTime × String) :=
  [(early, "2025-12-31T23:59:00+00:00"), (observed, "2026-01-01T00:00:00+00:00"), (late, "2026-01-01T00:01:00+00:00")]

def external : External where
  sha256 _ := "digest"
  jsonText _ := "\x7b\x7d"
  rfc3339 t := ((texts.find? (·.1 = t)).map (·.2)).getD ""
  jsonInstant _ := "2026-01-01T00:00:00Z"

def encoding (full drained : String) : SimulationCodec where
  input input := .object [("model_id", .string input.modelId)]
  result result := .object [("model_id", .string result.modelId)]
  assumptions _ := .array []
  warnings _ := .array []
  decodeInput _ := .ok (input full drained)
  decodeResult _ := .error "not decoded"

def service (full drained : String) : SimulationExternal := {
  external with
  codec := { encoding full drained with
    decodeResult := fun _ =>
      (LiquidityRedistributionModel.simulate external (encoding full drained) (input full drained)).mapError
      (·.toString) }
  displayInstant := fun _ => "2026-01-01 00:00:00 UTC"
  debugText := fun text => "\"" ++ text ++ "\""
  parseRfc3339 := fun text => match texts.find? (·.2 = text) with
    | some (t, _) => .ok t
    | none => .error "premature end of input" }

def finding (drained : String) : Finding := { Finding.bare "finding" "channel_liquidity" observed with
  node := some "node", channel := some drained, evidence := [.string "direction" "outbound"]
  provenance := some (provenance drained) }

def recommendation (drained : String) : Recommendation := {
  findingId := "finding", lifecycle := none
  action := { id := "action", actionType := .rebalanceChannel, stage := .recommended, target := some drained
              params := .null, summary := "", createdAt := 0, updatedAt := 0 }
  rationale := ⟨[], [], "", [], [], .operatorActionable⟩ }

def store (full drained : String) : MemoryStorage :=
  { findings := [finding drained], recommendations := [recommendation drained]
    channelSnapshots := [(input full drained).sourceSnapshot, (input full drained).destinationSnapshot] }

def call (full drained : String) (t : DateTime) (id : String) : SimulationCall :=
  ⟨⟨"action", simulationModelId, full, drained, 400, false⟩, t, t, t, id, id ++ "-requested", id ++ "-completed",
    Int.le_refl _, Int.le_refl _⟩

theorem service_lawful (full drained : String) : (service full drained).Lawful where
  digest _ := (by decide : "digest" ≠ "")
  input _ := rfl
  result _ := rfl
  chronological earlier later forward t t' read read' := by
    have dated (t : DateTime) {t' : DateTime}
        (read : (service full drained).parseRfc3339 (external.rfc3339 t) = .ok t') : t = early ∨ t = observed ∨
          t = late := by
      by_contra other
      rw [not_or, not_or] at other
      have missing : external.rfc3339 t = "" := by
        simp [external, texts, Ne.symm other.1, Ne.symm other.2.1, Ne.symm other.2.2]
      rw [missing] at read
      cases read
    have first := dated earlier read
    have second := dated later read'
    show external.rfc3339 earlier ≤ external.rfc3339 later
    clear read read'
    rcases first with rfl | rfl | rfl <;> rcases second with rfl | rfl | rfl
    all_goals first | exact absurd forward (by decide) | decide

end Rebalance

/-- A rebalance asked for a minute before its observation and again a minute after it. -/
theorem future_dated_refusal_stands_rebalance :
    let service := Rebalance.service "full" "drained"
    let first := Rebalance.call "full" "drained" Rebalance.early "first"
    let again := Rebalance.call "full" "drained" Rebalance.late "again"
    ∃ error next view, first.run service (Rebalance.store "full" "drained") = .error (.failed error) next ∧
      again.run service next = .error (.failed (.withSimulation .futureDatedInput
        "identical simulation request first already ended with status invalid_input" view)) next := by
  intro service first again
  have early : fails (fun stopped next => stopped.failure.any fun error =>
      decide (error.kind = .futureDatedInput) && decide (error.simulation.map (·.id) = some "first") &&
        fails (fun refusal _ => decide ((refusal.failure.bind (·.simulation)).map (·.status) = some .invalidInput))
          (again.run service) next)
      (first.run service) (Rebalance.store "full" "drained") = true := by decide +kernel
  obtain ⟨stopped, next, ran, refused⟩ := exists_of_fails early
  cases stopped with
  | panicked => cases refused
  | failed error =>
    simp only [Stopped.failure, Option.any_some, Bool.and_eq_true, decide_eq_true_eq] at refused
    obtain ⟨⟨future, named⟩, ended⟩ := refused
    obtain ⟨view, reply, shows, same, coded, repeated⟩ := @future_dated_refusal_stands _
      (Rebalance.service_lawful "full" "drained") first again _ _ _
      (by simp [Rebalance.store]) (by simp [NoneReplaceableAfter, Rebalance.store]) ran future rfl
    obtain ⟨refusal, left, answered, invalid⟩ := exists_of_fails ended
    obtain ⟨rfl, -⟩ := EStateM.Result.error.inj (answered.symm.trans repeated)
    have status : reply.status = .invalidInput := by
      simpa [Stopped.failure, SimulationAppError.withSimulation] using invalid
    have id : view.id = "first" := by simpa [shows] using named
    rw [id, status] at repeated
    exact ⟨error, next, reply, ran, repeated⟩

/-- The observation is neither in the future nor stale at the second call, which would succeed without the first. -/
theorem future_dated_refusal_outlasts :
    let service := Rebalance.service "full" "drained"
    let store := Rebalance.store "full" "drained"
    let input := Rebalance.input "full" "drained"
    let first := Rebalance.call "full" "drained" Rebalance.early "first"
    let again := Rebalance.call "full" "drained" Rebalance.late "again"
    Asks service again.command store.opened (Rebalance.recommendation "drained") input ∧
      input.isFutureAt again.draws.requestedAt = false ∧
      input.isStaleAt again.draws.requestedAt defaultFreshness = false ∧
      ∃ error next refusal left answer after, first.run service store = .error (.failed error) next ∧
        error.kind = .futureDatedInput ∧ again.run service next = .error (.failed refusal) left ∧
        refusal.kind = .futureDatedInput ∧ again.run service store = .ok ⟨answer, false⟩ after := by
  intro service store input first again
  have valid : (again.command.amountMsat (V := SimulationView)).toOption = some 400000 := by decide
  have asks : Asks service again.command store.opened (Rebalance.recommendation "drained") input := by
    refine ⟨400000, ?_, rfl⟩
    cases amount : again.command.amountMsat (V := SimulationView) with
    | error e => rw [amount] at valid; cases valid
    | ok amountMsat => rw [amount] at valid; rw [Option.some.inj valid]
  refine ⟨asks, by decide, by decide, ?_⟩
  have early : fails (fun stopped next => stopped.failure.any fun error => decide (error.kind = .futureDatedInput) &&
      fails (fun refusal _ => refusal.failure.any fun error => decide (error.kind = .futureDatedInput))
        (again.run service) next)
      (first.run service) store = true := by decide
  have accepted : returns (fun outcome _ => !outcome.reused) (again.run service) store = true := by decide +kernel
  obtain ⟨stopped, next, ran, refused⟩ := exists_of_fails early
  obtain ⟨⟨answer, reused⟩, after, alone, made⟩ := exists_of_returns accepted
  obtain rfl : reused = false := by simpa using made
  cases stopped with
  | panicked => cases refused
  | failed error =>
    simp only [Stopped.failure, Option.any_some, Bool.and_eq_true, decide_eq_true_eq] at refused
    obtain ⟨future, later⟩ := refused
    obtain ⟨ended, left, repeated, refused⟩ := exists_of_fails later
    cases ended with
    | panicked => cases refused
    | failed refusal =>
      have again_future := of_decide_eq_true refused
      exact ⟨error, next, refusal, left, answer, after, ran, future, repeated, again_future, alone⟩

end Rieko
