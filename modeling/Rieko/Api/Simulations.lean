import Mathlib.Logic.Equiv.Nat
import Rieko.Domain.Rfc3339
import Rieko.Simulation.Replay

namespace Rieko

open StatefulResult SimulationService

def simulationValue (ext : SimulationExternal) (record : SimulationRecord) (now : DateTime) : SimulationRecord :=
  if record.status = "completed" && record.sourceObservedAt.any fun timestamp =>
      match ext.parseRfc3339 timestamp with
      | .ok observedAt => 15 * 60 * nanosPerSecond < now - observedAt
      | .error _ => false then
    { record with status := "stale" }
  else record

structure SimulationExternal.ReadsRfc3339 (ext : SimulationExternal) : Prop where
  reads : ∀ t : DateTime, t.FourDigitYear → ext.parseRfc3339 (ext.rfc3339 t) = .ok t
  refuses : ∀ t t' : DateTime, ext.parseRfc3339 (ext.rfc3339 t) = .ok t' → t.FourDigitYear

/-- A record that a call builds, the view of which it could compute. The system clock does not run before the
    epoch. -/
structure Creates (ext : SimulationExternal) (call : SimulationCall) (record : SimulationRecord) : Prop where
  built : ∃ recommendation input, call.builds ext recommendation input = some record
  viewed : ∃ view, simulationView ext record call.draws.completedAt = .ok view
  sinceEpoch : 0 ≤ call.draws.requestedAt

/-- The application view can be computed and has the status that the API reports. -/
def SurfacesAgree (ext : SimulationExternal) (record : SimulationRecord) (now : DateTime) : Prop :=
  ∃ view, simulationView ext record now = .ok view ∧ (simulationValue ext record now).status = view.status.asStr

section Views

variable {ext : SimulationExternal} {record : SimulationRecord} {now later : DateTime} {view : SimulationView}

def effectiveStatus (persisted : SimulationStatus) (input : SimulationInput) (now : DateTime) : SimulationStatus :=
  if persisted = .completed && input.isStaleAt now defaultFreshness then .stale else persisted

theorem simulationView_ok (viewed : simulationView ext record now = .ok view) :
    ∃ input persisted requestedAt, ext.codec.decodeInput record.canonicalInput = .ok input ∧
      parseStatus ext record.status = .ok persisted ∧ ext.parseRfc3339 record.requestedAt = .ok requestedAt ∧
      ∀ later, ∃ view', simulationView ext record later = .ok view' ∧
        view'.status = effectiveStatus persisted input later := by
  unfold simulationView at viewed
  obtain ⟨input, decoded, viewed⟩ := except_bind_ok.mp viewed
  obtain ⟨result, projected, viewed⟩ := except_bind_ok.mp viewed
  obtain ⟨persisted, parsed, viewed⟩ := except_bind_ok.mp viewed
  obtain ⟨requestedAt, requested, viewed⟩ := except_bind_ok.mp viewed
  obtain ⟨completedAt, completed, -⟩ := except_bind_ok.mp viewed
  refine ⟨input, persisted, requestedAt, except_mapError_ok.mp decoded, parsed, except_mapError_ok.mp requested,
    fun later => ?_⟩
  unfold simulationView
  rw [decoded, projected, parsed, requested, completed]
  exact ⟨_, rfl, rfl⟩

end Views

section Settlements

variable {input : SimulationInput} {requestedAt : DateTime} {allowStale : Bool}
  {outcome : Except ModelError SimulationResult}

theorem settle_completed (completed : (settle input requestedAt allowStale outcome).status = .completed) :
    ∃ result, outcome = .ok result ∧ input.isStaleAt requestedAt defaultFreshness = false := by
  rcases settle_ending input requestedAt allowStale outcome with ⟨projected, -⟩ | ⟨-, other⟩
  · obtain ⟨result, found⟩ := Option.ne_none_iff_exists'.mp projected
    have evaluated := settle_projection found
    refine ⟨result, evaluated, ?_⟩
    rw [evaluated] at completed
    cases stale : input.isStaleAt requestedAt defaultFreshness with
    | false => rfl
    | true => simp [settle, stale] at completed
  · exact absurd completed other

theorem observed_fourDigitYear (requested : requestedAt.FourDigitYear) (sinceEpoch : 0 ≤ requestedAt)
    (fresh : input.isStaleAt requestedAt defaultFreshness = false) (notFuture : input.isFutureAt requestedAt = false) :
    input.observedAt.FourDigitYear := by
  obtain ⟨-, last⟩ := (DateTime.fourDigitYear_iff requestedAt).mp requested
  have young : requestedAt - input.observedAt ≤ defaultFreshness :=
    Int.not_lt.mp (of_decide_eq_false fresh)
  have before : input.observedAt ≤ requestedAt := Int.not_lt.mp (of_decide_eq_false notFuture)
  have limit : DateTime.firstFourDigit + defaultFreshness ≤ 0 := by decide
  apply (DateTime.fourDigitYear_iff _).mpr
  generalize input.observedAt = observed at young before
  generalize DateTime.firstFourDigit = first at limit
  generalize defaultFreshness = freshness at young limit
  constructor
  · have low : first + freshness ≤ requestedAt := Int.le_trans limit sinceEpoch
    have high : requestedAt ≤ freshness + observed := Int.le_add_of_sub_right_le young
    have both : first + freshness ≤ observed + freshness := by
      rw [Int.add_comm observed]
      exact Int.le_trans low high
    exact Int.le_of_add_le_add_right both
  · exact Int.le_trans before last

end Settlements

section Agreement

variable {ext : SimulationExternal} {readInstant : String → Option DateTime} {call : SimulationCall}
  {record : SimulationRecord}

theorem simulationValue_completed {observedAt now : DateTime} (completed : record.status = "completed")
    (observed : record.sourceObservedAt = some (ext.rfc3339 observedAt))
    (read : ext.parseRfc3339 (ext.rfc3339 observedAt) = .ok observedAt) :
    (simulationValue ext record now).status =
      if defaultFreshness < now - observedAt then "stale" else "completed" := by
  unfold simulationValue
  rw [completed, observed]
  simp only [decide_true, Bool.true_and, Option.any_some, read]
  change (if decide (defaultFreshness < now - observedAt) = true then _ else record).status = _
  by_cases stale : defaultFreshness < now - observedAt
  · rw [if_pos (decide_eq_true stale), if_pos stale]
  · rw [if_neg (by simp [stale]), if_neg stale, completed]

theorem simulationValue_other {now : DateTime} (other : record.status ≠ "completed") :
    (simulationValue ext record now).status = record.status := by
  unfold simulationValue
  simp [other]

theorem Creates.agree (creates : Creates ext call record)
    (derived : ext.codec.Derived ⟨ext.jsonInstant, readInstant⟩)
    (reads : InstantText.ReadsBack ⟨ext.jsonInstant, readInstant⟩) (calendar : ext.ReadsRfc3339) (now : DateTime) :
    SurfacesAgree ext record now := by
  obtain ⟨recommendation, input, built⟩ := creates.built
  obtain ⟨view, viewed⟩ := creates.viewed
  obtain ⟨decodedInput, persisted, requestedAt, decoded, parsed, requested, views⟩ := simulationView_ok viewed
  obtain ⟨shown, shows, status⟩ := views now
  refine ⟨shown, shows, ?_⟩
  rw [status]
  have named : record.status = persisted.asStr := (parseStatus_asStr parsed).symm
  have records := simulationRecord_records built
  by_cases completed : record.status = "completed"
  · have settled := records.status.symm.trans completed
    have ended : (settle input call.draws.requestedAt call.command.allowStale
        (evaluate ext recommendation input call.draws.requestedAt call.command.allowStale)).status = .completed := by
      cases status : (settle input call.draws.requestedAt call.command.allowStale
        (evaluate ext recommendation input call.draws.requestedAt call.command.allowStale)).status <;>
        rw [status] at settled <;> first | rfl | exact absurd settled (by decide)
    obtain ⟨result, evaluated, fresh⟩ := settle_completed ended
    obtain ⟨-, notFuture, -, simulated⟩ := evaluate_eq_ok.mp evaluated
    have labelled := LiquidityRedistributionModel.simulate_labelled simulated
    have same : decodedInput = input := by
      rw [records.canonicalInput, derived.input, derived.decodeInput _ _
        (SimulationInput.decode_encode reads input labelled.source labelled.destination)] at decoded
      exact (Except.ok.inj decoded).symm
    rw [records.requestedAt] at requested
    have year := observed_fourDigitYear (calendar.refuses _ _ requested) creates.sinceEpoch fresh notFuture
    have isCompleted : persisted = .completed := by
      cases persisted <;> first | rfl | exact absurd (named.symm.trans completed) (by decide)
    rw [simulationValue_completed completed records.sourceObservedAt (calendar.reads _ year), same, isCompleted]
    unfold effectiveStatus SimulationInput.isStaleAt
    by_cases stale : defaultFreshness < now - input.observedAt <;> simp [stale, SimulationStatus.asStr]
  · have notCompleted : persisted ≠ .completed := by
      rintro rfl
      exact completed named
    rw [simulationValue_other completed, named]
    simp [effectiveStatus, notCompleted]

end Agreement

namespace MemoryStorage

def Adds (good : SimulationRecord → Prop) (s m : MemoryStorage) : Prop :=
  ∀ record ∈ m.simulationRecords, record ∈ s.simulationRecords ∨ good record

def Commits (good : SimulationRecord → Prop) (s : MemoryStorage) :
    EStateM.Result (Stopped SimulationView) MemoryStorage (Answer × Bool) → Prop
  | .ok (_, wrote) m => wrote = true → Adds good s m
  | .error (.failed error) m => error.simulation.isSome = true → Adds good s m
  | .error .panicked m => m = s.opened

section Calls

variable {ext : SimulationExternal} {call : SimulationCall} {good : SimulationRecord → Prop} {s m : MemoryStorage}

theorem persistOutcome_adds {draws : SimulationDraws} {record : SimulationRecord} {errorCode : Option String}
    {u : Unit} (persisted : persistOutcome ext draws record errorCode s.opened = .ok u m) (fits : good record) :
    Adds good s m := by
  obtain ⟨_, saved, save, rest⟩ := bind_ok.mp persisted
  obtain ⟨status, checked, parsed, rest⟩ := bind_ok.mp rest
  obtain ⟨-, same⟩ := ofExcept_ok.mp parsed
  obtain ⟨_, requested, first, second⟩ := bind_ok.mp rest
  have before : saved.simulationRecords ⊆ record :: s.simulationRecords := by
    have ended : saveSimulationV2 record s.opened = .ok () saved := adapt_ok.mp save
    unfold saveSimulationV2 at ended
    split at ended <;> split at ended <;> cases ended
    · exact List.subset_cons_self _ _
    · intro other member
      rcases List.mem_append.mp member with stored | last
      · exact List.mem_cons_of_mem _ stored
      · rw [List.mem_singleton.mp last]
        exact List.mem_cons_self
  have unchanged : m.simulationRecords = saved.simulationRecords := by
    rw [appendSimulationEvent_ok (adapt_ok.mp second), appendSimulationEvent_ok (adapt_ok.mp first), same]
  intro other member
  rw [unchanged] at member
  rcases List.mem_cons.mp (before member) with rfl | stored
  · exact .inr fits
  · exact .inl stored

theorem evaluateAndPersist_commits (sinceEpoch : 0 ≤ call.draws.requestedAt) (recommendation : Recommendation)
    (input : SimulationInput) :
    Commits (Creates ext call) s (evaluateAndPersist ext call.draws recommendation input (inputHash ext input)
      call.command.allowStale s.opened) := by
  unfold evaluateAndPersist
  generalize settled : settle input call.draws.requestedAt call.command.allowStale
    (evaluate ext recommendation input call.draws.requestedAt call.command.allowStale) = settlement
  cases built : simulationRecord ext recommendation input call.draws (inputHash ext input) settlement with
  | none => exact rfl
  | some record =>
    rw [bind_of_ok (ofExcept_ok.mpr ⟨(rfl : okOr (some record) Stopped.panicked = .ok record), rfl⟩)]
    cases persisted : persistOutcome ext call.draws record settlement.errorCode s.opened with
    | error e m =>
      rw [bind_of_error (show plainly _ _ = _ from adapt_of_error persisted)]
      exact fun shows => by cases shows
    | ok u m =>
      rw [bind_of_ok (show plainly _ _ = _ from adapt_of_ok persisted)]
      cases viewed : simulationView ext record call.draws.completedAt with
      | error e => exact fun shows => by cases shows
      | ok view =>
        subst settled
        have creates : Creates ext call record := ⟨⟨recommendation, input, built⟩, ⟨view, viewed⟩, sinceEpoch⟩
        have adds : Adds (Creates ext call) s m := persistOutcome_adds persisted creates
        rw [bind_of_ok (show plainly (ofExcept (.ok view)) _ = .ok view _ from rfl)]
        unfold conclude
        split <;> exact fun _ => adds

theorem createInTransaction_commits (sinceEpoch : 0 ≤ call.draws.requestedAt) (amountMsat : Nat) :
    Commits (Creates ext call) s (createInTransaction ext call.draws call.command amountMsat s.opened) := by
  have same : Adds (Creates ext call) s s.opened := fun _ member => .inl member
  unfold createInTransaction
  have reads := simulationInput_reads ext call.command amountMsat
  cases found : simulationInput ext call.command amountMsat s.opened with
  | error e m =>
    rw [bind_of_error (show plainly _ _ = _ from adapt_of_error found)]
    exact fun shows => by cases shows
  | ok pair m =>
    obtain ⟨rfl, -⟩ := reads.ok found
    rw [bind_of_ok (show plainly _ _ = _ from adapt_of_ok found)]
    obtain ⟨recommendation, input⟩ := pair
    dsimp only
    have newest : plainly (SimulationService.stored (SimulationStorage.simulationV2ByInputHash (inputHash ext input)))
        s.opened = .ok (s.newestSimulation (inputHash ext input)) s.opened := rfl
    rw [bind_of_ok newest]
    generalize Except.mapError (Stopped.failed (V := SimulationView)) _ = answered
    cases answered with
    | error stopped =>
      have refused : (ofExcept (.error stopped) : EStateM _ MemoryStorage (Option SimulationView)) s.opened =
          .error stopped s.opened := rfl
      rw [bind_of_error refused]
      cases stopped with
      | failed error => exact fun _ => same
      | panicked => exact rfl
    | ok answer =>
      have given : (ofExcept (.ok answer) : EStateM (Stopped SimulationView) MemoryStorage _) s.opened =
          .ok answer s.opened := rfl
      rw [bind_of_ok given]
      cases answer with
      | none => exact evaluateAndPersist_commits sinceEpoch recommendation input
      | some view => exact fun wrote => by cases wrote

theorem run_adds (sinceEpoch : 0 ≤ call.draws.requestedAt) :
    ∀ record ∈ (final (call.run ext) s).heldSimulations, record ∈ s.heldSimulations ∨ Creates ext call record := by
  unfold final SimulationCall.run
  cases valid : call.command.amountMsat (V := SimulationView) with
  | error e =>
    rw [create_invalid valid]
    exact fun _ member => .inl member
  | ok amountMsat =>
    cases begun : s.transactionSnapshot with
    | some saved =>
      rw [create_nested begun valid]
      exact fun _ member => .inl member
    | none =>
      have keeps := @createInTransaction_keeps ext s.snapshot call.draws call.command amountMsat s.opened rfl
      have commits := @createInTransaction_commits ext call s sinceEpoch amountMsat
      have stored {record : SimulationRecord} (member : record ∈ s.simulationRecords) : record ∈ s.heldSimulations :=
        List.mem_append_left _ member
      have committed {m : MemoryStorage} {record : SimulationRecord}
          (member : record ∈ { m with transactionSnapshot := none }.heldSimulations) :
          record ∈ m.simulationRecords := by
        simpa [heldSimulations] using member
      have restored {m : MemoryStorage} {record : SimulationRecord}
          (member : record ∈ (m.restore s.snapshot).heldSimulations) : record ∈ s.simulationRecords := by
        simpa [heldSimulations, restore, snapshot] using member
      rw [create_idle begun valid keeps]
      cases ended : createInTransaction ext call.draws call.command amountMsat s.opened with
      | ok pair m =>
        rw [ended] at commits
        obtain ⟨answer, wrote⟩ := pair
        cases wrote with
        | true => exact fun record member => (commits rfl record (committed member)).imp_left stored
        | false => exact fun record member => .inl (stored (restored member))
      | error stopped m =>
        rw [ended] at commits
        cases stopped with
        | panicked =>
          intro record member
          rw [show m = s.opened from commits] at member
          rcases List.mem_append.mp member with current | saved
          · exact .inl (stored current)
          · exact .inl (stored saved)
        | failed error =>
          by_cases shows : error.simulation.isSome = true
          · simp only [SimulationService.closed, if_pos shows]
            exact fun record member => (commits shows record (committed member)).imp_left stored
          · simp only [SimulationService.closed, if_neg shows]
            exact fun record member => .inl (stored (restored member))

end Calls

/-- The stores that calls make of one without simulations, among steps that add no simulation of their own. -/
inductive Called (ext : SimulationExternal) : MemoryStorage → Prop where
  | blank {s : MemoryStorage} (empty : s.heldSimulations = []) : Called ext s
  | call {s : MemoryStorage} (call : SimulationCall) (sinceEpoch : 0 ≤ call.draws.requestedAt)
    (before : Called ext s) : Called ext (final (call.run ext) s)
  | other {s s' : MemoryStorage} (before : Called ext s) (held : s'.heldSimulations ⊆ s.heldSimulations) :
    Called ext s'

theorem Called.created {ext : SimulationExternal} {s : MemoryStorage} (called : Called ext s) :
    ∀ record ∈ s.heldSimulations, ∃ call, Creates ext call record := by
  induction called with
  | blank empty => simp [empty]
  | call call sinceEpoch _ ih =>
    intro record member
    rcases run_adds sinceEpoch record member with stored | creates
    · exact ih record stored
    · exact ⟨call, creates⟩
  | other _ held ih => exact fun record member => ih record (held member)

end MemoryStorage

/-- Of every record that a call can store, in whichever storage, and so of every record of a store that calls have
    made, the API and the application report one status at every time. -/
theorem simulation_surfaces_agree {ext : SimulationExternal} {readInstant : String → Option DateTime}
    (derived : ext.codec.Derived ⟨ext.jsonInstant, readInstant⟩)
    (reads : InstantText.ReadsBack ⟨ext.jsonInstant, readInstant⟩) (calendar : ext.ReadsRfc3339) :
    (∀ call record, Creates ext call record → ∀ now, SurfacesAgree ext record now) ∧
    ∀ s : MemoryStorage, s.Called ext → ∀ record ∈ s.simulationRecords, ∀ now, SurfacesAgree ext record now := by
  refine ⟨fun call record creates now => creates.agree derived reads calendar now, fun s called record member now => ?_⟩
  obtain ⟨call, creates⟩ := called.created record (List.mem_append_left _ member)
  exact creates.agree derived reads calendar now

/-- A rebalance simulated at its observation and shown sixteen minutes later. Only the instant at hand has a
    calendar text, the others are counted out. -/
theorem rebalance_surfaces_agree :
    let observed : DateTime := 1767225600000000000
    let digest := "e3b0c44298fc1c149afbf4c8996fb92427ae41e4649b934ca495991b7852b855"
    let counted (t : Int) := String.ofList (List.replicate (Equiv.intEquivNat t) 'n')
    let readCounted (text : String) : DateTime := Equiv.intEquivNat.symm text.length
    let instants : InstantText := {
      write := fun t => if t = observed then "2026-01-01T00:00:00Z" else counted t
      read := fun text => some (if text = "2026-01-01T00:00:00Z" then observed else readCounted text) }
    let ext : External := {
      sha256 := fun _ => digest
      jsonText := fun _ => "\x7b\x7d"
      rfc3339 := fun t => if t = observed then "2026-01-01T00:00:00+00:00" else counted t
      jsonInstant := instants.write }
    let result : SimulationResult := {
      modelId := "liquidity-redistribution", modelVersion := "3", inputHash := digest, confidence := .medium
      baseline := LiquidityRedistributionModel.state 50000 950000 1000000
      projected := LiquidityRedistributionModel.state 450000 550000 1000000
      deltas := [⟨"full", 900000, 500000, 100000, 500000, 400000, false⟩,
        ⟨"drained", 50000, 450000, 950000, 550000, 400000, true⟩]
      assumptions := LiquidityRedistributionModel.assumptions, warnings := [] }
    let service : SimulationExternal := {
      ext with
      codec := {
        input := SimulationInput.encode instants, result := SimulationResult.encode
        assumptions := encodeAssumptions, warnings := encodeWarnings
        decodeInput := fun value => okOr (SimulationInput.decode instants value) "invalid type"
        decodeResult := fun value => if value == result.encode then .ok result else .error "not decoded" }
      displayInstant := fun _ => "2026-01-01 00:00:00 UTC"
      debugText := fun text => "\"" ++ text ++ "\""
      parseRfc3339 := fun text =>
        if text = "2026-01-01T00:00:00+00:00" then .ok observed
        else if DateTime.FourDigitYear (readCounted text) then .ok (readCounted text)
        else .error "premature end of input" }
    let snapshot (channel : String) (local_ remote : Nat) : ChannelSnapshot := {
      nodeId := some "node", network := some .mainnet, stateDigest := some digest, channelId := channel
      localRatio := (Binary64.ofNat local_).div (.ofNat 1000000)
      localBalanceMsat := local_, remoteBalanceMsat := remote, capacityMsat := 1000000, status := .active
      ts := observed, spendableOutboundMsat := local_, spendableInboundMsat := remote }
    let finding : Finding := { Finding.bare "finding" "channel_liquidity" observed with
      node := some "node", channel := some "drained", evidence := [.string "direction" "outbound"]
      provenance := some {
        network := some .mainnet, source := .lnd "node" "node", producers := []
        observation := .channelState "drained" ⟨some .mainnet, observed, digest⟩ } }
    let recommendation : Recommendation := {
      findingId := "finding", lifecycle := none
      action := { id := "action", actionType := .rebalanceChannel, stage := .recommended, target := some "drained"
                  params := .null, summary := "", createdAt := 0, updatedAt := 0 }
      rationale := ⟨[], [], "", [], [], .operatorActionable⟩ }
    let s : MemoryStorage := { findings := [finding], recommendations := [recommendation]
                               channelSnapshots := [snapshot "full" 900000 100000, snapshot "drained" 50000 950000] }
    let call : SimulationCall := ⟨⟨"action", simulationModelId, "full", "drained", 400, false⟩,
      ⟨observed, observed, observed, "simulation", "requested", "completed", Int.le_refl _, Int.le_refl _⟩⟩
    let later := observed + 16 * 60 * nanosPerSecond
    ∃ record ∈ (final (call.run service) s).simulationRecords, record.status = "completed" ∧
      (simulationValue service record later).status = "stale" ∧ SurfacesAgree service record later := by
  intro observed digest counted readCounted instants ext result service snapshot finding recommendation s call later
  have headed (t : Int) (text : String) (other : text.toList.head? = some '2') : counted t ≠ text := by
    rintro rfl
    simp only [counted, String.toList_ofList] at other
    cases count : Equiv.intEquivNat t <;> simp [count, List.replicate_succ] at other
  have read (t : Int) : readCounted (counted t) = t := by simp [readCounted, counted]
  have reads : instants.ReadsBack := by
    intro t
    by_cases start : t = observed
    · simp [instants, start]
    · simp only [instants]
      rw [if_neg start, if_neg (headed t _ rfl), read t]
  have derived : service.codec.Derived ⟨service.jsonInstant, instants.read⟩ :=
    ⟨rfl, rfl, rfl, rfl, fun value input decoded => by
      show okOr (SimulationInput.decode instants value) _ = _
      rw [show SimulationInput.decode instants value = some input from decoded]
      rfl⟩
  have calendar : service.ReadsRfc3339 := by
    constructor
    · intro t year
      by_cases start : t = observed
      · simp [service, ext, start]
      · simp only [service, ext]
        rw [if_neg start, if_neg (headed t _ rfl), read t, if_pos year]
    · intro t t' parsed
      by_cases start : t = observed
      · rw [start]
        decide
      · simp only [service, ext] at parsed
        rw [if_neg start, if_neg (headed t _ rfl), read t] at parsed
        split at parsed
        next year => exact year
        next => cases parsed
  have shown : ((final (call.run service) s).simulationRecords.any fun record =>
      record.status = "completed" && (simulationValue service record later).status = "stale") = true := by
    decide +kernel
  obtain ⟨record, member, status⟩ := List.any_eq_true.mp shown
  simp only [Bool.and_eq_true, decide_eq_true_eq] at status
  have called : MemoryStorage.Called service (final (call.run service) s) := .call call (by decide) (.blank rfl)
  have agree := (simulation_surfaces_agree derived reads calendar).2 _ called record member later
  exact ⟨record, member, status.1, status.2, agree⟩

end Rieko
