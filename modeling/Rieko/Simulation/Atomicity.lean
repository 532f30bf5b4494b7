import Rieko.Lib.Observation
import Rieko.Simulation.Exits

namespace Rieko

open Observation StatefulResult MemoryStorage SimulationService

/-- Calls under a clock that never goes back, each with an id of its own. -/
structure Timely (calls : List SimulationCall) : Prop where
  clock : calls.Pairwise fun a b => a.draws.completedAt ≤ b.draws.lookedUpAt
  ids : calls.Pairwise fun a b => a.draws.id ≠ b.draws.id

def SimulationCall.apply (ext : SimulationExternal) (call : SimulationCall) (s : MemoryStorage) :
    Except (Stopped SimulationView) Answer × MemoryStorage :=
  (value (call.run ext) s, final (call.run ext) s)

def Adds (ext : SimulationExternal) (view : SimulationView) (s s' : MemoryStorage) : Prop :=
  ∃ record requested terminal,
    s' = { s with
      simulationRecords := s.simulationRecords ++ [record]
      simulationEvents := s.simulationEvents ++ [requested, terminal] } ∧
    record.id = view.id ∧ (∃ now, simulationView ext record now = .ok view) ∧
    requested.simulationId = record.id ∧ requested.status = SimulationStatus.requested.asStr ∧
    terminal.simulationId = record.id ∧ terminal.status = record.status ∧
    record.status ≠ SimulationStatus.requested.asStr

def storesSimulation (s : MemoryStorage) (id : String) : Prop := ∃ record ∈ s.simulationRecords, record.id = id

/-- What a call may change, by its result. -/
def Framed (ext : SimulationExternal) (s : MemoryStorage) :
    EStateM.Result (Stopped SimulationView) MemoryStorage Answer → Prop
  | .ok ⟨view, false⟩ s' => ¬storesSimulation s view.id ∧ Adds ext view s s'
  | .ok ⟨view, true⟩ s' => storesSimulation s view.id ∧ s' = s
  | .error (.failed error) s' => match error.simulation with
    | none => s' = s
    | some view => (storesSimulation s view.id → s' = s) ∧ (¬storesSimulation s view.id → Adds ext view s s')
  | .error .panicked s' => s' = s.opened

def SingleProjection (s : MemoryStorage) : Prop := s.simulationRecords.Pairwise fun a b =>
  a.inputHash = b.inputHash → a.projection.isNull = true ∨ b.projection.isNull = true

/-- Every record stems from one of the calls, and those of one input have one projection between them. -/
structure Chronicle (ext : SimulationExternal) (calls : List SimulationCall) (s : MemoryStorage) : Prop where
  keyed : ∀ record ∈ s.simulationRecords, record.inputHash ≠ "" ∧ record.canonicalInput.isNull = false
  stems : ∀ record ∈ s.simulationRecords, ∃ call ∈ calls, record.id = call.draws.id ∧
    record.createdAt = ext.rfc3339 call.draws.requestedAt ∧ ∃ t, ext.parseRfc3339 record.createdAt = .ok t
  single : SingleProjection s

/-- The newest record of the command's input has a result and showed the view at an instant. -/
structure Answered (ext : SimulationExternal) (command : CreateSimulationCommand) (view : SimulationView)
    (now : DateTime) (s : MemoryStorage) : Prop where
  idle : s.transactionSnapshot = none
  held : ∃ recommendation input record, Asks ext command s.opened recommendation input ∧
    s.newestSimulation (inputHash ext input) = some record ∧ record.projection.isNull = false ∧
    simulationView ext record now = .ok view

namespace SimulationService

section Views

variable {ext : SimulationExternal} {record : SimulationRecord} {now later : DateTime} {view : SimulationView}

theorem simulationView_id (viewed : simulationView ext record now = .ok view) : view.id = record.id := by
  unfold simulationView at viewed
  obtain ⟨input, decoded, viewed⟩ := except_bind_ok.mp viewed
  obtain ⟨result, projected, viewed⟩ := except_bind_ok.mp viewed
  obtain ⟨status, parsed, viewed⟩ := except_bind_ok.mp viewed
  obtain ⟨requestedAt, requested, viewed⟩ := except_bind_ok.mp viewed
  obtain ⟨completedAt, completed, viewed⟩ := except_bind_ok.mp viewed
  cases viewed
  rfl

theorem simulationView_requestedAt (viewed : simulationView ext record now = .ok view) :
    ∃ t, ext.parseRfc3339 record.requestedAt = .ok t := by
  unfold simulationView at viewed
  obtain ⟨input, decoded, viewed⟩ := except_bind_ok.mp viewed
  obtain ⟨result, projected, viewed⟩ := except_bind_ok.mp viewed
  obtain ⟨status, parsed, viewed⟩ := except_bind_ok.mp viewed
  obtain ⟨requestedAt, requested, viewed⟩ := except_bind_ok.mp viewed
  unfold parseTime at requested
  cases read : ext.parseRfc3339 record.requestedAt with
  | ok t => exact ⟨t, rfl⟩
  | error e => rw [read] at requested; cases requested

theorem simulationView_later (viewed : simulationView ext record now = .ok view) (forward : now ≤ later)
    (young : later - view.sourceObservedAt ≤ defaultFreshness) :
    view.stale = false ∧ simulationView ext record later = .ok view := by
  unfold simulationView at viewed ⊢
  obtain ⟨input, decoded, viewed⟩ := except_bind_ok.mp viewed
  obtain ⟨result, projected, viewed⟩ := except_bind_ok.mp viewed
  obtain ⟨status, parsed, viewed⟩ := except_bind_ok.mp viewed
  obtain ⟨requestedAt, requested, viewed⟩ := except_bind_ok.mp viewed
  obtain ⟨completedAt, completed, viewed⟩ := except_bind_ok.mp viewed
  have fresh (t : DateTime) (until_ : t ≤ later) : input.isStaleAt t defaultFreshness = false := by
    cases viewed
    have bound : t - input.observedAt ≤ defaultFreshness := (Int.sub_le_sub_right until_ _).trans young
    simpa [SimulationInput.isStaleAt] using bound
  rw [fresh now forward] at viewed
  rw [decoded, projected, parsed, requested, completed]
  cases viewed
  refine ⟨rfl, ?_⟩
  show Except.ok _ = _
  rw [fresh later le_rfl]

end Views

end SimulationService

namespace Timely

variable {calls later : List SimulationCall} {call : SimulationCall}

theorem prior (timely : Timely (calls ++ later)) : Timely calls :=
  ⟨(List.pairwise_append.mp timely.clock).1, (List.pairwise_append.mp timely.ids).1⟩

theorem before (timely : Timely (calls ++ later)) {a b : SimulationCall} (first : a ∈ calls) (second : b ∈ later) :
    a.draws.completedAt ≤ b.draws.lookedUpAt ∧ a.draws.id ≠ b.draws.id :=
  ⟨(List.pairwise_append.mp timely.clock).2.2 a first b second,
    (List.pairwise_append.mp timely.ids).2.2 a first b second⟩

end Timely

namespace SimulationService

section Evaluated

variable {ext : SimulationExternal} {call : SimulationCall} {s : MemoryStorage} {recommendation : Recommendation}
  {input : SimulationInput} {record : SimulationRecord} {view : SimulationView}

structure Describes (ext : SimulationExternal) (call : SimulationCall) (input : SimulationInput)
    (record : SimulationRecord) : Prop where
  id : record.id = call.draws.id
  inputHash : record.inputHash = SimulationService.inputHash ext input
  canonicalInput : record.canonicalInput = ext.codec.input input
  requestedAt : record.requestedAt = ext.rfc3339 call.draws.requestedAt
  createdAt : record.createdAt = ext.rfc3339 call.draws.requestedAt
  status : record.status ≠ SimulationStatus.requested.asStr

theorem settle_status (input : SimulationInput) (requestedAt : DateTime) (allowStale : Bool)
    (outcome : Except ModelError SimulationResult) :
    (settle input requestedAt allowStale outcome).status.asStr ≠ SimulationStatus.requested.asStr := by
  have ended : (settle input requestedAt allowStale outcome).status ≠ .requested := by
    unfold settle
    split
    · dsimp only
      split <;> simp
    · simp
    · split
      · simp
      split <;> simp
    · simp
  generalize (settle input requestedAt allowStale outcome).status = status at ended ⊢
  cases status with
  | requested => exact absurd rfl ended
  | completed | unsupported | invalidInput | stale | failed => decide

theorem Evaluated.describes (evaluated : Evaluated ext call s recommendation input record view) :
    Describes ext call input record := by
  obtain ⟨explanation, -, rfl⟩ := Option.map_eq_some_iff.mp evaluated.built
  exact ⟨rfl, rfl, rfl, rfl, rfl, settle_status input _ _ _⟩

theorem Evaluated.adds (evaluated : Evaluated ext call s recommendation input record view) :
    Adds ext view s (recorded call.draws record s) :=
  ⟨record, requestedEvent call.draws record, terminalEvent call.draws record, rfl,
    (simulationView_id evaluated.viewed).symm, ⟨_, evaluated.viewed⟩, rfl, rfl, rfl, rfl, evaluated.describes.status⟩

theorem Evaluated.unstored (evaluated : Evaluated ext call s recommendation input record view)
    (fresh : ∀ existing ∈ s.simulationRecords, existing.id ≠ call.draws.id) : ¬storesSimulation s view.id := by
  rintro ⟨existing, member, same⟩
  rw [simulationView_id evaluated.viewed, evaluated.describes.id] at same
  exact fresh existing member same

theorem Exit.framed {r : EStateM.Result (Stopped SimulationView) MemoryStorage Answer} (exit : Exit ext call s r)
    (fresh : ∀ existing ∈ s.simulationRecords, existing.id ≠ call.draws.id) : Framed ext s r := by
  cases exit with
  | refused plain =>
    unfold Framed
    dsimp only
    rw [plain]
  | @repeated error record view member viewed shows =>
    have stored : storesSimulation s view.id := ⟨record, member, (simulationView_id viewed).symm⟩
    unfold Framed
    dsimp only
    rw [shows]
    exact ⟨fun _ => rfl, fun missing => absurd stored missing⟩
  | @reused recommendation input record view idle asks newest projected viewed =>
    have member : record ∈ s.simulationRecords := (List.mem_filter.mp (mem_of_latestCreated newest)).1
    exact ⟨⟨record, member, (simulationView_id viewed).symm⟩, rfl⟩
  | created idle asks evaluated projected => exact ⟨evaluated.unstored fresh, evaluated.adds⟩
  | failure evaluated shows =>
    unfold Framed
    dsimp only
    rw [shows]
    exact ⟨fun stored => absurd stored (evaluated.unstored fresh), fun _ => evaluated.adds⟩
  | panicked idle => rfl

end Evaluated

end SimulationService

namespace Chronicle

variable {ext : SimulationExternal} {calls : List SimulationCall} {call : SimulationCall} {s s' : MemoryStorage}
  {recommendation : Recommendation} {input : SimulationInput} {record : SimulationRecord} {view : SimulationView}

theorem fresh (chronicle : Chronicle ext calls s) (timely : Timely (calls ++ [call])) :
    ∀ existing ∈ s.simulationRecords, existing.id ≠ call.draws.id := by
  intro existing member
  obtain ⟨earlier, made, named, -⟩ := chronicle.stems existing member
  rw [named]
  exact (timely.before made (List.mem_singleton_self call)).2

theorem more (chronicle : Chronicle ext calls s) (same : s'.simulationRecords = s.simulationRecords) :
    Chronicle ext (calls ++ [call]) s' where
  keyed := by rw [same]; exact chronicle.keyed
  stems record member := by
    rw [same] at member
    obtain ⟨earlier, made, facts⟩ := chronicle.stems record member
    exact ⟨earlier, List.mem_append_left _ made, facts⟩
  single := by unfold SingleProjection; rw [same]; exact chronicle.single

theorem recorded (lawful : ext.Lawful) (chronicle : Chronicle ext calls s)
    (evaluated : Evaluated ext call s recommendation input record view) :
    Chronicle ext (calls ++ [call]) (recorded call.draws record s) := by
  have describes := evaluated.describes
  have hashed : record.inputHash ≠ "" := by rw [describes.inputHash]; exact lawful.digest _
  have canonical : record.canonicalInput.isNull = false := by rw [describes.canonicalInput]; exact lawful.input _
  have stored (existing : SimulationRecord) :
      existing ∈ (SimulationService.recorded call.draws record s).simulationRecords →
        existing ∈ s.simulationRecords ∨ existing = record := by
    intro member
    simpa using (List.mem_append.mp member)
  refine ⟨fun existing member => ?_, fun existing member => ?_, ?_⟩
  · rcases stored existing member with member | rfl
    · exact chronicle.keyed existing member
    · exact ⟨hashed, canonical⟩
  · rcases stored existing member with member | rfl
    · obtain ⟨earlier, made, facts⟩ := chronicle.stems existing member
      exact ⟨earlier, List.mem_append_left _ made, facts⟩
    · obtain ⟨t, read⟩ := simulationView_requestedAt evaluated.viewed
      have parsed : ext.parseRfc3339 existing.createdAt = .ok t := by
        rw [describes.createdAt, ← describes.requestedAt, read]
      exact ⟨call, List.mem_append_right _ (List.mem_singleton_self call), describes.id, describes.createdAt, t, parsed⟩
  · refine List.pairwise_append.mpr ⟨chronicle.single, List.pairwise_singleton _ _, ?_⟩
    rintro existing member other last same
    rw [List.mem_singleton.mp last] at same ⊢
    cases projected : record.projection.isNull with
    | true => exact .inr rfl
    | false =>
      have replayable : record.replayable = true := by simp [SimulationRecord.replayable, canonical, projected]
      have alone := evaluated.admits hashed replayable existing member same
      simpa [SimulationRecord.replayable, (chronicle.keyed existing member).2] using alone

theorem step (lawful : ext.Lawful) (chronicle : Chronicle ext calls s) (timely : Timely (calls ++ [call])) :
    Chronicle ext (calls ++ [call]) (call.apply ext s).2 := by
  have exit := run_exit ext (chronicle.fresh timely)
  show Chronicle ext (calls ++ [call]) (final (call.run ext) s)
  unfold final
  generalize call.run ext s = r at exit ⊢
  cases exit with
  | refused plain => exact chronicle.more rfl
  | repeated member viewed shows => exact chronicle.more rfl
  | reused idle asks newest projected viewed => exact chronicle.more rfl
  | created idle asks evaluated projected => exact chronicle.recorded lawful evaluated
  | failure evaluated shows => exact chronicle.recorded lawful evaluated
  | panicked idle => exact chronicle.more rfl

theorem blank (empty : s.simulationRecords = []) : Chronicle ext [] s where
  keyed record member := by simp [empty] at member
  stems record member := by simp [empty] at member
  single := by unfold SingleProjection; rw [empty]; exact List.Pairwise.nil

theorem run (lawful : ext.Lawful) (empty : s.simulationRecords = []) (timely : Timely calls) :
    Chronicle ext calls (after (SimulationCall.apply ext) calls s) := by
  induction calls using List.reverseRec with
  | nil => exact blank empty
  | append_singleton calls call ih =>
    rw [after_append]
    exact (ih timely.prior).step lawful timely

end Chronicle

namespace Answered

variable {ext : SimulationExternal} {calls : List SimulationCall} {call : SimulationCall} {s s' : MemoryStorage}
  {command : CreateSimulationCommand} {view : SimulationView} {now : DateTime}

theorem of_ok (lawful : ext.Lawful) (chronicle : Chronicle ext calls s) (timely : Timely (calls ++ [call]))
    {reused : Bool} (ran : call.run ext s = .ok ⟨view, reused⟩ s') :
    ∃ now ≤ call.draws.completedAt, Answered ext call.command view now s' := by
  have exit := run_exit ext (chronicle.fresh timely)
  have forward := call.draws.requestedLater.trans call.draws.completedLater
  rw [ran] at exit
  cases exit with
  | reused idle asks newest projected viewed =>
    exact ⟨call.draws.lookedUpAt, forward, idle, _, _, _, asks, newest, projected, viewed⟩
  | @created recommendation input record _ result idle asks evaluated projected =>
    have describes := evaluated.describes
    have visible : inputHash ext input ≠ "" ∧ record.inputHash = inputHash ext input ∧
        !record.canonicalInput.isNull :=
      ⟨lawful.digest _, describes.inputHash, by rw [describes.canonicalInput, lawful.input]; rfl⟩
    have newest : (recorded call.draws record s).newestSimulation (inputHash ext input) = some record := by
      show latestCreated (List.filter _ (s.simulationRecords ++ [record])) = _
      rw [List.filter_append, List.filter_singleton, decide_eq_true visible, cond_true]
      refine latestCreated_append fun earlier member => ?_
      obtain ⟨first, made, -, created, t, parsed⟩ := chronicle.stems earlier (List.mem_filter.mp member).1
      obtain ⟨t', read⟩ := simulationView_requestedAt evaluated.viewed
      have past := first.draws.completedLater.trans
        ((timely.before made (List.mem_singleton_self call)).1.trans call.draws.requestedLater)
      rw [created] at parsed ⊢
      rw [describes.requestedAt] at read
      rw [describes.createdAt]
      exact lawful.chronological _ _ past t t' parsed read
    exact ⟨call.draws.completedAt, le_rfl, idle, recommendation, input, record, asks.elsewhere rfl, newest,
      by rw [projected]; exact lawful.result result, evaluated.viewed⟩

theorem step (answered : Answered ext command view now s)
    (fresh : ∀ existing ∈ s.simulationRecords, existing.id ≠ call.draws.id)
    (returns : (call.apply ext s).1 ≠ .error .panicked) : Answered ext command view now (call.apply ext s).2 := by
  have exit := run_exit ext fresh
  obtain ⟨idle, recommendation, input, record, asks, newest, projected, viewed⟩ := answered
  have kept {recommendation' : Recommendation} {input' : SimulationInput} {added : SimulationRecord}
      {other : SimulationView} (evaluated : Evaluated ext call s recommendation' input' added other) :
      Answered ext command view now (recorded call.draws added s) := by
    have apart : added.inputHash ≠ inputHash ext input := by
      intro same
      rw [evaluated.describes.inputHash] at same
      have gone := evaluated.replaces record (same ▸ newest)
      rw [projected] at gone
      cases gone
    refine ⟨idle, recommendation, input, record, asks.elsewhere rfl, ?_, projected, viewed⟩
    rw [← newest]
    show latestCreated (List.filter _ (s.simulationRecords ++ [added])) = _
    rw [List.filter_append, List.filter_singleton, decide_eq_false fun also => apart also.2.1, cond_false,
      List.append_nil]
    rfl
  unfold SimulationCall.apply value at returns
  show Answered ext command view now (final (call.run ext) s)
  unfold final
  generalize call.run ext s = r at exit returns ⊢
  cases exit with
  | refused plain => exact ⟨idle, recommendation, input, record, asks, newest, projected, viewed⟩
  | repeated member viewed' shows => exact ⟨idle, recommendation, input, record, asks, newest, projected, viewed⟩
  | reused idle' asks' newest' projected' viewed' =>
    exact ⟨idle, recommendation, input, record, asks, newest, projected, viewed⟩
  | created idle' asks' evaluated projected' => exact kept evaluated
  | failure evaluated shows => exact kept evaluated
  | panicked idle' => exact absurd rfl returns

theorem again (answered : Answered ext call.command view now s) (forward : now ≤ call.draws.lookedUpAt)
    (young : call.draws.lookedUpAt - view.sourceObservedAt ≤ defaultFreshness) :
    call.run ext s = .ok ⟨view, true⟩ s := by
  obtain ⟨idle, recommendation, input, record, ⟨amountMsat, valid, ran⟩, newest, projected, viewed⟩ := answered
  obtain ⟨fresh, viewed⟩ := simulationView_later viewed forward young
  have answer : answerOfExisting ext call.draws.lookedUpAt call.command.allowStale record = .ok (some view) :=
    answerOfExisting_some.mpr ⟨projected, viewed, by simp [fresh]⟩
  have inside : createInTransaction ext call.draws call.command amountMsat s.opened =
      .ok (⟨view, true⟩, false) s.opened := by
    unfold createInTransaction
    rw [bind_of_ok (show plainly _ _ = _ from adapt_of_ok ran)]
    dsimp only
    rw [bind_of_ok (show plainly (stored (SimulationStorage.simulationV2ByInputHash (inputHash ext input))) s.opened =
      .ok (s.newestSimulation (inputHash ext input)) s.opened from rfl), newest]
    dsimp only
    rw [answer, bind_of_ok (ofExcept_ok.mpr ⟨(rfl : Except.mapError _ (.ok (some view)) = .ok (some view)), rfl⟩)]
    rfl
  unfold SimulationCall.run
  rw [create_idle idle valid (createInTransaction_keeps s.snapshot call.draws call.command amountMsat s.opened rfl),
    inside]
  have undone : s.opened.restore s.snapshot = s := OnlySimulations.restore idle rfl
  show EStateM.Result.ok _ (s.opened.restore s.snapshot) = _
  rw [undone]

theorem run {more : List SimulationCall} (lawful : ext.Lawful) (answered : Answered ext command view now s)
    (chronicle : Chronicle ext calls s) (timely : Timely (calls ++ more))
    (returns : ∀ answer ∈ answers (SimulationCall.apply ext) more s, answer ≠ .error .panicked) :
    Answered ext command view now (after (SimulationCall.apply ext) more s) := by
  induction more generalizing calls s with
  | nil => exact answered
  | cons call more ih =>
    have whole : Timely (calls ++ [call] ++ more) := by rwa [List.append_assoc]
    have first := answered.step (chronicle.fresh whole.prior) (returns _ List.mem_cons_self)
    exact ih first (chronicle.step lawful whole.prior) whole fun answer member =>
      returns answer (List.mem_cons_of_mem _ member)

end Answered

/-- Whatever calls of `create_simulation` made the store, a further one changes no more than its result says,
    and a success is repeated, also after more calls that return, until its observation turns stale. -/
theorem create_simulation_atomic {ext : SimulationExternal} (lawful : ext.Lawful) {s : MemoryStorage}
    (empty : s.simulationRecords = []) {calls : List SimulationCall} {call : SimulationCall}
    (timely : Timely (calls ++ [call])) :
    let before := after (SimulationCall.apply ext) calls s
    Framed ext before (call.run ext before) ∧ SingleProjection before ∧
      ∀ view reused next, call.run ext before = .ok ⟨view, reused⟩ next →
        ∀ more again, Timely (calls ++ [call] ++ (more ++ [again])) → again.command = call.command →
          (∀ answer ∈ answers (SimulationCall.apply ext) more next, answer ≠ .error .panicked) →
          again.draws.lookedUpAt - view.sourceObservedAt ≤ defaultFreshness →
          let last := after (SimulationCall.apply ext) more next
          again.run ext last = .ok ⟨view, true⟩ last := by
  intro before
  have chronicle : Chronicle ext calls before := Chronicle.run lawful empty timely.prior
  refine ⟨(run_exit ext (chronicle.fresh timely)).framed (chronicle.fresh timely), chronicle.single, ?_⟩
  intro view reused next ran more again whole same returns young
  have left : (call.apply ext before).2 = next := by
    show final (call.run ext) before = next
    unfold final
    rw [ran]
  obtain ⟨now, past, answered⟩ := Answered.of_ok lawful chronicle timely ran
  have later : Chronicle ext (calls ++ [call]) next := left ▸ chronicle.step lawful timely
  have regrouped : Timely (calls ++ [call] ++ more ++ [again]) := by rwa [List.append_assoc]
  have kept := answered.run lawful later regrouped.prior returns
  have forward : now ≤ again.draws.lookedUpAt :=
    past.trans (regrouped.before (by simp) (List.mem_singleton_self again)).1
  rw [← same] at kept
  exact kept.again forward young

/-- A rebalance simulated a minute after its observation, and asked for again a minute later. -/
theorem create_simulation_atomic_rebalance :
    let observed : DateTime := 1767225600000000000
    let minute : DateTime := 1767225660000000000
    let ext : External := {
      sha256 := fun _ => "digest"
      jsonText := fun _ => "\x7b\x7d"
      rfc3339 := fun t => if t = minute then "2026-01-01T00:01:00+00:00"
        else if t = observed then "2026-01-01T00:00:00+00:00" else ""
      jsonInstant := fun _ => "2026-01-01T00:00:00Z" }
    let snapshot (channel : String) (local_ remote : Nat) : ChannelSnapshot := {
      nodeId := some "node", network := some .mainnet, stateDigest := some "digest", channelId := channel
      localRatio := (Binary64.ofNat local_).div (.ofNat 1000000)
      localBalanceMsat := local_, remoteBalanceMsat := remote, capacityMsat := 1000000, status := .active
      ts := observed, spendableOutboundMsat := local_, spendableInboundMsat := remote }
    let provenance : FindingProvenance := {
      network := some .mainnet, source := .lnd "node" "node", producers := []
      observation := .channelState "drained" ⟨some .mainnet, observed, "digest"⟩ }
    let input : SimulationInput := {
      recommendationId := "action", recommendationTarget := "drained", findingId := "finding"
      findingChannel := "drained", findingDirection := some .outbound, nodeId := "node", network := some .mainnet
      provenance, actionType := .rebalanceChannel, modelId := LiquidityRedistributionModel.modelId
      modelVersion := LiquidityRedistributionModel.modelVersion, parameters := ⟨"full", "drained", 400000⟩
      sourceSnapshot := snapshot "full" 900000 100000, destinationSnapshot := snapshot "drained" 50000 950000 }
    let encoding : SimulationCodec := {
      input := fun input => .object [("model_id", .string input.modelId)]
      result := fun result => .object [("model_id", .string result.modelId)]
      assumptions := fun _ => .array [], warnings := fun _ => .array []
      decodeInput := fun _ => .ok input, decodeResult := fun _ => .error "not decoded" }
    let service : SimulationExternal := {
      ext with
      codec := { encoding with
        decodeResult := fun _ => (LiquidityRedistributionModel.simulate ext encoding input).mapError (·.toString) }
      displayInstant := fun _ => "2026-01-01 00:00:00 UTC"
      debugText := fun text => "\"" ++ text ++ "\""
      parseRfc3339 := fun text => if text = "2026-01-01T00:01:00+00:00" then .ok minute
        else if text = "2026-01-01T00:00:00+00:00" then .ok observed else .error "premature end of input" }
    let finding : Finding := { Finding.bare "finding" "channel_liquidity" observed with
      node := some "node", channel := some "drained", evidence := [.string "direction" "outbound"]
      provenance := some provenance }
    let recommendation : Recommendation := {
      findingId := "finding", lifecycle := none
      action := { id := "action", actionType := .rebalanceChannel, stage := .recommended, target := some "drained"
                  params := .null, summary := "", createdAt := 0, updatedAt := 0 }
      rationale := ⟨[], [], "", [], [], .operatorActionable⟩ }
    let s : MemoryStorage := { findings := [finding], recommendations := [recommendation]
                               channelSnapshots := [input.sourceSnapshot, input.destinationSnapshot] }
    let command : CreateSimulationCommand := ⟨"action", simulationModelId, "full", "drained", 400, false⟩
    let call : SimulationCall := ⟨command, minute, minute, minute, "simulation", "requested", "completed",
      Int.le_refl _, Int.le_refl _⟩
    let again : SimulationCall := ⟨command, minute + 60000000000, minute + 60000000000, minute + 60000000000,
      "other", "requested-2", "completed-2", Int.le_refl _, Int.le_refl _⟩
    ∃ view next, call.run service s = .ok ⟨view, false⟩ next ∧ again.run service next = .ok ⟨view, true⟩ next := by
  intro observed minute ext snapshot provenance input encoding service finding recommendation s command call again
  have lawful : service.Lawful := {
    digest := fun _ => (by decide : "digest" ≠ "")
    input := fun _ => rfl
    result := fun _ => rfl
    chronological := fun earlier later forward t t' read read' => by
      dsimp only [service, ext] at read read' ⊢
      by_cases first : earlier = minute
      · have last : later ≠ observed := by rintro rfl; rw [first] at forward; exact absurd forward (by decide)
        by_cases second : later = minute
        · rw [if_pos first, if_pos second]
        · rw [if_neg second, if_neg last] at read'
          exact absurd read' (by simp)
      · by_cases start : earlier = observed
        · by_cases second : later = minute
          · rw [if_neg first, if_pos start, if_pos second]
            decide
          · by_cases third : later = observed
            · rw [if_neg first, if_pos start, if_neg second, if_pos third]
            · rw [if_neg second, if_neg third] at read'
              exact absurd read' (by simp)
        · rw [if_neg first, if_neg start] at read
          exact absurd read (by simp) }
  have timely : Timely ([] ++ [call]) := ⟨List.pairwise_singleton _ _, List.pairwise_singleton _ _⟩
  have forward : call.draws.completedAt ≤ again.draws.lookedUpAt := by decide
  have apart : call.draws.id ≠ again.draws.id := by decide
  have whole : Timely ([] ++ [call] ++ ([] ++ [again])) :=
    ⟨List.pairwise_pair.mpr forward, List.pairwise_pair.mpr apart⟩
  have succeeds : returns (fun answer _ => !answer.reused &&
      decide (again.draws.lookedUpAt - answer.simulation.sourceObservedAt ≤ defaultFreshness))
      (call.run service) s = true := by decide +kernel
  have repeats := (create_simulation_atomic lawful (rfl : s.simulationRecords = []) timely).2.2
  obtain ⟨⟨view, reused⟩, next, ran, made⟩ := exists_of_returns succeeds
  simp only [Bool.and_eq_true, Bool.not_eq_true', decide_eq_true_eq] at made
  obtain ⟨rfl, young⟩ := made
  exact ⟨view, next, ran, repeats view false next ran [] again whole rfl (by simp [answers]) young⟩

end Rieko
