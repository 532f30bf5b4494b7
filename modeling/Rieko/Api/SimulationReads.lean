import Rieko.Api.Simulations
import Rieko.Simulation.Atomicity
import Rieko.Simulation.Comparison
import Rieko.Simulation.Confinement
import Rieko.Simulation.FutureDated

namespace Rieko

open StatefulResult SimulationService

namespace MemoryStorage

structure Keyed (s : MemoryStorage) : Prop where
  single : ∀ a ∈ s.simulationRecords, ∀ b ∈ s.simulationRecords, a.id = b.id → a = b
  grows : ∀ saved, s.transactionSnapshot = some saved → saved.simulationRecords ⊆ s.simulationRecords

theorem Keyed.of_same {s s' : MemoryStorage} (keyed : s.Keyed) (records : s'.simulationRecords = s.simulationRecords)
    (transaction : s'.transactionSnapshot = s.transactionSnapshot) : s'.Keyed :=
  ⟨by rw [records]; exact keyed.single, by rw [records, transaction]; exact keyed.grows⟩

theorem keyed_saveSimulationV2 (record : SimulationRecord) : Preserves Keyed (saveSimulationV2 record) := by
  intro s keyed
  unfold final
  cases ended : saveSimulationV2 record s with
  | error e s' =>
    rw [saveSimulationV2_error ended]
    exact keyed
  | ok u s' =>
    unfold saveSimulationV2 at ended
    split at ended <;> split at ended <;> cases ended
    · exact keyed
    next unknown _ =>
      have fresh : ∀ existing ∈ s.simulationRecords, existing.id ≠ record.id := Rows.lookup_eq_none.mp unknown
      refine ⟨fun a first b second same => ?_, fun saved begun other member => ?_⟩
      · rcases List.mem_append.mp first with stored | last <;> rcases List.mem_append.mp second with stored' | last'
        · exact keyed.single a stored b stored' same
        · rw [List.mem_singleton.mp last'] at same
          exact absurd same (fresh a stored)
        · rw [List.mem_singleton.mp last] at same
          exact absurd same.symm (fresh b stored')
        · rw [List.mem_singleton.mp last, List.mem_singleton.mp last']
      · exact List.mem_append_left _ (keyed.grows saved begun member)

theorem keyed_callsKeep : CallsKeep Keyed where
  beginTransaction s keyed := by
    show (final beginTransaction s).Keyed
    unfold final beginTransaction
    cases begun : s.transactionSnapshot with
    | some saved => exact keyed
    | none => exact ⟨keyed.single, fun saved same => by cases same; exact List.Subset.refl _⟩
  commitTransaction s keyed := by
    show (final commitTransaction s).Keyed
    unfold final commitTransaction
    cases begun : s.transactionSnapshot with
    | none => exact keyed
    | some saved => exact ⟨keyed.single, fun saved same => by cases same⟩
  rollbackTransaction s keyed := by
    show (final rollbackTransaction s).Keyed
    unfold final rollbackTransaction
    cases begun : s.transactionSnapshot with
    | none => exact keyed
    | some saved =>
      have within := keyed.grows saved begun
      exact ⟨fun a first b second => keyed.single a (within first) b (within second), fun saved same => by cases same⟩
  recommendationForAction _ := fun _ keyed => keyed
  findingById _ := fun _ keyed => keyed
  channelSnapshotAt _ _ _ _ := fun _ keyed => keyed
  simulationV2ByInputHash _ := fun _ keyed => keyed
  saveSimulationV2 record _ := keyed_saveSimulationV2 record
  appendSimulationEvent event := fun s keyed => by
    show (final (appendSimulationEvent event) s).Keyed
    unfold final appendSimulationEvent
    by_cases duplicate : s.simulationEvents.any (·.id = event.id)
    · rw [if_pos duplicate]; exact keyed
    · rw [if_neg duplicate]; exact keyed.of_same rfl rfl

def Single (s : MemoryStorage) : Prop :=
  ∀ a ∈ s.heldSimulations, ∀ b ∈ s.heldSimulations, a.id = b.id → a = b

theorem Keyed.single_held {s : MemoryStorage} (keyed : s.Keyed) : s.Single := by
  have current : s.heldSimulations ⊆ s.simulationRecords := by
    intro record member
    rcases List.mem_append.mp member with stored | saved
    · exact stored
    · cases begun : s.transactionSnapshot with
      | none =>
        rw [begun] at saved
        cases saved
      | some before =>
        rw [begun] at saved
        exact keyed.grows before begun saved
  exact fun a first b second => keyed.single a (current first) b (current second)

/-- A call never gets to its body while a transaction is open. -/
theorem run_refused {s : MemoryStorage} {saved : MemoryStorageState} (begun : s.transactionSnapshot = some saved)
    (ext : SimulationExternal) (call : SimulationCall) : final (call.run ext) s = s := by
  unfold final SimulationCall.run
  cases valid : call.command.amountMsat (V := SimulationView) with
  | error e => rw [create_invalid valid]
  | ok amountMsat => rw [create_nested begun valid]

theorem Called.single {ext : SimulationExternal} {s : MemoryStorage} (called : s.Called ext) : s.Single := by
  induction called with
  | blank empty =>
    intro a first
    rw [empty] at first
    cases first
  | @call s call _ _ ih =>
    cases begun : s.transactionSnapshot with
    | some saved =>
      rw [run_refused begun]
      exact ih
    | none =>
      have keyed : s.Keyed :=
        ⟨fun a first b second => ih a (List.mem_append_left _ first) b (List.mem_append_left _ second),
          fun saved same => by rw [begun] at same; cases same⟩
      exact (run_confined keyed_callsKeep ext call s keyed).single_held
  | other _ held ih => exact fun a first b second => ih a (held first) b (held second)

theorem Called.viewable {ext : SimulationExternal} (lawful : ext.Lawful) {s : MemoryStorage} (called : s.Called ext)
    {record : SimulationRecord} (stored : record ∈ s.simulationRecords) :
    record.canonicalInput.isNull = false ∧ s.replayable record.id = some record ∧
      ∀ now, ∃ view, simulationView ext record now = .ok view ∧ view.id = record.id := by
  have filled (other : SimulationRecord) (member : other ∈ s.simulationRecords) :
      other.canonicalInput.isNull = false := by
    obtain ⟨call, creates⟩ := called.created other (List.mem_append_left _ member)
    obtain ⟨recommendation, input, built⟩ := creates.built
    rw [(simulationRecord_records built).canonicalInput]
    exact lawful.input input
  refine ⟨filled record stored, ?_, fun now => ?_⟩
  · cases found : s.replayable record.id with
    | none =>
      have missing := List.find?_eq_none.mp found record stored
      simp [filled record stored] at missing
    | some other =>
      have member := List.mem_of_find?_eq_some found
      have same := List.find?_some found
      simp only [Bool.decide_and, Bool.and_eq_true, decide_eq_true_eq] at same
      rw [called.single other (List.mem_append_left _ member) record (List.mem_append_left _ stored) same.1]
  · obtain ⟨call, creates⟩ := called.created record (List.mem_append_left _ stored)
    obtain ⟨view, viewed⟩ := creates.viewed
    obtain ⟨input, persisted, requestedAt, -, -, -, views⟩ := simulationView_ok viewed
    obtain ⟨other, again, -⟩ := views now
    exact ⟨other, again, simulationView_id again⟩

end MemoryStorage

namespace SimulationService

theorem viewsFrom_total {ext : SimulationExternal} {clock : Nat → DateTime} {records : List SimulationRecord}
    (viewable : ∀ record ∈ records, ∀ now, ∃ view, simulationView ext record now = .ok view) (start : Nat) :
    ∃ views, viewsFrom ext clock start records = .ok views ∧ views.length = records.length ∧
      ∀ i (listed : i < records.length) (also : i < views.length),
        simulationView ext records[i] (clock (start + i)) = .ok views[i] := by
  induction records generalizing start with
  | nil => exact ⟨[], rfl, rfl, fun i listed => nomatch listed⟩
  | cons record records ih =>
    obtain ⟨view, viewed⟩ := viewable record List.mem_cons_self (clock start)
    obtain ⟨views, listed, counted, each⟩ :=
      ih (fun other member => viewable other (List.mem_cons_of_mem _ member)) (start + 1)
    refine ⟨view :: views, ?_, congrArg (· + 1) counted, fun i below also => ?_⟩
    · simp only [viewsFrom, viewed, listed]
      rfl
    · cases i with
      | zero => exact viewed
      | succ i =>
        have here := each i (Nat.lt_of_succ_lt_succ below) (Nat.lt_of_succ_lt_succ also)
        rw [Nat.add_right_comm, Nat.add_assoc] at here
        exact here

theorem compareViews_error {left right : SimulationView} {error : PlainError}
    (ran : compareViews left right = .error error) : error.kind = .incompatibleSimulations := by
  unfold compareViews at ran
  split at ran
  next =>
    split at ran
    next =>
      cases ran
      rfl
    next =>
      dsimp only at ran
      split at ran <;> cases ran
      rfl
  next =>
    cases ran
    rfl

end SimulationService

namespace MemoryStorage.Called

variable {ext : SimulationExternal} {s : MemoryStorage} {simulationId : String} {now : DateTime}

theorem detailed (lawful : ext.Lawful) (called : s.Called ext) :
    ∃ view, viewOf ext now (s.replayable simulationId) = .ok view := by
  cases found : s.replayable simulationId with
  | none => exact ⟨none, rfl⟩
  | some record =>
    obtain ⟨view, viewed, -⟩ := (called.viewable lawful (List.mem_of_find?_eq_some found)).2.2 now
    exact ⟨some view, by rw [viewOf, viewed]; rfl⟩

theorem shown_error (lawful : ext.Lawful) (called : s.Called ext) {error : PlainError}
    (refused : shown ext s simulationId now = .error error) : error.kind = .simulationNotFound := by
  obtain ⟨view, viewed⟩ := @detailed ext s simulationId now lawful called
  unfold shown at refused
  rw [viewed] at refused
  cases view with
  | none =>
    cases refused
    rfl
  | some view => cases refused

theorem compared_error (lawful : ext.Lawful) (called : s.Called ext) {command : CompareSimulationsCommand}
    {leftAt rightAt : DateTime} {error : PlainError} (refused : compared ext s command leftAt rightAt = .error error) :
    error.kind = .invalidRequest ∨ error.kind = .simulationNotFound ∨ error.kind = .incompatibleSimulations := by
  unfold compared at refused
  split at refused
  · cases refused
    exact .inl rfl
  · rcases except_bind_error.mp refused with missing | ⟨left, -, refused⟩
    · exact .inr (.inl (called.shown_error lawful missing))
    rcases except_bind_error.mp refused with missing | ⟨right, -, refused⟩
    · exact .inr (.inl (called.shown_error lawful missing))
    exact .inr (.inr (compareViews_error refused))

theorem listed (lawful : ext.Lawful) (called : s.Called ext) (limit : Nat) (clock : Nat → DateTime) :
    ∃ views, listSimulations ext limit clock s = stay (.ok views) s ∧
      views.length = (s.simulationRecords.reverse.take limit).length ∧
      ∀ i (listed : i < (s.simulationRecords.reverse.take limit).length) (also : i < views.length),
        simulationView ext (s.simulationRecords.reverse.take limit)[i] (clock i) = .ok views[i] := by
  have viewable (record : SimulationRecord) (stored : record ∈ s.simulationRecords) := called.viewable lawful stored
  have every : s.simulationRecords.reverse.filter (fun record => !record.canonicalInput.isNull) =
      s.simulationRecords.reverse := by
    apply List.filter_eq_self.mpr
    intro record member
    rw [(viewable record (List.mem_reverse.mp member)).1]
    rfl
  have recent : SimulationService.stored (ReplayStorage.recentReplayableSimulationsV2 limit) s =
      stay (.ok (s.simulationRecords.reverse.take limit)) s := by
    show EStateM.Result.ok ((s.simulationRecords.reverse.filter _).take limit) s = _
    rw [every]
    rfl
  have newest (record : SimulationRecord) (member : record ∈ s.simulationRecords.reverse.take limit) :=
    viewable record (List.mem_reverse.mp (List.mem_of_mem_take member))
  obtain ⟨views, viewed, counted, each⟩ := @viewsFrom_total ext clock _
    (fun record member now => ((newest record member).2.2 now).imp fun _ both => both.1) 0
  simp only [Nat.zero_add] at each
  refine ⟨views, ?_, counted, each⟩
  rw [← viewed]
  exact bind_stay recent fun records => ofExcept_stay _ s

end MemoryStorage.Called

open MemoryStorage

/-- Over the simulations that the service stored its reads never fail: the listing has the newest ones, each as
    its detail shows it at the same time, and a comparison neither changes the store nor fails for what is stored. -/
theorem stored_simulations_readable {ext : SimulationExternal} (lawful : ext.Lawful) {s : MemoryStorage}
    (called : s.Called ext) :
    (∀ limit clock, ∃ views, listSimulations ext limit clock s = .ok views s ∧
      views.map (·.id) = (s.simulationRecords.reverse.take limit).map (·.id) ∧
      ∀ i (listed : i < views.length), getSimulation ext views[i].id (clock i) s = .ok (some views[i]) s) ∧
    ∀ command leftAt rightAt, final (compareSimulations ext command leftAt rightAt) s = s ∧
      ∀ error, value (compareSimulations ext command leftAt rightAt) s = .error error → error.kind ≠ .storage := by
  constructor
  · intro limit clock
    obtain ⟨views, lists, counted, each⟩ := called.listed lawful limit clock
    refine ⟨views, lists, List.ext_getElem (by simp [counted]) fun i below also => ?_, fun i below => ?_⟩
    · simp only [List.getElem_map]
      exact simulationView_id (each i (by simpa using also) (by simpa using below))
    · have shows := each i (counted ▸ below) below
      have named := simulationView_id shows
      have member : (s.simulationRecords.reverse.take limit)[i] ∈ s.simulationRecords :=
        List.mem_reverse.mp (List.mem_of_mem_take (List.getElem_mem (counted ▸ below)))
      obtain ⟨-, found, -⟩ := called.viewable lawful member
      rw [getSimulation_eq, named, found]
      show stay ((simulationView ext _ _).map some) s = _
      rw [shows]
      rfl
  · intro command leftAt rightAt
    refine ⟨final_compareSimulations command leftAt rightAt, fun error ran storage => ?_⟩
    rw [value_compareSimulations] at ran
    have kinds := called.compared_error lawful ran
    rw [storage] at kinds
    rcases kinds with invalid | missing | incompatible
    · cases invalid
    · cases missing
    · cases incompatible

/-- A simulated rebalance, listed and shown a minute later. -/
theorem stored_simulations_readable_rebalance :
    let service := Rebalance.service "full" "drained"
    let s := final ((Rebalance.call "full" "drained" Rebalance.late "first").run service)
      (Rebalance.store "full" "drained")
    ∃ view, listSimulations service 10 (fun _ => Rebalance.late) s = .ok [view] s ∧
      getSimulation service "first" Rebalance.late s = .ok (some view) s := by
  intro service s
  have called : s.Called service := .call _ (by decide) (.blank rfl)
  have ids : s.simulationRecords.map (·.id) = ["first"] := by decide +kernel
  obtain ⟨views, listed, named, each⟩ := (stored_simulations_readable (Rebalance.service_lawful "full" "drained") called).1
    10 fun _ => Rebalance.late
  rw [List.map_take, List.map_reverse, ids] at named
  obtain ⟨view, rfl, id⟩ := List.map_eq_singleton_iff.mp (named.trans (by decide : _ = ["first"]))
  have shows := each 0 Nat.zero_lt_one
  rw [List.getElem_cons_zero, id] at shows
  exact ⟨view, listed, shows⟩

end Rieko
