import Rieko.Api.Server
import Rieko.Api.SimulationReads

namespace Rieko

open Observation SimulationService StatefulResult

namespace Api

def Answers {σ α : Type} (fine : Reply → Prop) (s : σ) (program : EStateM Reply σ α) : Prop :=
  ∃ result, program s = stay result s ∧ ∀ refusal, result = .error refusal → fine refusal

namespace Answers

variable {σ ε α β : Type} {fine : Reply → Prop} {s : σ} {busy : Bool} {program : EStateM Reply σ α}

theorem bind {next : α → EStateM Reply σ β} (first : Answers fine s program) (rest : ∀ a, Answers fine s (next a)) :
    Answers fine s (program >>= next) := by
  obtain ⟨result, answers, refuses⟩ := first
  cases result with
  | error refusal =>
    exact ⟨.error refusal, bind_of_error answers next, fun other same => by cases same; exact refuses _ rfl⟩
  | ok a =>
    obtain ⟨result, later, refuses⟩ := rest a
    exact ⟨result, (bind_of_ok answers next).trans later, refuses⟩

theorem pure (a : α) : Answers fine s (Pure.pure a) := ⟨.ok a, rfl, fun _ same => by cases same⟩

theorem map (f : α → β) (answers : Answers fine s program) : Answers fine s (f <$> program) := by
  rw [map_eq_pure_bind]
  exact answers.bind fun a => pure (f a)

theorem ofExcept {answer : Except Reply α} (refuses : ∀ refusal, answer = .error refusal → fine refusal) :
    Answers fine s (MonadExcept.ofExcept answer) := ⟨answer, ofExcept_stay answer s, refuses⟩

theorem extract (bad : ∀ message, fine ⟨400, .text message⟩) (parsed : Except String α) :
    Answers fine s (extract parsed) := by
  refine ofExcept fun refusal refused => ?_
  obtain ⟨message, -, rfl⟩ := mapError_error.mp refused
  exact bad message

theorem blockStorage {message : ε → String} {f : EStateM ε σ α}
    (locked : busy = true → fine ⟨408, .text "storage is busy"⟩)
    (read : ∃ a, f s = .ok a s) : Answers fine s ((blockStorage message busy f).adaptExcept textReply) := by
  obtain ⟨a, read⟩ := read
  cases busy with
  | true => exact ⟨.error ⟨408, .text "storage is busy"⟩, rfl, fun _ same => by cases same; exact locked rfl⟩
  | false => exact ⟨.ok a, adapt_of_ok (adapt_of_ok read), fun _ same => by cases same⟩

theorem simulationQuery {f : EStateM PlainError σ α} {result : Except PlainError α}
    (locked : busy = true → fine (blockingSimulationError (408, "storage is busy"))) (read : f s = stay result s)
    (refuses : ∀ error, result = .error error →
      fine (simulationErrorResponse (simulationErrorStatus error.kind) error.widen)) :
    Answers fine s (simulationQuery busy f) := by
  cases busy with
  | true => exact ⟨.error _, rfl, fun _ same => by cases same; exact locked rfl⟩
  | false =>
    cases result with
    | ok a => exact ⟨.ok a, adapt_of_ok read, fun _ same => by cases same⟩
    | error error => exact ⟨.error _, adapt_of_error read, fun _ same => by cases same; exact refuses error rfl⟩

end Answers

section Queries

variable (ext : ApiExternal) (config : ApiConfig) (draws : RequestDraws) {s : MemoryStorage}

/-- A refusal that is no failure of the server, over simulations that it stored itself and with a storage that lets the
    request in. -/
def Fine (s : MemoryStorage) (refusal : Reply) : Prop :=
  ext.simulation.Lawful → s.Called ext.simulation → draws.busy = false →
    (∀ request status message, ext.compareCommand request = .error (status, message) → status < 500) →
    refusal.status < 500

variable {ext config draws}

theorem Fine.of_below {refusal : Reply} (below : refusal.status < 500) : Fine ext draws s refusal :=
  fun _ _ _ _ => below

theorem Fine.of_busy {refusal : Reply} (busy : draws.busy = true) : Fine ext draws s refusal := by
  intro _ _ free
  rw [busy] at free
  cases free

theorem fine_text (message : String) : Fine ext draws s ⟨400, .text message⟩ :=
  .of_below (by decide : (400 : Nat) < 500)

theorem asking_answers {α : Type} {f : StorageM α} (read : ∃ a, f s = .ok a s) :
    Answers (Fine ext draws s) s (asking draws.busy f) := .blockStorage .of_busy read

theorem operationalState_answers : Answers (Fine ext draws s) s (status.operationalState draws) :=
  .blockStorage .of_busy ⟨_, rfl⟩

theorem lifecycle_answers (q : LimitQuery) :
    Answers (Fine ext draws s) s (ofExcept (lifecycle q) : EStateM Reply MemoryStorage FindingLifecycleFilter) := by
  refine .ofExcept fun refusal refused => ?_
  unfold lifecycle at refused
  split at refused <;> cases refused
  exact fine_text _

theorem found_answers {α : Type} (value : Option α) (missing : Reply) (notFound : missing.status = 404) :
    Answers (Fine ext draws s) s (ofExcept (okOr value missing) : EStateM Reply MemoryStorage α) := by
  refine .ofExcept fun refusal refused => ?_
  cases value with
  | some a => cases refused
  | none =>
    cases refused
    exact .of_below (by rw [notFound]; decide)

theorem simulationQuery_answers {α : Type} {f : EStateM PlainError MemoryStorage α} {answer : Except PlainError α}
    (read : f s = stay answer s)
    (below : ext.simulation.Lawful → s.Called ext.simulation → ∀ error, answer = .error error →
      simulationErrorStatus error.kind < 500) : Answers (Fine ext draws s) s (simulationQuery draws.busy f) :=
  .simulationQuery .of_busy read fun error refused lawful called _ _ => below lawful called error refused

theorem simulationViews_answers (q : LimitQuery) : Answers (Fine ext draws s) s (simulationViews ext draws q) := by
  have recent : stored (ReplayStorage.recentReplayableSimulationsV2 q.rows) s = stay (.ok _) s := rfl
  have read : listSimulations ext.simulation q.rows draws.clock s = stay _ s :=
    bind_stay recent fun records => ofExcept_stay (viewsFrom ext.simulation draws.clock 0 records) s
  refine simulationQuery_answers read fun lawful called error refused => ?_
  obtain ⟨views, listed, -⟩ := called.listed lawful q.rows draws.clock
  rw [read] at listed
  rw [refused] at listed
  cases listed

theorem simulationViewById_answers (simulationId : String) :
    Answers (Fine ext draws s) s (simulationViewById ext draws simulationId) := by
  refine (simulationQuery_answers getSimulation_eq fun lawful called error refused => ?_).bind fun view =>
    found_answers view _ rfl
  obtain ⟨view, viewed⟩ := @MemoryStorage.Called.detailed _ s simulationId (draws.clock 0) lawful called
  rw [viewed] at refused
  cases refused

theorem compareSimulationsV2_answers (request : HttpRequest) :
    Answers (Fine ext draws s) s (compareSimulationsV2 ext draws request) := by
  refine .bind (.ofExcept fun refusal refused => ?_) fun command => ?_
  · obtain ⟨⟨status, message⟩, rejected, rfl⟩ := mapError_error.mp refused
    exact fun _ _ _ rejects => rejects request status message rejected
  · refine simulationQuery_answers compareSimulations_eq fun lawful called error refused => ?_
    rcases called.compared_error lawful refused with kind | kind | kind <;> rw [kind] <;> decide

theorem reply_answers (request : HttpRequest) (parameters : List String) (query : Query) :
    Answers (Fine ext draws s) s (reply ext config draws request parameters query) := by
  have parameter : Answers (Fine ext draws s) s (reply.parameter ext parameters) := .extract fine_text _
  have limits : Answers (Fine ext draws s) s (reply.limitQuery ext request) := .extract fine_text _
  have operational := @operationalState_answers ext draws s
  cases query with
  | status =>
    have version := @asking_answers ext draws s _ ApiStorage.schemaVersion ⟨_, rfl⟩
    have integrity := @asking_answers ext draws s _ (attempt ApiStorage.integrityCheck) ⟨_, rfl⟩
    have counts := @asking_answers ext draws s _ ApiStorage.counts ⟨_, rfl⟩
    exact .map _ (version.bind fun _ => integrity.bind fun _ => counts.bind fun _ => operational.bind fun _ => .pure _)
  | inspectLightning | inspectBitcoin | inspectBtcpay => exact .map _ (operational.bind fun _ => .pure _)
  | findings => exact limits.bind fun q => .map _ ((lifecycle_answers q).bind fun _ => asking_answers ⟨_, rfl⟩)
  | findingsForChannel =>
    exact parameter.bind fun _ => limits.bind fun q =>
      .map _ ((lifecycle_answers q).bind fun _ => asking_answers ⟨_, rfl⟩)
  | findingById =>
    refine parameter.bind fun findingId => .map _ (.bind ?_ fun finding => found_answers finding _ rfl)
    exact asking_answers ⟨_, rfl⟩
  | recommendations =>
    refine limits.bind fun q => .map _ (asking_answers ?_)
    split <;> exact ⟨_, rfl⟩
  | audit | allSnapshots | recentSimulations => exact limits.bind fun _ => .map _ (asking_answers ⟨_, rfl⟩)
  | channelSnapshots =>
    refine parameter.bind fun channelId => (Answers.extract fine_text _).bind fun q => .map _ ?_
    unfold channelSnapshots
    split
    · exact ⟨.error _, rfl, fun _ same => by cases same; exact fine_text _⟩
    · refine asking_answers ?_
      cases q.network <;> exact ⟨_, rfl⟩
  | recentSimulationsV2 =>
    refine limits.bind fun q => .map _ (.bind ?_ fun _ => .pure _)
    exact asking_answers ⟨_, rfl⟩
  | simulationV2ById =>
    refine parameter.bind fun simulationId => .map _ (.bind ?_ fun record =>
      (found_answers record _ rfl).bind fun _ => .pure _)
    exact asking_answers ⟨_, rfl⟩
  | simulationViews => exact limits.bind fun q => .map _ (simulationViews_answers q)
  | simulationViewById => exact parameter.bind fun simulationId => .map _ (simulationViewById_answers simulationId)
  | simulationReportById =>
    exact parameter.bind fun simulationId => .map _ ((simulationViewById_answers simulationId).bind fun _ => .pure _)
  | compareSimulationsV2 => exact .map _ (compareSimulationsV2_answers request)

end Queries

/-- What one event can make of a store in memory. -/
inductive StoreMove (ext : ApiExternal) (s : MemoryStorage) : ServerEvent MemoryStorage → MemoryStorage → Prop where
  | stays {event : ServerEvent MemoryStorage} : StoreMove ext s event s
  | creates (request : HttpRequest) (draws : RequestDraws) (command : CreateSimulationCommand) :
      StoreMove ext s (.arrives request draws) (final (SimulationCall.run ext.simulation ⟨command, draws.simulation⟩) s)
  | enqueues {event : ServerEvent MemoryStorage} (deliveryId webhookId eventType : String) (accepted : NodeEvent)
      (acceptedAt : DateTime) : StoreMove ext s event
        (final (MemoryStorage.enqueueWebhookEvent deliveryId (some webhookId) (some eventType) accepted acceptedAt) s)
  | changes (change : MemoryStorage → MemoryStorage) : StoreMove ext s (.meanwhile change) (change s)

section Moves

variable {ext : ApiExternal} {config : ApiConfig} {draws : RequestDraws} {request : HttpRequest}
  {server : Server MemoryStorage}

theorem createSimulationV2_moves (rate : AppState) (s : MemoryStorage) :
    StoreMove ext s (.arrives request draws) (createSimulationV2 ext draws request rate s).2.2 := by
  unfold createSimulationV2
  cases AppState.checkSimulationRate draws.instant rate with
  | mk limited rate =>
    cases limited with
    | refused status message => exact .stays
    | passed =>
      cases readSimulationJson ext draws request with
      | error reply => exact .stays
      | ok command =>
        cases busy : draws.busy with
        | true => exact .stays
        | false =>
          have moves := @StoreMove.creates ext s request draws command
          unfold final at moves
          dsimp only [Bool.false_eq_true, if_false]
          cases ran : SimulationCall.run ext.simulation ⟨command, draws.simulation⟩ s with
          | ok outcome s' =>
            rw [ran] at moves
            exact moves
          | error stopped s' =>
            rw [ran] at moves
            cases stopped <;> exact moves

theorem receive_stays (webhook : WebhookRequest) (s : MemoryStorage) :
    (WebhookHandler.ready.receive webhook s).2 = s := by
  unfold WebhookHandler.receive
  dsimp only
  cases webhook.identify with
  | error answer => rfl
  | ok named =>
    have known : Storage.isWebhookDeliveryProcessed named.1 s = .ok (s.webhookDeliveries.lookup named.1).isSome s := rfl
    dsimp only
    rw [known]
    cases (s.webhookDeliveries.lookup named.1).isSome <;> rfl

theorem handle_moves (endpoint : Endpoint) (parameters : List String) :
    StoreMove ext server.store (.arrives request draws)
      (handle ext config draws request endpoint parameters server).2.store := by
  cases endpoint with
  | query query =>
    obtain ⟨result, answers, -⟩ :=
      @reply_answers ext config draws server.store request parameters query
    have same : (ran (reply ext config draws request parameters query server.store)).2 = server.store := by
      rw [answers]
      cases result <;> rfl
    show StoreMove ext server.store _ (ran (reply ext config draws request parameters query server.store)).2
    rw [same]
    exact .stays
  | createSimulationV2 => exact createSimulationV2_moves server.rate server.store
  | btcpayWebhook =>
    have same := receive_stays (webhookRequest ext config request) server.store
    unfold handle
    dsimp only
    split
    · exact .stays
    · split
      next answered =>
        rw [answered] at same
        dsimp only at same ⊢
        rw [same]
        exact .stays
      next answered =>
        rw [answered] at same
        dsimp only at same ⊢
        rw [same]
        exact .stays

theorem accept_moves (event : ServerEvent MemoryStorage) (waiting : Waiting) :
    StoreMove ext server.store event (resume ext draws waiting server).2.store := by
  have moves : StoreMove ext server.store event (waiting.handler.accept ext.simulation.toExternal waiting.webhook
      (draws.clock 0) (draws.clock 1) draws.busy server.store).2 := by
    unfold WebhookHandler.accept
    split
    next deliveryId envelope checked =>
      split
      · exact .stays
      · split
        · exact .stays
        · exact .enqueues deliveryId envelope.webhookId envelope.eventType _ (draws.clock 1)
    next => exact .stays
  unfold resume
  dsimp only
  split <;> exact moves

theorem serve_moves (event : ServerEvent MemoryStorage) :
    StoreMove ext server.store event (serve ext config event server).2.store := by
  have late {event : ServerEvent MemoryStorage} {request : HttpRequest} {draws : RequestDraws}
      {result : Option Response × Server MemoryStorage} {before : Server MemoryStorage}
      (same : before.store = server.store) (moves : StoreMove ext server.store event result.2.store) :
      StoreMove ext server.store event (timed draws request before result).2.store := by
    unfold timed
    split
    · exact moves
    · split
      · exact moves
      · show StoreMove ext server.store event before.store
        rw [same]
        exact .stays
      · exact moves
  cases event with
  | arrives request draws =>
    refine late rfl ?_
    unfold arrive
    split
    · exact .stays
    · show StoreMove ext server.store _ (dispatch ext config draws request server).2.store
      unfold dispatch
      split
      · exact .stays
      · exact .stays
      · split
        · exact handle_moves _ _
        · exact .stays
  | resumes index draws =>
    unfold serve
    dsimp only
    split
    · exact .stays
    next waiting found =>
      exact late rfl (@accept_moves ext draws { server with waiting := server.waiting.eraseIdx index } _ waiting)
  | meanwhile change => exact .changes change

end Moves

end Api

/-- The second state has what the API may not write as the first has it, and all of what it may only add to. -/
structure MemoryStorageState.Within (base s : MemoryStorageState) : Prop where
  findings : s.findings = base.findings
  recommendations : s.recommendations = base.recommendations
  audit : s.audit = base.audit
  channelSnapshots : s.channelSnapshots = base.channelSnapshots
  simulations : s.simulations = base.simulations
  alertState : s.alertState = base.alertState
  operationalState : s.operationalState = base.operationalState
  simulationRecords : base.simulationRecords <+: s.simulationRecords
  simulationEvents : base.simulationEvents <+: s.simulationEvents
  webhookDeliveries : ∀ id delivery, base.webhookDeliveries.lookup id = some delivery →
    s.webhookDeliveries.lookup id = some delivery
  webhookEvents : ∀ id record, base.webhookEvents.lookup id = some record → s.webhookEvents.lookup id = some record

namespace MemoryStorage

structure Extends (start s : MemoryStorage) : Prop where
  current : start.snapshot.Within s.snapshot
  saved : ∀ saved, s.transactionSnapshot = some saved → start.snapshot.Within saved
  absent : s.findingAbsent = start.findingAbsent

variable {start s s' : MemoryStorage}

theorem Extends.refl (idle : s.transactionSnapshot = none) : s.Extends s where
  current := ⟨rfl, rfl, rfl, rfl, rfl, rfl, rfl, List.prefix_refl _, List.prefix_refl _, fun _ _ => id, fun _ _ => id⟩
  saved saved begun := by
    rw [idle] at begun
    cases begun
  absent := rfl

theorem insert_keeps {α : Type} {entries : HashMap α} {key id : String} {value stored : α}
    (found : entries.lookup id = some stored) :
    (if key ∈ entries then entries else entries.insert key value).lookup id = some stored := by
  split
  · exact found
  next unknown =>
    have other : id ≠ key := by
      rintro rfl
      exact unknown (AList.lookup_isSome.mp (by rw [found]; rfl))
    rw [AList.lookup_insert_ne other]
    exact found

theorem Extends.enqueued (held : start.Extends s) (deliveryId : String) (webhookId eventType : Option String)
    (event : NodeEvent) (acceptedAt : DateTime) :
    start.Extends (final (enqueueWebhookEvent deliveryId webhookId eventType event acceptedAt) s) where
  current := { held.current with
    webhookDeliveries := fun id delivery stored => insert_keeps (held.current.webhookDeliveries id delivery stored)
    webhookEvents := fun id record stored => insert_keeps (held.current.webhookEvents id record stored) }
  saved := held.saved
  absent := held.absent

theorem extends_callsKeep : SimulationService.CallsKeep start.Extends where
  beginTransaction s held := by
    show start.Extends (final beginTransaction s)
    unfold final beginTransaction
    cases begun : s.transactionSnapshot with
    | some saved => exact held
    | none => exact ⟨held.current, fun saved same => by cases same; exact held.current, held.absent⟩
  commitTransaction s held := by
    show start.Extends (final commitTransaction s)
    unfold final commitTransaction
    cases begun : s.transactionSnapshot with
    | none => exact held
    | some saved => exact ⟨held.current, (fun _ same => nomatch same), held.absent⟩
  rollbackTransaction s held := by
    show start.Extends (final rollbackTransaction s)
    unfold final rollbackTransaction
    cases begun : s.transactionSnapshot with
    | none => exact held
    | some saved => exact ⟨held.saved saved begun, (fun _ same => nomatch same), held.absent⟩
  recommendationForAction _ := fun _ held => held
  findingById _ := fun _ held => held
  channelSnapshotAt _ _ _ _ := fun _ held => held
  simulationV2ByInputHash _ := fun _ held => held
  saveSimulationV2 record _ := fun s held => by
    show start.Extends (final (saveSimulationV2 record) s)
    unfold final
    cases ended : saveSimulationV2 record s with
    | error e s' =>
      rw [saveSimulationV2_error ended]
      exact held
    | ok u s' =>
      unfold saveSimulationV2 at ended
      split at ended <;> split at ended <;> cases ended
      · exact held
      · have grown := held.current.simulationRecords.trans (List.prefix_append _ [record])
        exact ⟨{ held.current with simulationRecords := grown }, held.saved, held.absent⟩
  appendSimulationEvent event := fun s held => by
    show start.Extends (final (appendSimulationEvent event) s)
    unfold final appendSimulationEvent
    by_cases duplicate : s.simulationEvents.any (·.id = event.id)
    · rw [if_pos duplicate]
      exact held
    · rw [if_neg duplicate]
      have grown := held.current.simulationEvents.trans (List.prefix_append _ [event])
      exact ⟨{ held.current with simulationEvents := grown }, held.saved, held.absent⟩

end MemoryStorage

namespace Api.StoreMove

variable {ext : ApiExternal} {start s s' : MemoryStorage} {event : ServerEvent MemoryStorage}

theorem extended (moves : StoreMove ext s event s') (request : ∀ change, event ≠ .meanwhile change)
    (held : start.Extends s) : start.Extends s' := by
  cases moves with
  | stays => exact held
  | creates request draws command => exact run_confined MemoryStorage.extends_callsKeep _ _ s held
  | enqueues deliveryId webhookId eventType accepted acceptedAt => exact held.enqueued _ _ _ _ _
  | changes change => exact absurd rfl (request change)

/-- An event after which all simulations of a store are still of the service: a request not before the epoch, or
    somebody else's change that adds none. -/
def Minds : ServerEvent MemoryStorage → Prop
  | .arrives _ draws => 0 ≤ draws.simulation.requestedAt
  | .resumes .. => True
  | .meanwhile change => ∀ s, (change s).heldSimulations ⊆ s.heldSimulations

theorem called (moves : StoreMove ext s event s') (minds : Minds event) (called : s.Called ext.simulation) :
    s'.Called ext.simulation := by
  cases moves with
  | stays => exact called
  | creates request draws command => exact .call _ minds called
  | enqueues deliveryId webhookId eventType accepted acceptedAt => exact .other called (List.Subset.refl _)
  | changes change => exact .other called (minds s)

end Api.StoreMove

namespace Api

variable {ext : ApiExternal} {config : ApiConfig} {draws : RequestDraws} {server : Server MemoryStorage}

theorem handle_query (lawful : ext.simulation.Lawful) (called : server.store.Called ext.simulation)
    (free : draws.busy = false)
    (rejects : ∀ request status message, ext.compareCommand request = .error (status, message) → status < 500)
    (request : HttpRequest) (parameters : List String) (query : Query) :
    ∃ reply, handle ext config draws request (.query query) parameters server = (some reply, server) ∧
      reply.status < 500 := by
  obtain ⟨result, answers, fine⟩ := @reply_answers ext config draws server.store request parameters query
  have handles : handle ext config draws request (.query query) parameters server =
      (some (ran (stay result server.store)).1, { server with store := (ran (stay result server.store)).2 }) := by
    rw [← answers]
    rfl
  rw [handles]
  cases result with
  | ok body => exact ⟨_, rfl, (by decide : (200 : Nat) < 500)⟩
  | error refusal => exact ⟨_, rfl, fine refusal rfl lawful called free rejects⟩

theorem headed_status (request : HttpRequest) (reply : Reply) : (headed request reply).status = reply.status := by
  unfold headed
  split <;> rfl

theorem timed_inTime {request : HttpRequest} {before : Server MemoryStorage}
    {result : Option Response × Server MemoryStorage} (inTime : draws.lateness = .inTime) :
    timed draws request before result = result := by
  unfold timed
  rw [inTime, ite_self]

end Api

open Api

/-- Whatever requests come, and however the webhooks among them go on between the others: findings,
    recommendations, the audit log, snapshots and the states of alerts and operations stay as they are, and of the
    simulations, their events and the webhook deliveries nothing is lost or changed. -/
theorem requests_confined {ext : ApiExternal} {config : ApiConfig} {server : Server MemoryStorage}
    (idle : server.store.transactionSnapshot = none) {events : List (ServerEvent MemoryStorage)}
    (requests : ∀ event ∈ events, ∀ change, event ≠ .meanwhile change) :
    server.store.snapshot.Within (after (serve ext config) events server).store.snapshot ∧
      (after (serve ext config) events server).store.findingAbsent = server.store.findingAbsent := by
  have extended {current : Server MemoryStorage} (held : server.store.Extends current.store) :
      server.store.Extends (after (serve ext config) events current).store := by
    induction events generalizing current with
    | nil => exact held
    | cons event events ih =>
      exact ih (fun later member => requests later (List.mem_cons_of_mem _ member))
        ((serve_moves event).extended (requests event List.mem_cons_self) held)
  have held := extended (.refl idle)
  exact ⟨held.current, held.absent⟩

/-- A rebalance is simulated, then the findings are asked for. -/
theorem requests_confined_rebalance :
    let server : Server MemoryStorage := { store := Rebalance.store "full" "drained" }
    let findings : HttpRequest := ⟨.get, "/findings", "limit=50", [("authorization", Identity.utf8 "Bearer secret")], []⟩
    let events := [.arrives Rebalance.createRequest Rebalance.draws, .arrives findings Rebalance.draws]
    let reached := after (serve Rebalance.api Rebalance.apiConfig) events server
    server.store.snapshot.Within reached.store.snapshot ∧ reached.store.simulationRecords.length = 1 := by
  intro server findings events reached
  have requests : ∀ event ∈ events, ∀ change, event ≠ .meanwhile change := by
    intro event member change
    simp only [events, List.mem_cons, List.not_mem_nil, or_false] at member
    rcases member with rfl | rfl <;> exact fun same => nomatch same
  have idle : server.store.transactionSnapshot = none := rfl
  exact ⟨(requests_confined idle requests).1, by decide +kernel⟩

/-- A server over a store whose simulations are its own fails no query: at the end of every run, each request for one
    that is let to the storage in time is answered below 500 and leaves the server as it is. -/
theorem queries_served {ext : ApiExternal} {config : ApiConfig} (lawful : ext.simulation.Lawful)
    (rejects : ∀ request status message, ext.compareCommand request = .error (status, message) → status < 500)
    {server : Server MemoryStorage} (called : server.store.Called ext.simulation)
    {events : List (ServerEvent MemoryStorage)} (minds : ∀ event ∈ events, StoreMove.Minds event)
    {request : HttpRequest} {draws : RequestDraws} {query : Query} {parameters : List String}
    (asks : routed (routes config) request.method request.path = .handled (.query query) parameters)
    (free : draws.busy = false) (inTime : draws.lateness = .inTime) :
    let reached := after (serve ext config) events server
    ∃ response, serve ext config (.arrives request draws) reached = (some response, reached) ∧
      response.status < 500 := by
  intro reached
  have stays {current : Server MemoryStorage} (called : current.store.Called ext.simulation) :
      (after (serve ext config) events current).store.Called ext.simulation := by
    induction events generalizing current with
    | nil => exact called
    | cons event events ih =>
      exact ih (fun later member => minds later (List.mem_cons_of_mem _ member))
        ((serve_moves event).called (minds event List.mem_cons_self) called)
  obtain ⟨reply, handled, below⟩ :=
    @handle_query ext config draws reached lawful (stays called) free rejects request parameters query
  have dispatched : ∃ reply, dispatch ext config draws request reached = (some reply, reached) ∧
      reply.status < 500 := by
    unfold dispatch
    rw [asks]
    dsimp only
    cases requireAuth config.authToken request with
    | false =>
      refine ⟨_, rfl, ?_⟩
      rw [headed_status]
      decide
    | true =>
      rw [handled]
      exact ⟨_, rfl, by rw [headed_status]; exact below⟩
  obtain ⟨reply, dispatched, below⟩ := dispatched
  show ∃ _, timed draws request reached (arrive ext config draws request reached) = _ ∧ _
  rw [timed_inTime inTime]
  unfold arrive
  cases declaresTooMuch request with
  | true => exact ⟨tooLarge, rfl, by decide⟩
  | false => exact ⟨secured request reply, by rw [dispatched]; rfl, below⟩

/-- The simulation that was just created is asked for. -/
theorem queries_served_rebalance :
    let server : Server MemoryStorage := { store := Rebalance.store "full" "drained" }
    let request : HttpRequest :=
      ⟨.get, "/api/v2/simulations/first", "", [("authorization", Identity.utf8 "Bearer secret")], []⟩
    let reached :=
      after (serve Rebalance.api Rebalance.apiConfig) [.arrives Rebalance.createRequest Rebalance.draws] server
    ∃ response, serve Rebalance.api Rebalance.apiConfig (.arrives request Rebalance.draws) reached =
      (some response, reached) ∧
      response.status < 500 := by
  intro server request reached
  refine queries_served (Rebalance.service_lawful "full" "drained") ?_ (.blank rfl) ?_
    (by decide : routed _ _ _ = .handled (.query .simulationViewById) ["first"]) rfl rfl
  · intro request status message rejected
    cases rejected
    decide
  · intro event member
    rw [List.mem_singleton.mp member]
    exact (by decide : (0 : Int) ≤ Rebalance.late)

end Rieko
