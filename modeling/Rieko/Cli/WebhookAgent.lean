import Rieko.Api.Webhook
import Rieko.Cli.WebhookWorker
import Rieko.Lib.Transition
import Rieko.Storage.SqliteQueue

namespace Rieko

open StatefulResult Transition

structure AgentSettings where
  env : CycleEnv
  network : BitcoinNetwork
  node : String
  requests : Nat → WebhookRequest

/-- An agent with any number of workers. `committed` logs the events whose detector cycle was committed. -/
structure WebhookAgent (σ ι : Type) where
  world : World σ
  handlers : Nat → WebhookHandler := fun _ => .ready
  workers : ι → WebhookWorker := fun _ => .starting
  committed : List WebhookEventRecord := []

inductive AgentAction (ι : Type) where
  | receive (request : Nat)
  | accept (request : Nat) (now acceptedAt : DateTime) (busy : Bool)
  | work (worker : ι)
  | wake (worker : ι) (closed : Bool)
  | runOperationalCycle (cycle : DetectorCycle)

/-- One action, possibly the one in which the process dies, or a death between two actions. After a death the
    agent starts again. -/
inductive AgentTick (ι : Type) where
  | acts (action : AgentAction ι)
  | diesAt (statement : Nat) (action : AgentAction ι)
  | dies

namespace WebhookAgent

variable {σ ι : Type} [Storage σ] [Durable σ] [DecidableEq ι]

def start (storage : σ) : WebhookAgent σ ι where
  world := { storage }

def withHandler (s : WebhookAgent σ ι) (request : Nat) (result : WebhookHandler × σ) : WebhookAgent σ ι :=
  { s with
    world := { s.world with storage := result.2 }
    handlers := Function.update s.handlers request result.1 }

def withOutcome (s : WebhookAgent σ ι) (worker : ι) (outcome : WebhookWorker.Outcome σ) : WebhookAgent σ ι :=
  { s with
    world := outcome.world
    workers := Function.update s.workers worker outcome.worker
    committed := s.committed ++ outcome.committed.toList }

def act (settings : AgentSettings) (s : WebhookAgent σ ι) : AgentAction ι → WebhookAgent σ ι
  | .receive n => s.withHandler n ((s.handlers n).receive (settings.requests n) s.world.storage)
  | .accept n now acceptedAt busy => s.withHandler n
      ((s.handlers n).accept settings.env.ext (settings.requests n) now acceptedAt busy s.world.storage)
  | .work i => s.withOutcome i ((s.workers i).step settings.env settings.network settings.node s.world)
  | .wake i closed => { s with workers := Function.update s.workers i ((s.workers i).wake closed) }
  | .runOperationalCycle cycle =>
    { s with world := final (persistOperationalDetectorCycle settings.env cycle) s.world }

def reborn (before after : WebhookAgent σ ι) : WebhookAgent σ ι where
  world := { after.world with storage := Durable.reopened before.world.storage after.world.storage }
  handlers n := (before.handlers n).afterDeath (after.handlers n)
  committed := after.committed

def dying (statement : Nat) (s : WebhookAgent σ ι) : WebhookAgent σ ι :=
  { s with world := { s.world with storage := Durable.dying statement s.world.storage } }

def next (settings : AgentSettings) (s : WebhookAgent σ ι) : AgentTick ι → WebhookAgent σ ι
  | .acts action => s.act settings action
  | .diesAt statement action => s.reborn ((s.dying statement).act settings action)
  | .dies => s.reborn s

end WebhookAgent

/-- The event of a delivery is what one of the requests that carry its id was normalized to. -/
def AgentSettings.Originates (settings : AgentSettings) (record : WebhookEventRecord) : Prop :=
  ∃ n envelope now, (settings.requests n).identify = .ok (record.deliveryId, envelope) ∧
    normalizeWebhookPayload settings.env.ext now (settings.requests n).body = .ok record.event

inductive QueueMove (settings : AgentSettings) (markable : WebhookEventRecord → Prop) (queue : WebhookQueue)
    (committed : List WebhookEventRecord) : WebhookQueue → List WebhookEventRecord → Prop where
  | stays : QueueMove settings markable queue committed queue committed
  | accepts (record : WebhookEventRecord) (origin : settings.Originates record)
      (pending : record.processedAt = none) :
      QueueMove settings markable queue committed (queue.accept record) committed
  | settles (record stored : WebhookEventRecord) (processedAt : DateTime) (member : stored ∈ queue.events)
      (named : stored.deliveryId = record.deliveryId) (allowed : markable stored) :
      QueueMove settings markable queue committed (queue.settle record.deliveryId processedAt) (committed ++ [record])

namespace QueueMove

variable {settings : AgentSettings} {markable : WebhookEventRecord → Prop} {queue queue' : WebhookQueue}
  {committed committed' : List WebhookEventRecord}

theorem consistent (move : QueueMove settings markable queue committed queue' committed')
    (held : queue.Consistent) : queue'.Consistent := by
  cases move with
  | stays => exact held
  | accepts record => exact held.accept record
  | settles record stored processedAt => exact held.settle record.deliveryId processedAt

theorem ids_grow (move : QueueMove settings markable queue committed queue' committed') {id : String}
    (held : id ∈ queue.ids) : id ∈ queue'.ids := by
  cases move with
  | stays => exact held
  | accepts record => exact WebhookQueue.mem_ids_accept.mpr (.inr held)
  | settles record stored processedAt =>
    rw [WebhookQueue.ids_settle]
    exact held

end QueueMove

section Lawful

variable {σ : Type} [Storage σ] [Durable σ] {view : σ → WebhookQueue} {idle : σ → Prop}
  {begun : WebhookQueue → σ → Prop} {markable : WebhookEventRecord → Prop} {settings : AgentSettings}

theorem reconstruct_ends (lawful : LawfulQueue view idle begun markable) {w : World σ} (held : idle w.storage) :
    Ends (fun events w' => idle w'.storage ∧ view w'.storage = view w.storage ∧
        ∃ all, (view w.storage).Listing (·.processedAt.isSome) all ∧
          events = ((all.drop (all.length - btcpayDetectorWindow)).map (·.event)).foldl pushSettlementEvent [])
      (fun w' => idle w'.storage ∧ view w'.storage = view w.storage) reconstructBtcpayEventWindow w := by
  have recalls := lawful.recalls btcpayDetectorWindow w.storage held
  refine .intro (fun events w' ran => ?_) fun e w' failed => ?_
  · obtain ⟨history, m, asked, built⟩ := bind_ok.mp ran
    obtain ⟨s, read, rfl⟩ := CycleM.lift_ok.mp asked
    obtain ⟨closed, same, all, listing, rfl⟩ := recalls.ok read
    cases built
    exact ⟨closed, same, all, listing, rfl⟩
  · rcases bind_error.mp failed with asked | ⟨history, m, -, built⟩
    · obtain ⟨reason, s, read, -, rfl⟩ := CycleM.lift_error.mp asked
      exact recalls.error read
    · cases built

theorem WebhookWorker.step_moves (settings : AgentSettings) (lawful : LawfulQueue view idle begun markable)
    (worker : WebhookWorker) {w : World σ} (held : idle w.storage) (consistent : (view w.storage).Consistent)
    (committed : List WebhookEventRecord) :
    let after := worker.step settings.env settings.network settings.node w
    idle after.world.storage ∧ QueueMove settings markable (view w.storage) committed (view after.world.storage)
      (committed ++ after.committed.toList) := by
  have quiet {w' : World σ} (closed : idle w'.storage) (same : view w'.storage = view w.storage) :
      idle w'.storage ∧
        QueueMove settings markable (view w.storage) committed (view w'.storage) (committed ++ []) := by
    rw [same, List.append_nil]
    exact ⟨closed, .stays⟩
  unfold WebhookWorker.step
  cases worker with
  | starting =>
    have ends := reconstruct_ends lawful held
    cases result : reconstructBtcpayEventWindow w with
    | ok events w' =>
      obtain ⟨closed, same, -⟩ := ends.ok result
      exact quiet closed same
    | error e w' =>
      obtain ⟨closed, same⟩ := ends.error result
      exact quiet closed same
  | stopped => exact quiet held rfl
  | running window stage =>
    cases stage with
    | waiting => exact quiet held rfl
    | fetching last =>
      have lists := lawful.lists btcpayDetectorWindow w.storage held
      dsimp only
      cases result : CycleM.storage (Storage.pendingWebhookEvents btcpayDetectorWindow) w with
      | ok records w' =>
        obtain ⟨s, read, rfl⟩ := CycleM.lift_ok.mp result
        obtain ⟨closed, same, -⟩ := lists.ok read
        cases records <;> exact quiet closed same
      | error e w' =>
        obtain ⟨reason, s, read, -, rfl⟩ := CycleM.lift_error.mp result
        obtain ⟨closed, same⟩ := lists.error read
        exact quiet closed same
    | processing records last =>
      cases records with
      | nil => exact quiet held rfl
      | cons record records =>
        rcases processPendingWebhookEvent_cases lawful settings.env settings.network settings.node window record
            held consistent.keyed with
          ⟨w', result, closed, ⟨processedAt, settled⟩, stored, member, named, allowed⟩ | ⟨e, w', result, closed, same⟩
        · simp only [result]
          rw [settled]
          exact ⟨closed, .settles record stored processedAt member named allowed⟩
        · simp only [result]
          exact quiet closed same

namespace WebhookAgent

variable {ι : Type} [DecidableEq ι] {s : WebhookAgent σ ι}

def queue (view : σ → WebhookQueue) (s : WebhookAgent σ ι) : WebhookQueue := view s.world.storage

structure Settled (view : σ → WebhookQueue) (idle : σ → Prop) (settings : AgentSettings) (s : WebhookAgent σ ι) :
    Prop where
  idle : idle s.world.storage
  consistent : (s.queue view).Consistent
  sound : ∀ n, (s.handlers n).Sound (settings.requests n) (s.queue view)

theorem act_moves (lawful : LawfulQueue view idle begun markable) (settled : Settled view idle settings s)
    (action : AgentAction ι) :
    let after := s.act settings action
    QueueMove settings markable (s.queue view) s.committed (after.queue view) after.committed ∧
      Settled view idle settings after := by
  obtain ⟨held, consistent, sound⟩ := settled
  have sounds (n : Nat) {handler : WebhookHandler} {queue' : WebhookQueue}
      (grows : ∀ id ∈ (s.queue view).ids, id ∈ queue'.ids)
      (own : handler.Sound (settings.requests n) queue') (m : Nat) :
      (Function.update s.handlers n handler m).Sound (settings.requests m) queue' := by
    by_cases same : m = n
    · subst same
      rwa [Function.update_self]
    · rw [Function.update_of_ne same]
      exact (sound m).mono grows
  cases action with
  | receive n =>
    obtain ⟨closed, same, own⟩ := WebhookHandler.receive_spec lawful held consistent.recorded (sound n)
    have queue : (s.act settings (.receive n)).queue view = s.queue view := same
    have grown : ∀ id ∈ (s.queue view).ids, id ∈ (s.queue view).ids := fun _ stored => stored
    dsimp only
    rw [queue]
    exact ⟨.stays, closed, by rw [queue]; exact consistent, by rw [queue]; exact sounds n grown own⟩
  | accept n now acceptedAt busy =>
    obtain ⟨closed, outcome⟩ := WebhookHandler.accept_spec lawful settings.env.ext now acceptedAt busy held (sound n)
    rcases outcome with ⟨same, own⟩ | ⟨deliveryId, envelope, event, named, normalized, taken, answer⟩
    · have queue : (s.act settings (.accept n now acceptedAt busy)).queue view = s.queue view := same
      have grown : ∀ id ∈ (s.queue view).ids, id ∈ (s.queue view).ids := fun _ stored => stored
      dsimp only
      rw [queue]
      exact ⟨.stays, closed, by rw [queue]; exact consistent, by rw [queue]; exact sounds n grown own⟩
    · have queue : (s.act settings (.accept n now acceptedAt busy)).queue view =
          (s.queue view).accept ⟨deliveryId, event, acceptedAt, none⟩ := taken
      have move : QueueMove settings markable (s.queue view) s.committed
          ((s.queue view).accept ⟨deliveryId, event, acceptedAt, none⟩) s.committed :=
        .accepts _ ⟨n, envelope, now, named, normalized⟩ rfl
      dsimp only
      rw [queue]
      refine ⟨move, closed, by rw [queue]; exact move.consistent consistent, ?_⟩
      rw [queue]
      refine sounds n (fun _ => move.ids_grow) ?_
      rw [answer]
      intro id success
      cases success
      exact ⟨⟨envelope, named⟩, WebhookQueue.mem_ids_accept.mpr (.inl rfl)⟩
  | work i =>
    obtain ⟨closed, move⟩ := WebhookWorker.step_moves settings lawful (s.workers i) held consistent s.committed
    exact ⟨move, closed, move.consistent consistent, fun n => (sound n).mono fun _ => move.ids_grow⟩
  | wake i closed => exact ⟨.stays, held, consistent, sound⟩
  | runOperationalCycle cycle =>
    have ends := lawful.persistOperationalDetectorCycle settings.env cycle held
    have both : idle (final (persistOperationalDetectorCycle settings.env cycle) s.world).storage ∧
        view (final (persistOperationalDetectorCycle settings.env cycle) s.world).storage = view s.world.storage := by
      unfold final
      cases result : persistOperationalDetectorCycle settings.env cycle s.world with
      | ok count w' => exact ends.ok result
      | error e w' => exact ends.error result
    have queue : (s.act settings (.runOperationalCycle cycle)).queue view = s.queue view := both.2
    dsimp only
    rw [queue]
    exact ⟨.stays, both.1, by rw [queue]; exact consistent, by rw [queue]; exact sound⟩

theorem next_moves (lawful : LawfulQueue view idle begun markable) (settled : Settled view idle settings s)
    (t : AgentTick ι) :
    let after := s.next settings t
    QueueMove settings markable (s.queue view) s.committed (after.queue view) after.committed ∧
      Settled view idle settings after := by
  have again {after : WebhookAgent σ ι}
      (move : QueueMove settings markable (s.queue view) s.committed (after.queue view) after.committed)
      (ended : Settled view idle settings after) :
      QueueMove settings markable (s.queue view) s.committed ((s.reborn after).queue view) (s.reborn after).committed ∧
        Settled view idle settings (s.reborn after) := by
    obtain ⟨closed, same⟩ := lawful.reopens s.world.storage after.world.storage ended.idle
    have queue : (s.reborn after).queue view = after.queue view := same
    rw [queue]
    refine ⟨move, closed, by rw [queue]; exact ended.consistent, fun n => ?_⟩
    rw [queue]
    exact ((settled.sound n).mono fun _ => move.ids_grow).afterDeath
  cases t with
  | acts action => exact act_moves lawful settled action
  | dies => exact again .stays settled
  | diesAt statement action =>
    obtain ⟨closed, same⟩ := lawful.dies statement s.world.storage settled.idle
    have queue : (s.dying statement).queue view = s.queue view := same
    have dying : Settled view idle settings (s.dying statement) :=
      ⟨closed, by rw [queue]; exact settled.consistent, fun n => by rw [queue]; exact settled.sound n⟩
    obtain ⟨move, ended⟩ := act_moves lawful dying action
    rw [queue] at move
    exact again move ended

end WebhookAgent

end Lawful

def Counted (queue : WebhookQueue) (committed : List WebhookEventRecord) : Prop :=
  ∀ id, (committed.map (·.deliveryId)).count id = if (queue.processedAt id).isSome then 1 else 0

/-- From one step to the next a stored event stays, once processed entirely, and it becomes processed exactly
    when its cycle is committed. -/
structure HandsOff (queue queue' : WebhookQueue) (committed committed' : List WebhookEventRecord) : Prop where
  kept : ∀ id record, queue.find id = some record → ∃ after, queue'.find id = some after ∧
    after.event = record.event ∧ after.acceptedAt = record.acceptedAt ∧ (record.processedAt.isSome → after = record)
  together : ∀ id, queue.processedAt id = none ∧ (queue'.processedAt id).isSome ↔
    ∃ record, committed' = committed ++ [record] ∧ record.deliveryId = id

namespace QueueMove

variable {settings : AgentSettings} {queue queue' : WebhookQueue} {committed committed' : List WebhookEventRecord}

theorem pending_of_stored {stored : WebhookEventRecord} (consistent : queue.Consistent)
    (member : stored ∈ queue.events) (pending : stored.processedAt = none) :
    queue.find stored.deliveryId = some stored ∧ queue.processedAt stored.deliveryId = none := by
  have found : queue.find stored.deliveryId = some stored := Rows.lookup_of_mem consistent.keyed member
  exact ⟨found, by rw [WebhookQueue.processedAt, found]; exact pending⟩

theorem handsOff (move : QueueMove settings (·.processedAt = none) queue committed queue' committed')
    (consistent : queue.Consistent) : HandsOff queue queue' committed committed' := by
  cases move with
  | stays =>
    refine ⟨fun id record found => ⟨record, found, rfl, rfl, fun _ => rfl⟩, fun id => ⟨fun both => ?_, ?_⟩⟩
    · simp [both.1] at both
    · rintro ⟨record, grown, -⟩
      simp at grown
  | accepts record origin pending =>
    refine ⟨fun id stored found => ⟨stored, ?_, rfl, rfl, fun _ => rfl⟩, fun id => ⟨fun both => ?_, ?_⟩⟩
    · rw [WebhookQueue.find_accept, found]
      rfl
    · rw [WebhookQueue.processedAt_accept pending] at both
      simp [both.1] at both
    · rintro ⟨other, grown, -⟩
      simp at grown
  | settles record stored processedAt member named pending =>
    obtain ⟨held, unprocessed⟩ := pending_of_stored consistent member pending
    rw [named] at held unprocessed
    have known : record.deliveryId ∈ queue.ids := WebhookQueue.find_isSome.mp (by rw [held]; rfl)
    constructor
    · intro id before found
      rw [WebhookQueue.find_settle, found]
      by_cases same : before.deliveryId = record.deliveryId
      · have own : before = stored := by
          have key : before.deliveryId = id := Rows.key_of_lookup found
          rw [← key, same, held] at found
          exact (Option.some.inj found).symm
        refine ⟨{ before with processedAt := some processedAt }, by rw [Option.map_some, if_pos same], rfl, rfl,
          fun processed => ?_⟩
        rw [own, pending] at processed
        cases processed
      · exact ⟨before, by rw [Option.map_some, if_neg same], rfl, rfl, fun _ => rfl⟩
    · intro id
      by_cases same : id = record.deliveryId
      · subst same
        refine ⟨fun _ => ⟨record, rfl, rfl⟩, fun _ => ⟨unprocessed, ?_⟩⟩
        rw [WebhookQueue.processedAt_settle_self known]
        rfl
      · rw [WebhookQueue.processedAt_settle_of_ne same]
        refine ⟨fun both => ?_, ?_⟩
        · simp [both.1] at both
        · rintro ⟨other, grown, key⟩
          have also : record = other := by simpa using grown
          exact absurd (also ▸ key.symm) same

theorem counted (move : QueueMove settings (·.processedAt = none) queue committed queue' committed')
    (consistent : queue.Consistent) (held : Counted queue committed) : Counted queue' committed' := by
  intro id
  cases move with
  | stays => exact held id
  | accepts record origin pending =>
    rw [WebhookQueue.processedAt_accept pending]
    exact held id
  | settles record stored processedAt member named pending =>
    obtain ⟨found, unprocessed⟩ := pending_of_stored consistent member pending
    rw [named] at found unprocessed
    have known : record.deliveryId ∈ queue.ids := WebhookQueue.find_isSome.mp (by rw [found]; rfl)
    rw [List.map_append, List.count_append, held id]
    by_cases same : id = record.deliveryId
    · subst same
      rw [WebhookQueue.processedAt_settle_self known, unprocessed]
      simp
    · rw [WebhookQueue.processedAt_settle_of_ne same]
      simp [Ne.symm same]

theorem originates {markable : WebhookEventRecord → Prop}
    (move : QueueMove settings markable queue committed queue' committed')
    (held : ∀ record ∈ queue.events, settings.Originates record) :
    ∀ record ∈ queue'.events, settings.Originates record := by
  cases move with
  | stays => exact held
  | accepts record origin pending =>
    intro other member
    unfold WebhookQueue.accept at member
    dsimp only at member
    split at member
    · exact held other member
    · rcases List.mem_append.mp member with earlier | last
      · exact held other earlier
      · rw [List.mem_singleton.mp last]
        exact origin
  | settles record stored processedAt member named allowed =>
    intro other member
    obtain ⟨before, earlier, rfl⟩ := List.mem_map.mp member
    have source := held before earlier
    split <;> exact source

end QueueMove

def freshDatabase (tables : Tables) (fails : Nat → Option String) : SqliteStorage where
  conn := { tables := { tables with webhookDeliveries := [], webhookEvents := [] }, fails }

namespace WebhookAgent

open SqliteStorage

variable {ι : Type} [DecidableEq ι] {settings : AgentSettings}

structure Inv (settings : AgentSettings) (s : WebhookAgent SqliteStorage ι) : Prop where
  settled : Settled webhookQueue Idle settings s
  counted : Counted (s.queue webhookQueue) s.committed
  originates : ∀ record ∈ (s.queue webhookQueue).events, settings.Originates record

omit [DecidableEq ι] in
theorem Inv.start (tables : Tables) (fails : Nat → Option String) :
    Inv settings (start (freshDatabase tables fails) : WebhookAgent SqliteStorage ι) where
  settled :=
    { idle := ⟨rfl, rfl⟩
      consistent := ⟨List.nodup_nil, fun _ => Iff.rfl⟩
      sound := fun _ => trivial }
  counted _ := rfl
  originates _ stored := nomatch stored

theorem Inv.next {s : WebhookAgent SqliteStorage ι} (inv : Inv settings s) (t : AgentTick ι) :
    Inv settings (s.next settings t) := by
  obtain ⟨move, settled⟩ := next_moves sqlite_lawful inv.settled t
  exact ⟨settled, move.counted inv.settled.consistent inv.counted, move.originates inv.originates⟩

end WebhookAgent

open WebhookAgent SqliteStorage in
/-- For any number of workers, any requests, any failing statements and any schedule with deaths at any
    statement: what was ever acknowledged stays stored, as what one of its requests was normalized to, its
    delivery has one event, and an event is processed exactly when its detector cycle has been committed, once
    and in the same step. -/
theorem webhooks_handed_off {ι : Type} [DecidableEq ι] (settings : AgentSettings) (tables : Tables)
    (fails : Nat → Option String) (schedule : List (AgentTick ι)) :
    let start : WebhookAgent SqliteStorage ι := .start (freshDatabase tables fails)
    let s := run (WebhookAgent.next settings) start schedule
    (∀ before later, schedule = before ++ later → ∀ n id,
      ((run (WebhookAgent.next settings) start before).handlers n).acknowledged = some id →
        (∃ envelope, (settings.requests n).identify = .ok (id, envelope)) ∧
        ∃ record, (s.queue webhookQueue).find id = some record ∧ settings.Originates record) ∧
    Rows.Keyed WebhookEventRecord.deliveryId (s.queue webhookQueue).events ∧
    Counted (s.queue webhookQueue) s.committed ∧
    EachStep (WebhookAgent.next settings) (fun s t => HandsOff (s.queue webhookQueue)
      ((s.next settings t).queue webhookQueue) s.committed (s.next settings t).committed) start schedule := by
  intro start s
  have begins : Inv settings start := .start tables fails
  have reached : Inv settings s := run_invariant (fun _ t inv => inv.next t) begins schedule
  refine ⟨?_, reached.settled.consistent.keyed, reached.counted, ?_⟩
  · rintro before later rfl n id success
    have middle : Inv settings (run (WebhookAgent.next settings) start before) :=
      run_invariant (fun _ t inv => inv.next t) begins before
    have sound := middle.settled.sound n
    cases standing : (run (WebhookAgent.next settings) start before).handlers n with
    | ready | checked | lost =>
      rw [standing] at success
      cases success
    | answered answer =>
      rw [standing] at success sound
      obtain ⟨named, stored⟩ := sound id success
      have stays : Inv settings s ∧ id ∈ (s.queue webhookQueue).ids := by
        have split : s = run (WebhookAgent.next settings) (run (WebhookAgent.next settings) start before) later :=
          run_append start before later
        rw [split]
        refine run_invariant (fun s t (held : Inv settings s ∧ id ∈ (s.queue webhookQueue).ids) => ?_)
          ⟨middle, stored⟩ later
        exact ⟨held.1.next t, (next_moves sqlite_lawful held.1.settled t).1.ids_grow held.2⟩
      obtain ⟨record, found⟩ := Option.isSome_iff_exists.mp (WebhookQueue.find_isSome.mpr stays.2)
      exact ⟨named, record, found, reached.originates record (Rows.mem_of_lookup found)⟩
  · have hands (s : WebhookAgent SqliteStorage ι) (t : AgentTick ι) (inv : Inv settings s) :
        HandsOff (s.queue webhookQueue) ((s.next settings t).queue webhookQueue) s.committed
          (s.next settings t).committed :=
      (next_moves sqlite_lawful inv.settled t).1.handsOff inv.settled.consistent
    exact EachStep.of_invariant (fun _ t inv => inv.next t) hands begins schedule

end Rieko
