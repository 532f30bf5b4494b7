import Rieko.Cli.InsideTransaction
import Rieko.Detectors.Resolution
import Rieko.IngestBtcpay.Webhook
import Rieko.Storage.WebhookQueue

namespace Rieko

open StatefulResult CycleM

def btcpayDetectorWindow : Nat := 100

def pushSettlementEvent (events : List NodeEvent) (event : NodeEvent) : List NodeEvent :=
  if event.isSettlement then
    (if events.length = btcpayDetectorWindow then events.tail else events) ++ [event]
  else events

section

variable {σ : Type}

def evaluateSettlement (env : CycleEnv) (network : BitcoinNetwork) (node : String) (window : List NodeEvent) :
    CycleM σ DetectorCycle := fun w =>
  let detector := SettlementReliabilityDetector.detector env.ext (fun n => env.clock (w.ticks + n))
    { localNode := node }
  match detector.evaluate env.ext ⟨[]⟩ { network, node := some node, events := some window } with
  | .ok cycle => .ok cycle { w with ticks := w.ticks + cycle.findings.length }
  | .error e => .error ⟨[], .detector e⟩ w

variable [Storage σ]

def reconstructBtcpayEventWindow : CycleM σ (List NodeEvent) := do
  let history ← storage (Storage.recentProcessedWebhookEvents btcpayDetectorWindow)
  return (history.map (·.event)).foldl pushSettlementEvent []

/-- Returns the window along with the result. A failed evaluation returns early and leaves the event in it. -/
def processPendingWebhookEvent (env : CycleEnv) (network : BitcoinNetwork) (node : String)
    (events : List NodeEvent) (record : WebhookEventRecord) (w : World σ) :
    List NodeEvent × EStateM.Result CycleError (World σ) Unit :=
  let previousWindow := events
  let events := pushSettlementEvent events record.event
  match evaluateSettlement env network node events w with
  | .error e w => (events, .error e w)
  | .ok cycle w =>
    match persistFindingCycle env cycle record.deliveryId w with
    | .error e w => (previousWindow, .error e w)
    | .ok _ w => (events, .ok () w)

end

theorem evaluateSettlement_ok {σ : Type} (env : CycleEnv) (network : BitcoinNetwork) (node : String)
    (window : List NodeEvent) (w : World σ) :
    ∃ cycle, evaluateSettlement env network node window w =
      .ok cycle { w with ticks := w.ticks + cycle.findings.length } := by
  let clock (n : Nat) : DateTime := env.clock (w.ticks + n)
  let self : SettlementReliabilityDetector := { localNode := node }
  let ctx : DetectorContext := { network, node := some node, events := some window }
  have evaluates : ∃ cycle, (self.detector env.ext clock).evaluate env.ext ⟨[]⟩ ctx = .ok cycle := by
    by_cases raised : self.raises (.of window) = true
    · have single : (self.detector env.ext clock).run ⟨[]⟩ ctx =
          [self.finding env.ext (.of window) (.of self ⟨[]⟩) ctx (clock 0)] := if_pos raised
      have accepted : (self.detector env.ext clock).accepts env.ext node (some network)
          (self.finding env.ext (.of window) (.of self ⟨[]⟩) ctx (clock 0)) = true :=
        decide_eq_true ⟨rfl, rfl, rfl, rfl, rfl⟩
      exact ⟨_, Detector.evaluate_single rfl single accepted⟩
    · have quiet : (self.detector env.ext clock).run ⟨[]⟩ ctx = [] := if_neg raised
      refine ⟨⟨⟨SettlementReliabilityDetector.id, some network, some node, true⟩, []⟩, ?_⟩
      unfold Detector.evaluate
      dsimp only [ctx]
      rw [quiet]
      rfl
  obtain ⟨cycle, evaluated⟩ := evaluates
  refine ⟨cycle, ?_⟩
  unfold evaluateSettlement
  dsimp only
  rw [evaluated]

inductive DrainStage where
  | fetching (last : Bool)
  | processing (records : List WebhookEventRecord) (last : Bool)
  | waiting

inductive WebhookWorker where
  | starting
  | running (window : List NodeEvent) (stage : DrainStage)
  | stopped

namespace WebhookWorker

def drained (window : List NodeEvent) : Bool → WebhookWorker
  | true => .stopped
  | false => .running window .waiting

structure Outcome (σ : Type) where
  worker : WebhookWorker
  world : World σ
  committed : Option WebhookEventRecord := none

variable {σ : Type} [Storage σ]

def step (env : CycleEnv) (network : BitcoinNetwork) (node : String) (worker : WebhookWorker) (w : World σ) :
    Outcome σ :=
  match worker with
  | .starting =>
    match reconstructBtcpayEventWindow w with
    | .ok events w => ⟨.running events (.fetching false), w, none⟩
    | .error _ w => ⟨.stopped, w, none⟩
  | .running window (.fetching last) =>
    match storage (Storage.pendingWebhookEvents btcpayDetectorWindow) w with
    | .ok [] w => ⟨drained window last, w, none⟩
    | .ok records w => ⟨.running window (.processing records last), w, none⟩
    | .error _ w => ⟨drained window last, w, none⟩
  | .running window (.processing [] last) => ⟨.running window (.fetching last), w, none⟩
  | .running window (.processing (record :: records) last) =>
    match processPendingWebhookEvent env network node window record w with
    | (window, .ok _ w) => ⟨.running window (.processing records last), w, some record⟩
    | (window, .error _ w) => ⟨drained window last, w, none⟩
  | worker => ⟨worker, w, none⟩

def wake (closed : Bool) : WebhookWorker → WebhookWorker
  | .running window .waiting => .running window (.fetching closed)
  | worker => worker

end WebhookWorker

section Lawful

variable {σ : Type} [Storage σ] [Durable σ] {view : σ → WebhookQueue} {idle : σ → Prop}
  {begun : WebhookQueue → σ → Prop} {markable : WebhookEventRecord → Prop}

theorem LawfulQueue.persistDetectorCycle_keeps (lawful : LawfulQueue view idle begun markable) (env : CycleEnv)
    (cycle : DetectorCycle) (saved queue : WebhookQueue) :
    Preserves (fun w : World σ => begun saved w.storage ∧ view w.storage = queue) (persistDetectorCycle env cycle) :=
  (lawful.writes saved queue).persistDetectorCycle env cycle

theorem LawfulQueue.persistFindingCycle (lawful : LawfulQueue view idle begun markable) (env : CycleEnv)
    (cycle : DetectorCycle) (deliveryId : String) {w : World σ} (held : idle w.storage)
    (keyed : Rows.Keyed WebhookEventRecord.deliveryId (view w.storage).events) :
    Ends (fun _ w' => idle w'.storage ∧ (∃ processedAt,
          view w'.storage = (view w.storage).settle deliveryId processedAt) ∧
        ∃ record ∈ (view w.storage).events, record.deliveryId = deliveryId ∧ markable record)
      (fun w' => idle w'.storage ∧ view w'.storage = view w.storage)
      (Rieko.persistFindingCycle env cycle deliveryId) w := by
  have keeps (saved : WebhookQueue) : Preserves (fun w : World σ => begun saved w.storage) (do
      persistDetectorCycle env cycle
      let now ← now env
      storage (Storage.markWebhookEventProcessed deliveryId now)) := by
    refine Preserves.bind (fun w open' => ?_) fun _ => now_preserves.bind fun now => ?_
    · exact (lawful.persistDetectorCycle_keeps env cycle saved (view w.storage) w ⟨open', rfl⟩).1
    · exact lift_preserves (lawful.marksKeep saved deliveryId now)
  refine ((world_atomic id id lawful.brackets).ladder keeps held).mono (fun _ w' ended => ?_) fun _ undone => undone
  obtain ⟨closed, m, m', open', before, ran, after⟩ := ended
  obtain ⟨_, m₁, persisted, rest⟩ := bind_ok.mp ran
  obtain ⟨now, m₂, clock, last⟩ := bind_ok.mp rest
  obtain ⟨-, rfl⟩ := now_ok.mp clock
  obtain ⟨s', marked, rfl⟩ := lift_ok.mp last
  have kept := lawful.persistDetectorCycle_keeps env cycle (view w.storage) (view w.storage) m ⟨open', before⟩
  rw [final, persisted] at kept
  change begun (view w.storage) m₁.storage ∧ view m₁.storage = view w.storage at kept
  obtain ⟨still, same⟩ := kept
  obtain ⟨settled, pending⟩ := lawful.marks _ _ _ _ _ still (same ▸ keyed) marked
  rw [same] at settled pending
  exact ⟨closed, ⟨now, after.trans settled⟩, pending⟩

theorem LawfulQueue.persistOperationalDetectorCycle (lawful : LawfulQueue view idle begun markable) (env : CycleEnv)
    (cycle : DetectorCycle) {w : World σ} (held : idle w.storage) :
    Ends (fun _ w' => idle w'.storage ∧ view w'.storage = view w.storage)
      (fun w' => idle w'.storage ∧ view w'.storage = view w.storage)
      (Rieko.persistOperationalDetectorCycle env cycle) w := by
  have keeps (saved queue : WebhookQueue) :
      Preserves (fun w : World σ => begun saved w.storage ∧ view w.storage = queue)
        (persistOperationalCycleInside env cycle) :=
    (lawful.writes saved queue).persistOperationalCycleInside env cycle
  have stays (saved : WebhookQueue) : Preserves (fun w : World σ => begun saved w.storage)
      (persistOperationalCycleInside env cycle) :=
    fun w open' => (keeps saved (view w.storage) w ⟨open', rfl⟩).1
  refine ((world_atomic id id lawful.brackets).ladder stays held).mono (fun _ w' ended => ?_) fun _ undone => undone
  obtain ⟨closed, m, m', open', before, ran, after⟩ := ended
  have kept := keeps (view w.storage) (view w.storage) m ⟨open', before⟩
  rw [final, ran] at kept
  exact ⟨closed, after.trans kept.2⟩

theorem processPendingWebhookEvent_cases (lawful : LawfulQueue view idle begun markable) (env : CycleEnv)
    (network : BitcoinNetwork) (node : String) (events : List NodeEvent) (record : WebhookEventRecord)
    {w : World σ} (held : idle w.storage)
    (keyed : Rows.Keyed WebhookEventRecord.deliveryId (view w.storage).events) :
    (∃ w', processPendingWebhookEvent env network node events record w =
        (pushSettlementEvent events record.event, .ok () w') ∧ idle w'.storage ∧
      (∃ processedAt, view w'.storage = (view w.storage).settle record.deliveryId processedAt) ∧
      ∃ stored ∈ (view w.storage).events, stored.deliveryId = record.deliveryId ∧ markable stored) ∨
    ∃ e w', processPendingWebhookEvent env network node events record w = (events, .error e w') ∧
      idle w'.storage ∧ view w'.storage = view w.storage := by
  obtain ⟨cycle, evaluated⟩ := evaluateSettlement_ok env network node (pushSettlementEvent events record.event) w
  have persists := lawful.persistFindingCycle env cycle record.deliveryId
    (w := { w with ticks := w.ticks + cycle.findings.length }) held keyed
  unfold processPendingWebhookEvent
  dsimp only
  rw [evaluated]
  dsimp only
  cases result : Rieko.persistFindingCycle env cycle record.deliveryId
      { w with ticks := w.ticks + cycle.findings.length } with
  | ok u w' => exact .inl ⟨w', rfl, persists.ok result⟩
  | error e w' => exact .inr ⟨e, w', rfl, persists.error result⟩

end Lawful

end Rieko
