import Rieko.Cli.WebhookAgent
import Rieko.Storage.MemoryQueue

namespace Rieko

open StatefulResult Transition

def lastEvents (events : List NodeEvent) : List NodeEvent := events.drop (events.length - btcpayDetectorWindow)

theorem push_lastEvents (events : List NodeEvent) {event : NodeEvent} (settlement : event.isSettlement = true) :
    pushSettlementEvent (lastEvents events) event = lastEvents (events ++ [event]) := by
  unfold pushSettlementEvent lastEvents
  rw [if_pos settlement, List.length_drop, List.length_append, List.length_singleton]
  by_cases full : btcpayDetectorWindow ≤ events.length
  · have evicts : events.length - (events.length - btcpayDetectorWindow) = btcpayDetectorWindow := by omega
    have moved : events.length + 1 - btcpayDetectorWindow = events.length - btcpayDetectorWindow + 1 := by omega
    have inside : events.length - btcpayDetectorWindow + 1 ≤ events.length := by
      unfold btcpayDetectorWindow at *
      omega
    rw [if_pos evicts, List.tail_drop, moved, List.drop_append_of_le_length inside]
  · have room : events.length - (events.length - btcpayDetectorWindow) ≠ btcpayDetectorWindow := by omega
    have all : events.length - btcpayDetectorWindow = 0 := by omega
    have still : events.length + 1 - btcpayDetectorWindow = 0 := by omega
    rw [if_neg room, all, still, List.drop_zero, List.drop_zero]

theorem foldl_push_lastEvents (before events : List NodeEvent)
    (settlement : ∀ event ∈ events, event.isSettlement = true) :
    events.foldl pushSettlementEvent (lastEvents before) = lastEvents (before ++ events) := by
  induction events generalizing before with
  | nil => rw [List.append_nil, List.foldl_nil]
  | cons event events ih =>
    rw [List.foldl_cons, push_lastEvents before (settlement event (List.mem_cons_self ..)),
      ih (before ++ [event]) fun later member => settlement later (List.mem_cons_of_mem _ member)]
    simp

theorem lastEvents_lastEvents (events : List NodeEvent) : lastEvents (lastEvents events) = lastEvents events := by
  unfold lastEvents
  rw [List.length_drop, show events.length - (events.length - btcpayDetectorWindow) - btcpayDetectorWindow = 0 by omega,
    List.drop_zero]

theorem lastEvents_map {done : List WebhookEventRecord} :
    (done.drop (done.length - btcpayDetectorWindow)).map (·.event) = lastEvents (done.map (·.event)) := by
  unfold lastEvents
  rw [List.map_drop, List.length_map]

theorem foldl_push_nil {events : List NodeEvent} (settlement : ∀ event ∈ events, event.isSettlement = true) :
    events.foldl pushSettlementEvent [] = lastEvents events := by
  have start : lastEvents [] = [] := List.drop_nil
  have folded := foldl_push_lastEvents [] events settlement
  rwa [start, List.nil_append] at folded

theorem mem_of_mem_lastEvents {events : List NodeEvent} {event : NodeEvent} (member : event ∈ lastEvents events) :
    event ∈ events := List.mem_of_mem_drop member

attribute [irreducible] lastEvents

namespace WebhookQueue

variable {queue : WebhookQueue}

theorem Listing.eq_filter {condition : WebhookEventRecord → Bool} {records : List WebhookEventRecord}
    (listing : queue.Listing condition records)
    (ordered : queue.events.Pairwise fun a b => a.acceptedAt < b.acceptedAt) :
    records = queue.events.filter condition := by
  have distinct : (queue.events.map (·.acceptedAt)).Nodup :=
    List.pairwise_map.mpr (ordered.imp fun earlier => ne_of_lt earlier)
  have kept : (queue.events.filter condition).Pairwise WebhookEventRecord.acceptedBefore :=
    (ordered.sublist List.filter_sublist).imp fun earlier => .inl earlier
  refine List.Perm.eq_of_pairwise (fun a b left right before after => ?_) listing.sorted kept listing.perm
  have stored : a ∈ queue.events := List.mem_of_mem_filter (listing.perm.mem_iff.mp left)
  refine List.inj_on_of_nodup_map distinct stored (List.mem_of_mem_filter right) ?_
  unfold WebhookEventRecord.acceptedBefore at before after
  rcases before with earlier | same
  · rcases after with later | same
    · exact absurd (lt_trans earlier later) (lt_irrefl _)
    · exact same.1.symm
  · exact same.1

theorem settle_split {done rest : List WebhookEventRecord} {record : WebhookEventRecord} (processedAt : DateTime)
    (consistent : queue.Consistent) (split : queue.events = done ++ record :: rest) :
    (queue.settle record.deliveryId processedAt).events =
      done ++ { record with processedAt := some processedAt } :: rest := by
  have keyed := consistent.keyed
  unfold Rows.Keyed at keyed
  rw [split, List.map_append, List.map_cons, List.nodup_append, List.nodup_cons] at keyed
  obtain ⟨-, ⟨after, -⟩, apart⟩ := keyed
  have unchanged (others : List WebhookEventRecord) (differ : ∀ other ∈ others, other.deliveryId ≠ record.deliveryId) :
      (others.map fun other => if decide (other.deliveryId = record.deliveryId) = true then
        { other with processedAt := some processedAt } else other) = others := by
    conv_rhs => rw [← List.map_id others]
    exact List.map_congr_left fun other member => by simp [differ other member]
  unfold settle Rows.updateWhere
  dsimp only
  rw [split, List.map_append, List.map_cons, unchanged done, unchanged rest]
  · simp
  · exact fun other member same => after (same ▸ List.mem_map_of_mem member)
  · exact fun other member => apart _ (List.mem_map_of_mem member) _ (List.mem_cons_self ..)

end WebhookQueue

def WebhookWorker.Follows (processed : List NodeEvent) (todo : List WebhookEventRecord) : WebhookWorker → Prop
  | .running window stage => window = lastEvents processed ∧
      ∀ records last, stage = .processing records last → records <+: todo
  | .starting | .stopped => True

/-- Events that were accepted one after the other are processed in that order. -/
structure Aligned (queue : WebhookQueue) (committed : List WebhookEventRecord) (worker : WebhookWorker) : Prop where
  ordered : queue.events.Pairwise fun a b => a.acceptedAt < b.acceptedAt
  settlement : ∀ record ∈ queue.events, record.event.isSettlement = true
  split : ∃ done todo, queue.events = done ++ todo ∧ (∀ record ∈ done, record.processedAt.isSome = true) ∧
    (∀ record ∈ todo, record.processedAt = none) ∧ committed.map (·.event) = done.map (·.event) ∧
    worker.Follows (done.map (·.event)) todo

namespace Aligned

variable {queue : WebhookQueue} {committed : List WebhookEventRecord} {worker worker' : WebhookWorker}

theorem move (aligned : Aligned queue committed worker)
    (follows : ∀ processed todo, worker.Follows processed todo → worker'.Follows processed todo) :
    Aligned queue committed worker' := by
  obtain ⟨done, todo, split, processed, pending, log, holds⟩ := aligned.split
  exact ⟨aligned.ordered, aligned.settlement, done, todo, split, processed, pending, log, follows _ _ holds⟩

theorem accept (aligned : Aligned queue committed worker) {record : WebhookEventRecord}
    (unprocessed : record.processedAt = none) (settlement : record.event.isSettlement = true)
    (latest : ∀ earlier ∈ queue.events, earlier.acceptedAt < record.acceptedAt) :
    Aligned (queue.accept record) committed worker := by
  unfold WebhookQueue.accept
  by_cases known : record.deliveryId ∈ queue.ids
  · rw [if_pos known]
    exact ⟨aligned.ordered, aligned.settlement, aligned.split⟩
  · rw [if_neg known]
    obtain ⟨done, todo, split, processed, pending, log, holds⟩ := aligned.split
    refine ⟨?_, fun other member => ?_, done, todo ++ [record], ?_, processed, fun other member => ?_, log, ?_⟩
    · refine List.pairwise_append.mpr ⟨aligned.ordered, List.pairwise_singleton _ _, fun earlier stored last new => ?_⟩
      rw [List.mem_singleton.mp new]
      exact latest earlier stored
    · rcases List.mem_append.mp member with stored | new
      · exact aligned.settlement other stored
      · rwa [List.mem_singleton.mp new]
    · rw [split, List.append_assoc]
    · rcases List.mem_append.mp member with stored | new
      · exact pending other stored
      · rwa [List.mem_singleton.mp new]
    · cases worker with
      | starting | stopped => trivial
      | running window stage =>
        exact ⟨holds.1, fun records last fetched => (holds.2 records last fetched).trans (List.prefix_append _ _)⟩

theorem window_eq {window : List NodeEvent} {stage : DrainStage}
    (aligned : Aligned queue committed (.running window stage)) :
    window = lastEvents ((committed.map (·.event)).filter (·.isSettlement)) := by
  obtain ⟨done, todo, split, -, -, log, holds⟩ := aligned.split
  have all : (done.map (·.event)).filter (·.isSettlement) = done.map (·.event) := by
    refine List.filter_eq_self.mpr fun event member => ?_
    obtain ⟨record, stored, rfl⟩ := List.mem_map.mp member
    exact aligned.settlement record (by rw [split]; exact List.mem_append_left _ stored)
  rw [log, all]
  exact holds.1

theorem processed_listing {done todo all : List WebhookEventRecord}
    (aligned : Aligned queue committed worker) (split : queue.events = done ++ todo)
    (processed : ∀ record ∈ done, record.processedAt.isSome = true)
    (pending : ∀ record ∈ todo, record.processedAt = none)
    (listing : queue.Listing (·.processedAt.isSome) all) : all = done := by
  have none : todo.filter (·.processedAt.isSome) = [] :=
    List.filter_eq_nil_iff.mpr fun record stored => by simp [pending record stored]
  rw [listing.eq_filter aligned.ordered, split, List.filter_append, List.filter_eq_self.mpr processed, none,
    List.append_nil]

theorem pending_listing {done todo all : List WebhookEventRecord}
    (aligned : Aligned queue committed worker) (split : queue.events = done ++ todo)
    (processed : ∀ record ∈ done, record.processedAt.isSome = true)
    (pending : ∀ record ∈ todo, record.processedAt = none)
    (listing : queue.Listing (·.processedAt.isNone) all) : all = todo := by
  have none : done.filter (·.processedAt.isNone) = [] :=
    List.filter_eq_nil_iff.mpr fun record stored => by
      have isSome := processed record stored
      cases at' : record.processedAt <;> simp [at'] at isSome ⊢
  have whole : todo.filter (·.processedAt.isNone) = todo :=
    List.filter_eq_self.mpr fun record stored => by rw [pending record stored]; rfl
  rw [listing.eq_filter aligned.ordered, split, List.filter_append, none, whole, List.nil_append]

theorem rebuilt_eq {done todo all : List WebhookEventRecord}
    (aligned : Aligned queue committed worker) (split : queue.events = done ++ todo)
    (processed : ∀ record ∈ done, record.processedAt.isSome = true)
    (pending : ∀ record ∈ todo, record.processedAt = none)
    (listing : queue.Listing (·.processedAt.isSome) all) :
    ((all.drop (all.length - btcpayDetectorWindow)).map (·.event)).foldl pushSettlementEvent [] =
      lastEvents (done.map (·.event)) := by
  have whole : all = done := aligned.processed_listing split processed pending listing
  have settlement : ∀ event ∈ lastEvents (done.map (·.event)), event.isSettlement = true := by
    intro event member
    obtain ⟨record, stored, rfl⟩ := List.mem_map.mp (mem_of_mem_lastEvents member)
    exact aligned.settlement record (split ▸ List.mem_append_left todo stored)
  calc ((all.drop (all.length - btcpayDetectorWindow)).map (·.event)).foldl pushSettlementEvent []
      = (lastEvents (done.map (·.event))).foldl pushSettlementEvent [] := by rw [whole, lastEvents_map]
    _ = lastEvents (lastEvents (done.map (·.event))) := foldl_push_nil settlement
    _ = lastEvents (done.map (·.event)) := lastEvents_lastEvents _

theorem settle {window : List NodeEvent} {record : WebhookEventRecord} {records : List WebhookEventRecord}
    {last : Bool} (aligned : Aligned queue committed (.running window (.processing (record :: records) last)))
    (consistent : queue.Consistent) (processedAt : DateTime) :
    Aligned (queue.settle record.deliveryId processedAt) (committed ++ [record])
      (.running (pushSettlementEvent window record.event) (.processing records last)) := by
  obtain ⟨done, todo, split, processed, pending, log, holds⟩ := aligned.split
  obtain ⟨rest, rfl⟩ := holds.2 _ last rfl
  rw [List.cons_append] at split
  have events := WebhookQueue.settle_split processedAt consistent split
  have ordered := aligned.ordered
  have settlement := aligned.settlement
  rw [split] at ordered settlement
  have own : record.event.isSettlement = true := settlement record (by simp)
  refine ⟨?_, fun other member => ?_, done ++ [{ record with processedAt := some processedAt }], records ++ rest, ?_,
    fun other member => ?_, fun other member => pending other (by simp [List.mem_append.mp member]), ?_, ?_, ?_⟩
  · rw [events]
    have sameTimes := List.pairwise_map.mpr ordered
    refine (List.pairwise_map (f := fun record : WebhookEventRecord => record.acceptedAt) (R := (· < ·))).mp ?_
    simpa using sameTimes
  · rw [events] at member
    rcases List.mem_append.mp member with before | after
    · exact settlement other (List.mem_append_left _ before)
    · rcases List.mem_cons.mp after with rfl | later
      · exact own
      · exact settlement other (List.mem_append_right _ (List.mem_cons_of_mem _ later))
  · rw [events, List.append_assoc]
    rfl
  · rcases List.mem_append.mp member with before | new
    · exact processed other before
    · rw [List.mem_singleton.mp new]
      rfl
  · rw [List.map_append, List.map_append, log, List.map_singleton, List.map_singleton]
  · rw [holds.1, push_lastEvents _ own, List.map_append, List.map_singleton]
  · rintro fetched also same
    cases same
    exact List.prefix_append _ _

end Aligned

section Lawful

variable {σ : Type} [Storage σ] [Durable σ] {view : σ → WebhookQueue} {idle : σ → Prop}
  {begun : WebhookQueue → σ → Prop} {markable : WebhookEventRecord → Prop} {settings : AgentSettings}

theorem WebhookWorker.Follows.drained {processed : List NodeEvent} {todo : List WebhookEventRecord}
    {window : List NodeEvent} {stage : DrainStage} (follows : (running window stage).Follows processed todo)
    (last : Bool) : (WebhookWorker.drained window last).Follows processed todo := by
  cases last with
  | true => trivial
  | false => exact ⟨follows.1, fun _ _ fetched => nomatch fetched⟩

theorem WebhookWorker.step_aligned (lawful : LawfulQueue view idle begun markable) (worker : WebhookWorker)
    {w : World σ} (held : idle w.storage) (consistent : (view w.storage).Consistent)
    {committed : List WebhookEventRecord} (aligned : Aligned (view w.storage) committed worker) :
    let after := worker.step settings.env settings.network settings.node w
    Aligned (view after.world.storage) (committed ++ after.committed.toList) after.worker := by
  have quiet {w' : World σ} {worker' : WebhookWorker} (same : view w'.storage = view w.storage)
      (moved : Aligned (view w.storage) committed worker') :
      Aligned (view w'.storage) (committed ++ []) worker' := by
    rwa [same, List.append_nil]
  obtain ⟨done, todo, split, processed, pending, log, follows⟩ := aligned.split
  have at' {worker' : WebhookWorker} (holds : worker'.Follows (done.map (·.event)) todo) :
      Aligned (view w.storage) committed worker' :=
    ⟨aligned.ordered, aligned.settlement, done, todo, split, processed, pending, log, holds⟩
  unfold WebhookWorker.step
  cases worker with
  | starting =>
    have ends := reconstruct_ends lawful held
    cases result : reconstructBtcpayEventWindow w with
    | error e w' => exact quiet (ends.error result).2 (at' trivial)
    | ok events w' =>
      obtain ⟨-, same, all, listing, rebuilt⟩ := ends.ok result
      rw [aligned.rebuilt_eq split processed pending listing] at rebuilt
      exact quiet same (at' ⟨rebuilt, fun _ _ fetched => nomatch fetched⟩)
  | stopped => exact quiet rfl (at' trivial)
  | running window stage =>
    cases stage with
    | waiting => exact quiet rfl aligned
    | fetching last =>
      have lists := lawful.lists btcpayDetectorWindow w.storage held
      dsimp only
      cases result : CycleM.storage (Storage.pendingWebhookEvents btcpayDetectorWindow) w with
      | error e w' =>
        obtain ⟨reason, s, read, -, rfl⟩ := CycleM.lift_error.mp result
        exact quiet (lists.error read).2 (at' (follows.drained last))
      | ok records w' =>
        obtain ⟨s, read, rfl⟩ := CycleM.lift_ok.mp result
        obtain ⟨-, same, all, listing, taken⟩ := lists.ok read
        rw [aligned.pending_listing split processed pending listing] at taken
        cases records with
        | nil => exact quiet same (at' (follows.drained last))
        | cons record records =>
          refine quiet same (at' ⟨follows.1, ?_⟩)
          rintro fetched also stage
          cases stage
          rw [taken]
          exact List.take_prefix _ _
    | processing records last =>
      cases records with
      | nil => exact quiet rfl (at' ⟨follows.1, fun _ _ fetched => nomatch fetched⟩)
      | cons record records =>
        rcases processPendingWebhookEvent_cases lawful settings.env settings.network settings.node window record
            held consistent.keyed with
          ⟨w', result, -, ⟨processedAt, settled⟩, -⟩ | ⟨e, w', result, -, same⟩
        · simp only [result]
          rw [settled]
          exact aligned.settle consistent processedAt
        · simp only [result]
          exact quiet same (at' (follows.drained last))

def AgentAction.acceptedAt {ι : Type} : AgentAction ι → Option DateTime
  | .accept _ _ acceptedAt _ => some acceptedAt
  | _ => none

def AgentTick.acceptedAt {ι : Type} : AgentTick ι → Option DateTime
  | .acts action | .diesAt _ action => action.acceptedAt
  | .dies => none

namespace WebhookAgent

/-- The clock of an acceptance reads later than every acceptance stored so far. -/
def Later (view : σ → WebhookQueue) (s : WebhookAgent σ Unit) (t : AgentTick Unit) : Prop :=
  ∀ acceptedAt, t.acceptedAt = some acceptedAt → ∀ record ∈ (s.queue view).events, record.acceptedAt < acceptedAt

instance (view : σ → WebhookQueue) (s : WebhookAgent σ Unit) (t : AgentTick Unit) : Decidable (Later view s t) :=
  match at' : t.acceptedAt with
  | none => .isTrue fun acceptedAt also => by rw [at'] at also; cases also
  | some acceptedAt =>
    decidable_of_iff (∀ record ∈ (s.queue view).events, record.acceptedAt < acceptedAt)
      ⟨fun later other also => by rw [at'] at also; cases also; exact later, fun later => later acceptedAt at'⟩

structure Windowed (view : σ → WebhookQueue) (idle : σ → Prop) (settings : AgentSettings)
    (s : WebhookAgent σ Unit) : Prop where
  settled : Settled view idle settings s
  aligned : Aligned (s.queue view) s.committed (s.workers ())

variable {s : WebhookAgent σ Unit}

omit [Storage σ] [Durable σ] in
theorem Windowed.start {storage : σ} (held : idle storage) (empty : view storage = {}) :
    Windowed view idle settings (start storage) := by
  have queue : (WebhookAgent.start storage : WebhookAgent σ Unit).queue view = {} := empty
  refine ⟨⟨held, ?_, fun _ => trivial⟩, ?_⟩ <;> rw [queue]
  · exact ⟨List.nodup_nil, fun _ => Iff.rfl⟩
  · have vacuous (P : WebhookEventRecord → Prop) : ∀ record ∈ ([] : List WebhookEventRecord), P record :=
      List.forall_mem_nil P
    exact ⟨.nil, vacuous _, [], [], rfl, vacuous _, vacuous _, rfl, trivial⟩

theorem act_aligned (lawful : LawfulQueue view idle begun markable) (windowed : Windowed view idle settings s)
    (action : AgentAction Unit)
    (later : ∀ acceptedAt, action.acceptedAt = some acceptedAt →
      ∀ record ∈ (s.queue view).events, record.acceptedAt < acceptedAt) :
    Aligned ((s.act settings action).queue view) (s.act settings action).committed
      ((s.act settings action).workers ()) := by
  obtain ⟨⟨held, consistent, sound⟩, aligned⟩ := windowed
  cases action with
  | receive n =>
    obtain ⟨-, same, -⟩ := WebhookHandler.receive_spec lawful held consistent.recorded (sound n)
    have queue : (s.act settings (.receive n)).queue view = s.queue view := same
    rw [queue]
    exact aligned
  | accept n now acceptedAt busy =>
    obtain ⟨-, outcome⟩ := WebhookHandler.accept_spec lawful settings.env.ext now acceptedAt busy held (sound n)
    rcases outcome with ⟨same, -⟩ | ⟨deliveryId, envelope, event, -, normalized, taken, -⟩
    · have queue : (s.act settings (.accept n now acceptedAt busy)).queue view = s.queue view := same
      rw [queue]
      exact aligned
    · have queue : (s.act settings (.accept n now acceptedAt busy)).queue view =
          (s.queue view).accept ⟨deliveryId, event, acceptedAt, none⟩ := taken
      rw [queue]
      exact aligned.accept rfl (normalizeWebhookPayload_isSettlement normalized) (later acceptedAt rfl)
  | work i => exact WebhookWorker.step_aligned lawful (s.workers ()) held consistent aligned
  | wake i closed =>
    refine aligned.move fun processed todo follows => ?_
    show (Function.update s.workers () ((s.workers ()).wake closed) ()).Follows processed todo
    rw [Function.update_self]
    generalize s.workers () = worker at follows
    match worker with
    | .running window .waiting => exact ⟨follows.1, fun _ _ fetched => nomatch fetched⟩
    | .running window (.fetching last) | .running window (.processing records last) => exact follows
    | .starting | .stopped => trivial
  | runOperationalCycle cycle =>
    have ends := lawful.persistOperationalDetectorCycle settings.env cycle held
    have queue : (s.act settings (.runOperationalCycle cycle)).queue view = s.queue view := by
      show view (final (persistOperationalDetectorCycle settings.env cycle) s.world).storage = _
      unfold final
      cases result : persistOperationalDetectorCycle settings.env cycle s.world with
      | ok count w' => exact (ends.ok result).2
      | error e w' => exact (ends.error result).2
    rw [queue]
    exact aligned

theorem Windowed.next (lawful : LawfulQueue view idle begun markable) (windowed : Windowed view idle settings s)
    (t : AgentTick Unit) (later : Later view s t) : Windowed view idle settings (s.next settings t) := by
  have settled := (next_moves lawful windowed.settled t).2
  have restarted {after : WebhookAgent σ Unit} (closed : idle after.world.storage)
      (aligned : Aligned (after.queue view) after.committed (after.workers ())) :
      Aligned ((s.reborn after).queue view) (s.reborn after).committed ((s.reborn after).workers ()) := by
    have queue : (s.reborn after).queue view = after.queue view :=
      (lawful.reopens s.world.storage after.world.storage closed).2
    rw [queue]
    exact aligned.move fun _ _ _ => trivial
  refine ⟨settled, ?_⟩
  cases t with
  | acts action => exact act_aligned lawful windowed action later
  | dies => exact restarted windowed.settled.idle windowed.aligned
  | diesAt statement action =>
    obtain ⟨closed, same⟩ := lawful.dies statement s.world.storage windowed.settled.idle
    have queue : (s.dying statement).queue view = s.queue view := same
    have dying : Windowed view idle settings (s.dying statement) := by
      refine ⟨⟨closed, ?_, fun n => ?_⟩, ?_⟩ <;> rw [queue]
      · exact windowed.settled.consistent
      · exact windowed.settled.sound n
      · exact windowed.aligned
    have still : ∀ acceptedAt, action.acceptedAt = some acceptedAt →
        ∀ record ∈ ((s.dying statement).queue view).events, record.acceptedAt < acceptedAt := by
      rw [queue]
      exact later
    exact restarted (act_moves lawful dying.settled action).2.idle (act_aligned lawful dying action still)

/-- A running worker holds the last settlement events that it has processed, and an agent that starts after it
    rebuilds the same window, if it can read the history. -/
def Restores (settings : AgentSettings) (s : WebhookAgent σ Unit) : Prop :=
  ∀ window stage, s.workers () = .running window stage →
    window = lastEvents ((s.committed.map (·.event)).filter (·.isSettlement)) ∧
      Ends (fun events _ => events = window) (fun _ => True) reconstructBtcpayEventWindow (s.next settings .dies).world

theorem Windowed.restores (lawful : LawfulQueue view idle begun markable)
    (windowed : Windowed view idle settings s) : Restores settings s := by
  intro window stage running
  have aligned := windowed.aligned
  rw [running] at aligned
  refine ⟨aligned.window_eq, ?_⟩
  obtain ⟨closed, same⟩ := lawful.reopens s.world.storage s.world.storage windowed.settled.idle
  refine (reconstruct_ends lawful closed).mono (fun events w' rebuilt => ?_) fun _ _ => trivial
  obtain ⟨-, -, all, listing, rfl⟩ := rebuilt
  obtain ⟨done, todo, split, processed, pending, -, holds⟩ := aligned.split
  have queue : view (s.next settings .dies).world.storage = s.queue view := same
  rw [queue] at listing
  rw [aligned.rebuilt_eq split processed pending listing]
  exact holds.1.symm

end WebhookAgent

end Lawful

theorem processPendingWebhookEvent_error {σ : Type} [Storage σ] {env : CycleEnv} {network : BitcoinNetwork}
    {node : String} {events after : List NodeEvent} {record : WebhookEventRecord} {w w' : World σ} {e : CycleError}
    (failed : processPendingWebhookEvent env network node events record w = (after, .error e w')) : after = events := by
  obtain ⟨cycle, evaluated⟩ := evaluateSettlement_ok env network node (pushSettlementEvent events record.event) w
  unfold processPendingWebhookEvent at failed
  dsimp only at failed
  rw [evaluated] at failed
  dsimp only at failed
  split at failed
  · exact (congrArg Prod.fst failed).symm
  · cases failed

theorem MemoryStorage.reconstruct_succeeds (w : World MemoryStorage) :
    succeeds reconstructBtcpayEventWindow w = true := rfl

theorem SqliteStorage.reconstruct_succeeds {w : World SqliteStorage}
    (works : w.storage.conn.fails w.storage.conn.executed = none) : succeeds reconstructBtcpayEventWindow w = true := by
  have asked : ∃ records s, SqliteStorage.recentProcessedWebhookEvents btcpayDetectorWindow w.storage =
      .ok records s := by
    unfold SqliteStorage.recentProcessedWebhookEvents SqliteStorage.sql SqlConnection.query SqlConnection.statement
    dsimp only
    rw [works]
    exact ⟨_, _, rfl⟩
  obtain ⟨records, s, read⟩ := asked
  have lifted : CycleM.storage (Storage.recentProcessedWebhookEvents btcpayDetectorWindow) w =
      .ok records { w with storage := s } := CycleM.lift_ok.mpr ⟨s, read, rfl⟩
  unfold StatefulResult.succeeds reconstructBtcpayEventWindow
  rw [bind_of_ok lifted]
  rfl

namespace WebhookAgent

/-- Wherever the agent stops, the next one restores the window of the last processed settlement events: over a store
    in memory, and over a database whose statements may fail and whose process may die. A failed attempt to
    process an event leaves the window as it was. -/
theorem settlement_window_restored (settings : AgentSettings) :
    (∀ (store : MemoryStorage) (schedule : List (AgentTick Unit)),
      store.transactionSnapshot = none → store.webhookDeliveries = ∅ → store.webhookEvents = ∅ →
      EachStep (next settings) (Later MemoryStorage.webhookQueue) (start store) schedule →
        Restores settings (run (next settings) (start store) schedule)) ∧
    (∀ w : World MemoryStorage, succeeds reconstructBtcpayEventWindow w = true) ∧
    (∀ (tables : Tables) (fails : Nat → Option String) (schedule : List (AgentTick Unit)),
      EachStep (next settings) (Later SqliteStorage.webhookQueue) (start (freshDatabase tables fails)) schedule →
        Restores settings (run (next settings) (start (freshDatabase tables fails)) schedule)) ∧
    (∀ w : World SqliteStorage, w.storage.conn.fails w.storage.conn.executed = none →
      succeeds reconstructBtcpayEventWindow w = true) ∧
    (∀ (σ : Type) [Storage σ] (events after : List NodeEvent) (record : WebhookEventRecord) (w w' : World σ)
      (e : CycleError), processPendingWebhookEvent settings.env settings.network settings.node events record w =
        (after, .error e w') → after = events) := by
  refine ⟨fun store schedule idle deliveries events later => ?_, MemoryStorage.reconstruct_succeeds,
    fun tables fails schedule later => ?_, fun w => SqliteStorage.reconstruct_succeeds,
    fun σ _ events after record w w' e => processPendingWebhookEvent_error⟩
  · have empty : store.webhookQueue = {} := by
      unfold MemoryStorage.webhookQueue MemoryStorageState.webhookQueue MemoryStorage.snapshot
      rw [deliveries, events]
      rfl
    have filed : store.snapshot.Filed := by
      unfold MemoryStorageState.Filed MemoryStorage.snapshot
      rw [events]
      exact List.forall_mem_nil _
    have begins : Windowed MemoryStorage.webhookQueue MemoryStorage.Idle settings (start store) :=
      .start ⟨idle, filed⟩ empty
    exact (EachStep.invariant (fun s t windowed => windowed.next MemoryStorage.memory_lawful t) begins later).restores
      MemoryStorage.memory_lawful
  · have begins :
      Windowed SqliteStorage.webhookQueue SqliteStorage.Idle settings (start (freshDatabase tables fails)) :=
      .start ⟨rfl, rfl⟩ rfl
    exact (EachStep.invariant (fun s t windowed => windowed.next SqliteStorage.sqlite_lawful t) begins later).restores
      SqliteStorage.sqlite_lawful

/-- An event that expired is accepted, a process dies, and the next one processes the event. -/
theorem settlement_window_restored_expired :
    let ext : External := ⟨fun _ => "digest", fun _ => "null", fun _ => "instant", fun _ => "instant"⟩
    let envelope : BtcPayWebhookEvent :=
      { deliveryId := "delivery", webhookId := "hook", eventType := "InvoiceExpired", timestamp := 5 }
    let body : WebhookBody := ⟨.ok envelope, .error "", .error "", .ok ⟨"store", "invoice"⟩⟩
    let settings : AgentSettings := ⟨⟨ext, fun n => n, toString⟩, .mainnet, "store", fun _ => ⟨some true, body⟩⟩
    let schedule : List (AgentTick Unit) := [.acts (.work ()), .acts (.receive 0), .acts (.accept 0 1 1 false),
      .dies, .acts (.work ()), .acts (.work ()), .acts (.work ())]
    let s := run (next settings) (start (freshDatabase {} fun _ => none)) schedule
    s.committed.length = 1 ∧ Restores settings s := by
  intro ext envelope body settings schedule s
  have later : EachStep (next settings) (Later SqliteStorage.webhookQueue) (start (freshDatabase {} fun _ => none))
      schedule := by decide
  exact ⟨by decide +kernel, (settlement_window_restored settings).2.2.1 {} (fun _ => none) schedule later⟩

end WebhookAgent

end Rieko
