import Rieko.Detectors.Settlement
import Rieko.Lib.Ranking
import Mathlib.Data.List.Dedup
import Mathlib.Data.String.Basic

namespace Rieko

open Ranking

namespace NodeEvent

def failed : NodeEvent → Bool
  | .invoiceExpired _ | .paymentAttempt .failed _ | .paymentMetric .failed _ => true
  | _ => false

def succeeded : NodeEvent → Bool
  | .invoiceSettled _ | .invoicePaymentReceived _ | .paymentAttempt .succeeded _ | .paymentMetric .succeeded _ => true
  | _ => false

def invoice : NodeEvent → Option (String × Option String × DateTime)
  | .invoiceExpired e => some (e.id, e.storeId, e.timestamp)
  | .invoiceSettled e => some (e.id, e.storeId, e.timestamp)
  | .invoicePaymentReceived e => some (e.id, e.storeId, e.timestamp)
  | _ => none

end NodeEvent

namespace SettlementCounts

variable {events events' : List NodeEvent}

theorem record_eq (counts : SettlementCounts) (event : NodeEvent) : counts.record event =
    { expired := counts.expired + (if event.failed then 1 else 0)
      settled := counts.settled + (if event.succeeded then 1 else 0)
      invoiceIds := counts.invoiceIds ++ event.invoice.toList.map (·.1)
      storeIds := counts.storeIds ++ event.invoice.toList.flatMap (·.2.1.toList)
      observedAt := counts.observedAt ++ event.invoice.toList.map (·.2.2) } := by
  cases event with
  | invoiceSettled e => simp [record, invoice, NodeEvent.failed, NodeEvent.succeeded, NodeEvent.invoice]
  | invoiceExpired e => simp [record, invoice, NodeEvent.failed, NodeEvent.succeeded, NodeEvent.invoice]
  | invoicePaymentReceived e => simp [record, invoice, NodeEvent.failed, NodeEvent.succeeded, NodeEvent.invoice]
  | paymentAttempt status t => cases status <;> simp [record, NodeEvent.failed, NodeEvent.succeeded, NodeEvent.invoice]
  | paymentMetric status t => cases status <;> simp [record, NodeEvent.failed, NodeEvent.succeeded, NodeEvent.invoice]
  | forwardRouted t | channelStateChanged t | peerStatusChanged t | snapshotUpdated t =>
    simp [record, NodeEvent.failed, NodeEvent.succeeded, NodeEvent.invoice]

theorem of_eq (events : List NodeEvent) : of events =
    { expired := events.countP (·.failed)
      settled := events.countP (·.succeeded)
      invoiceIds := (events.filterMap (·.invoice)).map (·.1)
      storeIds := (events.filterMap (·.invoice)).flatMap (·.2.1.toList)
      observedAt := (events.filterMap (·.invoice)).map (·.2.2) } := by
  induction events using List.reverseRec with
  | nil => rfl
  | append_singleton events event ih =>
    have step : of (events ++ [event]) = (of events).record event := by simp [of]
    have single : [event].filterMap NodeEvent.invoice = event.invoice.toList := by
      cases invoiced : event.invoice <;> simp [invoiced]
    rw [step, ih, record_eq]
    simp only [List.countP_append, List.countP_singleton, List.filterMap_append, List.map_append, List.flatMap_append,
      single]

/-- The same events were counted, in any order. -/
structure Reordered (counts counts' : SettlementCounts) : Prop where
  expired : counts.expired = counts'.expired
  settled : counts.settled = counts'.settled
  invoiceIds : counts.invoiceIds.Perm counts'.invoiceIds
  storeIds : counts.storeIds.Perm counts'.storeIds
  observedAt : counts.observedAt.Perm counts'.observedAt

theorem reordered_of_perm (same : events.Perm events') : Reordered (of events) (of events') := by
  have invoices := same.filterMap NodeEvent.invoice
  rw [of_eq, of_eq]
  exact ⟨same.countP_eq _, same.countP_eq _, invoices.map _, invoices.flatMap_right _, invoices.map _⟩

namespace Reordered

variable {counts counts' : SettlementCounts}

theorem total (same : Reordered counts counts') : counts.total = counts'.total := by
  simp only [SettlementCounts.total, same.expired, same.settled]

theorem failureRate (same : Reordered counts counts') : counts.failureRate = counts'.failureRate := by
  simp only [SettlementCounts.failureRate, same.expired, same.total]

end Reordered

end SettlementCounts

namespace SettlementReliabilityDetector

open SettlementCounts

def face (finding : Finding) : String × Option String × Severity × List Evidence :=
  (finding.id, finding.channel, finding.severity, finding.evidence)

namespace ChannelHealth

def drainedBelow (a b : Channel) : Bool := a.liquidity.localRatio.lt b.liquidity.localRatio

/-- The channels that the detector may name as the bottleneck are one. -/
structure Unambiguous (health : ChannelHealth) : Prop where
  drained : ∀ a b, Least drainedBelow health.drained a → Least drainedBelow health.drained b → a.id = b.id
  inactive : health.drained = [] → ∀ a ∈ health.inactive, ∀ b ∈ health.inactive, a.id = b.id

structure Reordered (health health' : ChannelHealth) : Prop where
  drained : health.drained.Perm health'.drained
  inactive : health.inactive.Perm health'.inactive

variable {self : SettlementReliabilityDetector} {channels channels' : List Channel} {health health' : ChannelHealth}

theorem drainedBelow_strict : Strict drainedBelow where
  irrefl a := by simp [drainedBelow, Binary64.lt]
  trans a b c lower lowest := by
    simp only [drainedBelow, Binary64.lt, Bool.and_eq_true, decide_eq_true_eq] at lower lowest ⊢
    exact ⟨⟨lower.1.1, lowest.1.2⟩, lower.2.trans lowest.2⟩

theorem reordered_of_perm (same : channels'.Perm channels) :
    Reordered (.of self ⟨channels'⟩) (.of self ⟨channels⟩) := by
  have own := same.filter (·.node = self.localNode)
  exact ⟨own.filter _, own.filter _⟩

theorem Reordered.degraded (same : Reordered health health') : health.degraded = health'.degraded := by
  simp only [ChannelHealth.degraded, same.drained.isEmpty_eq, same.inactive.isEmpty_eq]

theorem bottleneck_eq (health : ChannelHealth) :
    health.bottleneck = (firstLeast drainedBelow health.drained).or health.inactive.head? := by
  simp only [bottleneck, mostDrained, firstLeast]
  congr 2
  funext least channel
  cases least <;> rfl

theorem Reordered.bottleneck (same : Reordered health health') (single : health'.Unambiguous) :
    health.bottleneck.map (·.id) = health'.bottleneck.map (·.id) := by
  rw [bottleneck_eq, bottleneck_eq]
  cases first : firstLeast drainedBelow health.drained with
  | none =>
    have none_drained := firstLeast_eq_none.mp first
    have none_drained' : health'.drained = [] := (none_drained ▸ same.drained).nil_eq.symm
    rw [firstLeast_eq_none.mpr none_drained']
    simp only [Option.none_or]
    cases listed : health.inactive with
    | nil =>
      have none_inactive : health'.inactive = [] := (listed ▸ same.inactive).nil_eq.symm
      rw [none_inactive]
    | cons a rest =>
      cases listed' : health'.inactive with
      | nil => exact absurd same.inactive (by simp [listed, listed'])
      | cons b rest' =>
        have member : a ∈ health'.inactive := same.inactive.mem_iff.mp (by simp [listed])
        simp [single.inactive none_drained' a member b (by simp [listed'])]
  | some a =>
    have least := (firstLeast_least drainedBelow_strict first).perm same.drained
    cases first' : firstLeast drainedBelow health'.drained with
    | none =>
      have empty := firstLeast_eq_none.mp first'
      have missing := least.1
      rw [empty] at missing
      cases missing
    | some b => simp [single.drained a b least (firstLeast_least drainedBelow_strict first')]

end ChannelHealth

section Faces

variable {ext : External} {self : SettlementReliabilityDetector} {counts counts' : SettlementCounts}
  {health health' : ChannelHealth} {ctx : DetectorContext} {now now' : DateTime}

theorem distinctSorted_perm {texts texts' : List String} (same : texts.Perm texts') :
    distinctSorted texts = distinctSorted texts' :=
  insertionSort_eq_of_perm same.dedup

theorem window_perm {observedAt observedAt' : List DateTime} (same : observedAt.Perm observedAt') :
    window ext observedAt = window ext observedAt' := by
  simp only [window, insertionSort_eq_of_perm same]

theorem evidence_reordered (counted : SettlementCounts.Reordered counts counts')
    (seen : ChannelHealth.Reordered health health') (single : health'.Unambiguous) :
    evidence ext counts health ctx = evidence ext counts' health' ctx := by
  have named (health : ChannelHealth) :
      (health.bottleneck.map fun channel => Evidence.string "bottleneck_channel" channel.id) =
        (health.bottleneck.map (·.id)).map (Evidence.string "bottleneck_channel") := by
    rw [Option.map_map]
    rfl
  simp only [evidence, counted.expired, counted.settled, counted.total, counted.failureRate, seen.drained.length_eq,
    seen.inactive.length_eq, seen.degraded, distinctSorted_perm counted.invoiceIds,
    distinctSorted_perm counted.storeIds, window_perm counted.observedAt, named, seen.bottleneck single]

theorem face_reordered (counted : SettlementCounts.Reordered counts counts')
    (seen : ChannelHealth.Reordered health health') (single : health'.Unambiguous) :
    face (finding ext self counts health ctx now) = face (finding ext self counts' health' ctx now') := by
  simp only [face, finding, severity, evidence_reordered counted seen single, seen.bottleneck single, counted.expired,
    counted.failureRate, seen.drained.isEmpty_eq, seen.inactive.isEmpty_eq]

theorem raises_reordered (counted : SettlementCounts.Reordered counts counts') :
    self.raises counts = self.raises counts' := by
  simp only [raises, counted.expired, counted.total, counted.failureRate]

end Faces

section Runs

variable {ext : External} {self : SettlementReliabilityDetector} {ctx : DetectorContext} {channels : List Channel}
  {events : List NodeEvent}

def faces (ext : External) (clock : Nat → DateTime) (self : SettlementReliabilityDetector) (ctx : DetectorContext)
    (channels : List Channel) (events : List NodeEvent) : List (String × Option String × Severity × List Evidence) :=
  (self.run ext clock ⟨channels⟩ { ctx with events := some events }).map face

theorem faces_eq (clock : Nat → DateTime) : faces ext clock self ctx channels events =
    if self.raises (.of events) then
      [face (finding ext self (.of events) (.of self ⟨channels⟩) { ctx with events := some events } (clock 0))]
    else [] := by
  simp only [faces, run]
  split <;> rfl

theorem faces_channel {clock : Nat → DateTime} {face : String × Option String × Severity × List Evidence}
    (raised : self.raises (.of events) = true) (reported : face ∈ faces ext clock self ctx channels events) :
    face.2.1 = (ChannelHealth.of self ⟨channels⟩).bottleneck.map (·.id) := by
  rw [faces_eq, if_pos raised, List.mem_singleton] at reported
  rw [reported]
  rfl

theorem mem_of_drained {a : Channel} (member : a ∈ (ChannelHealth.of self ⟨channels⟩).drained) : a ∈ channels :=
  List.mem_of_mem_filter (List.mem_of_mem_filter member)

theorem mem_of_inactive {a : Channel} (member : a ∈ (ChannelHealth.of self ⟨channels⟩).inactive) : a ∈ channels :=
  List.mem_of_mem_filter (List.mem_of_mem_filter member)

theorem bottleneck_drained {a : Channel}
    (least : Least ChannelHealth.drainedBelow (ChannelHealth.of self ⟨channels⟩).drained a) :
    (ChannelHealth.of self ⟨a :: channels.erase a⟩).bottleneck = some a := by
  have same := (List.perm_cons_erase (mem_of_drained least.1)).symm
  have seen : ChannelHealth.Reordered (.of self ⟨_⟩) (.of self ⟨_⟩) := ChannelHealth.reordered_of_perm same
  have leads : ∃ rest, (ChannelHealth.of self ⟨a :: channels.erase a⟩).drained = a :: rest := by
    have kept := least.1
    simp only [ChannelHealth.of, List.mem_filter] at kept ⊢
    simp only [List.filter_cons, kept.1.2, kept.2, if_true]
    exact ⟨_, rfl⟩
  obtain ⟨rest, drained⟩ := leads
  have first : firstLeast ChannelHealth.drainedBelow (ChannelHealth.of self ⟨a :: channels.erase a⟩).drained =
      some a := by
    rw [drained]
    apply firstLeast_cons
    intro b member
    apply least.2 b
    apply seen.drained.mem_iff.mp
    simp [drained, member]
  rw [ChannelHealth.bottleneck_eq, first]
  rfl

theorem bottleneck_inactive {a : Channel} (none_drained : (ChannelHealth.of self ⟨channels⟩).drained = [])
    (member : a ∈ (ChannelHealth.of self ⟨channels⟩).inactive) :
    (ChannelHealth.of self ⟨a :: channels.erase a⟩).bottleneck = some a := by
  have same := (List.perm_cons_erase (mem_of_inactive member)).symm
  have seen : ChannelHealth.Reordered (.of self ⟨_⟩) (.of self ⟨_⟩) := ChannelHealth.reordered_of_perm same
  have drained : (ChannelHealth.of self ⟨a :: channels.erase a⟩).drained = [] :=
    List.perm_nil.mp (none_drained ▸ seen.drained)
  have leads : (ChannelHealth.of self ⟨a :: channels.erase a⟩).inactive.head? = some a := by
    simp only [ChannelHealth.of, List.mem_filter] at member ⊢
    simp only [List.filter_cons, member.1.2, member.2, if_true]
    rfl
  rw [ChannelHealth.bottleneck_eq, firstLeast_eq_none.mpr drained, leads]
  rfl

end Runs

/-- The finding of a window depends on neither enumeration exactly where it has no channel to choose from. -/
theorem settlement_order_independent_iff (ext : External) (clock clock' : Nat → DateTime)
    (self : SettlementReliabilityDetector) (ctx : DetectorContext) (channels : List Channel) (events : List NodeEvent) :
    (∀ channels' events', channels'.Perm channels → events'.Perm events →
      faces ext clock' self ctx channels' events' = faces ext clock self ctx channels events) ↔
      (self.raises (.of events) = true → (ChannelHealth.of self ⟨channels⟩).Unambiguous) := by
  constructor
  · intro steady raised
    have reported := @faces_eq ext self ctx channels events clock
    rw [if_pos raised] at reported
    have chosen {a : Channel} (own : a ∈ channels)
        (first : (ChannelHealth.of self ⟨a :: channels.erase a⟩).bottleneck = some a) :
        some a.id = (ChannelHealth.of self ⟨channels⟩).bottleneck.map (·.id) := by
      have same := steady _ events (List.perm_cons_erase own).symm (List.Perm.refl events)
      rw [reported] at same
      have named := @faces_channel ext self ctx _ _ clock' _ raised
        (same ▸ List.mem_singleton_self _)
      rw [first] at named
      exact named.symm
    have agree {a b : Channel} (own : a ∈ channels) (own' : b ∈ channels)
        (first : (ChannelHealth.of self ⟨a :: channels.erase a⟩).bottleneck = some a)
        (first' : (ChannelHealth.of self ⟨b :: channels.erase b⟩).bottleneck = some b) : a.id = b.id :=
      Option.some.inj ((chosen own first).trans (chosen own' first').symm)
    constructor
    · intro a b least least'
      exact agree (mem_of_drained least.1) (mem_of_drained least'.1) (bottleneck_drained least)
        (bottleneck_drained least')
    · intro none_drained a member b member'
      exact agree (mem_of_inactive member) (mem_of_inactive member') (bottleneck_inactive none_drained member)
        (bottleneck_inactive none_drained member')
  · intro single channels' events' sameChannels sameEvents
    have counted := SettlementCounts.reordered_of_perm sameEvents
    have seen : ChannelHealth.Reordered (.of self ⟨_⟩) (.of self ⟨_⟩) := ChannelHealth.reordered_of_perm sameChannels
    rw [faces_eq, faces_eq, raises_reordered counted]
    split
    next raised =>
      have ctxs (events : List NodeEvent) (counts : SettlementCounts) (health : ChannelHealth) (now : DateTime) :
          face (finding ext self counts health { ctx with events := some events } now) =
            face (finding ext self counts health ctx now) := rfl
      rw [ctxs, ctxs, face_reordered counted seen (single raised)]
    next => rfl

/-- Two local channels are inactive, and the one that is enumerated first is the bottleneck. -/
theorem inactive_channels_change_finding :
    let ext : External := {
      sha256 := fun bytes => String.ofList (bytes.map fun byte => Char.ofNat byte.toNat)
      jsonText := fun _ => "", rfc3339 := fun _ => "", jsonInstant := fun _ => "" }
    let channel (id : ChannelId) : Channel := {
      id, node := "self", peer := "peer", channelPoint := "", capacityMsat := 1000000
      liquidity := LiquidityProfile.compute 1000000 500000 500000
      feePolicy := { baseFeeMsat := 1000, feeRatePpm := 1 }
      openingHeight := none, localReserveMsat := none, remoteReserveMsat := none
      isPrivate := false, isInitiator := true
      totalSentMsat := none, totalReceivedMsat := none, status := .inactive, lastSeen := 0 }
    let expired (id : String) : NodeEvent := .invoiceExpired { id, storeId := none, amountMsat := none, timestamp := 0 }
    let found (channels : List Channel) :=
      faces ext (fun _ => 0) { localNode := "self" } { network := .mainnet } channels [expired "i1", expired "i2"]
    (found [channel "c1", channel "c2"]).map (·.1) ≠ (found [channel "c2", channel "c1"]).map (·.1) := by
  decide +kernel

end SettlementReliabilityDetector

end Rieko
