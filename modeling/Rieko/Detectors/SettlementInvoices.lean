import Rieko.Detectors.SettlementOrder
import Rieko.IngestBtcpay.Webhook

namespace Rieko

namespace NodeEvent

def FromWebhook (event : NodeEvent) : Prop :=
  ∃ ext now body, normalizeWebhookPayload ext now body = .ok event

theorem FromWebhook.isSettlement {event : NodeEvent} (webhook : event.FromWebhook) : event.isSettlement = true := by
  obtain ⟨ext, now, body, normalized⟩ := webhook
  exact normalizeWebhookPayload_isSettlement normalized

def invoiceIds (events : List NodeEvent) : List String := (events.filterMap (·.invoice)).map (·.1)

def distinctInvoices (events : List NodeEvent) : Nat := (invoiceIds events).dedup.length

/-- The window knows the event's invoice, with the same outcome. -/
def Repeats (event : NodeEvent) (events : List NodeEvent) : Prop :=
  ∃ known ∈ events, known.invoice.map (·.1) = event.invoice.map (·.1) ∧ known.failed = event.failed

theorem counted_once {event : NodeEvent} (settlement : event.isSettlement = true) :
    (if event.failed then 1 else 0) + (if event.succeeded then 1 else 0) = 1 ∧ event.invoice.isSome = true := by
  cases event <;> simp_all [isSettlement, failed, succeeded, invoice]

end NodeEvent

namespace SettlementReliabilityDetector

open NodeEvent

variable {events : List NodeEvent}

theorem total_eq_length (settlements : ∀ event ∈ events, event.isSettlement = true) :
    (SettlementCounts.of events).total = events.length := by
  rw [SettlementCounts.of_eq]
  simp only [SettlementCounts.total]
  induction events with
  | nil => rfl
  | cons event events ih =>
    have rest := ih fun other member => settlements other (List.mem_cons_of_mem _ member)
    have once := (counted_once (settlements event List.mem_cons_self)).1
    simp only [List.countP_cons, List.length_cons]
    omega

theorem invoiceIds_length (settlements : ∀ event ∈ events, event.isSettlement = true) :
    (invoiceIds events).length = events.length := by
  simp only [invoiceIds, List.length_map]
  induction events with
  | nil => rfl
  | cons event events ih =>
    have rest := ih fun other member => settlements other (List.mem_cons_of_mem _ member)
    have named := (counted_once (settlements event List.mem_cons_self)).2
    obtain ⟨invoice, is_named⟩ := Option.isSome_iff_exists.mp named
    simp only [List.filterMap_cons, is_named, List.length_cons, rest]

theorem dedup_length_eq {ids : List String} : ids.length = ids.dedup.length ↔ ids.Nodup := by
  constructor
  · intro same
    rw [← List.dedup_eq_self]
    exact (List.dedup_sublist ids).eq_of_length same.symm
  · intro distinct
    rw [List.dedup_eq_self.mpr distinct]

theorem total_eq_distinctInvoices (settlements : ∀ event ∈ events, event.isSettlement = true) :
    (SettlementCounts.of events).total = distinctInvoices events ↔ (invoiceIds events).Nodup := by
  rw [total_eq_length settlements, ← invoiceIds_length settlements, distinctInvoices]
  exact dedup_length_eq

structure SameVerdict (detector : SettlementReliabilityDetector) (counts counts' : SettlementCounts) : Prop where
  expired : counts.expired = counts'.expired
  settled : counts.settled = counts'.settled
  failureRate : counts.failureRate = counts'.failureRate
  raises : detector.raises counts = detector.raises counts'

/-- The detector counts the events of a window, which are its invoices where no two events name one. A further event
    of a known invoice is always counted. -/
theorem settlement_counts_invoices_iff (ext : External) (clock : Nat → DateTime) (self : SettlementReliabilityDetector)
    (view : GraphView) (ctx : DetectorContext) {events : List NodeEvent}
    (webhooks : ∀ event ∈ events, event.FromWebhook) :
    let counts := SettlementCounts.of events
    let found := self.run ext clock view { ctx with events := some events }
    (∀ finding ∈ found, finding.evidence.take 4 =
      [.number "expired_invoices" (.ofNat counts.expired), .number "settled_invoices" (.ofNat counts.settled),
        .number "total_invoices" (.ofNat counts.total), .number "failure_rate" counts.failureRate]) ∧
    ((∀ finding ∈ found, counts.expired + counts.settled = counts.total ∧ counts.total = distinctInvoices events) ↔
      (self.raises counts = true → (invoiceIds events).Nodup)) ∧
    ((∀ before after event, events = before ++ after → event.FromWebhook → event.Repeats events →
      SameVerdict self (.of (before ++ event :: after)) counts) ↔ events = []) := by
  intro counts found
  have settlements : ∀ event ∈ events, event.isSettlement = true := fun event member =>
    (webhooks event member).isSettlement
  have found_eq : found = if self.raises counts then
      [self.finding ext counts (.of self view) { ctx with events := some events } (clock 0)] else [] := rfl
  refine ⟨?_, ?_, ?_⟩
  · intro finding member
    rw [found_eq] at member
    split at member
    · rw [List.mem_singleton.mp member]
      rfl
    · cases member
  · rw [← total_eq_distinctInvoices settlements]
    constructor
    · intro all raised
      rw [found_eq, if_pos raised] at all
      exact (all _ (List.mem_singleton_self _)).2
    · intro law finding member
      rw [found_eq] at member
      split at member
      next raised => exact ⟨rfl, law raised⟩
      next => cases member
  · constructor
    · intro unchanged
      cases window : events with
      | nil => rfl
      | cons event rest =>
        have member : event ∈ events := by rw [window]; exact List.mem_cons_self
        have repeated : event.Repeats events := ⟨event, member, rfl, rfl⟩
        have same := unchanged [] events event rfl (webhooks event member) repeated
        have longer : (SettlementCounts.of (event :: events)).total = (event :: events).length :=
          total_eq_length fun other listed => by
            rcases List.mem_cons.mp listed with rfl | listed
            · exact settlements other member
            · exact settlements other listed
        have counted : counts.total = events.length := total_eq_length settlements
        have expired := same.expired
        have settled := same.settled
        simp only [List.nil_append] at expired settled
        simp only [SettlementCounts.total, List.length_cons] at longer counted
        omega
    · intro empty before after event split webhook repeated
      obtain ⟨known, member, -⟩ := repeated
      rw [empty] at member
      cases member

def normalized (ext : External) (bodies : List WebhookBody) : List NodeEvent :=
  bodies.filterMap fun body => (normalizeWebhookPayload ext 0 body).toOption

theorem fromWebhook_of_normalized {ext : External} {bodies : List WebhookBody} :
    ∀ event ∈ normalized ext bodies, event.FromWebhook := by
  intro event member
  obtain ⟨body, -, made⟩ := List.mem_filterMap.mp member
  cases ran : normalizeWebhookPayload ext 0 body with
  | error e => rw [ran] at made; cases made
  | ok other => rw [ran] at made; cases made; exact ⟨ext, 0, body, ran⟩

def invoiceWebhook (eventType invoiceId : String) : WebhookBody where
  envelope := .ok { deliveryId := eventType ++ invoiceId, webhookId := "webhook", eventType, timestamp := 0 }
  settled := .ok { storeId := "store", invoiceId }
  received := .ok { storeId := "store", invoiceId }
  expired := .ok { storeId := "store", invoiceId }

/-- Two invoices expire. -/
theorem settlement_counts_invoices_iff_expired :
    let ext : External := ⟨fun _ => "digest", fun _ => "null", fun _ => "instant", fun _ => "instant"⟩
    let events := normalized ext [invoiceWebhook "InvoiceExpired" "i1", invoiceWebhook "InvoiceExpired" "i2"]
    let counts := SettlementCounts.of events
    ∀ finding ∈ run ext (fun _ => 0) { localNode := "self" } ⟨[]⟩ { network := .mainnet, events := some events },
      counts.expired + counts.settled = counts.total ∧ counts.total = distinctInvoices events := by
  intro ext events counts
  have distinct : (invoiceIds events).Nodup := by decide
  exact (@settlement_counts_invoices_iff ext (fun _ => 0) { localNode := "self" } ⟨[]⟩ { network := .mainnet } events
    fromWebhook_of_normalized).2.1.mpr fun _ => distinct

/-- Two invoices expire, and a third one receives a payment and is settled: four of them are reported. -/
theorem settled_invoice_counted_twice :
    let ext : External := ⟨fun _ => "digest", fun _ => "null", fun _ => "instant", fun _ => "instant"⟩
    let events := normalized ext [invoiceWebhook "InvoiceExpired" "i1", invoiceWebhook "InvoiceExpired" "i2",
      invoiceWebhook "InvoiceReceivedPayment" "i3", invoiceWebhook "InvoiceSettled" "i3"]
    (∀ event ∈ events, event.FromWebhook) ∧ distinctInvoices events = 3 ∧
      (run ext (fun _ => 0) { localNode := "self" } ⟨[]⟩ { network := .mainnet, events := some events }).map
        (·.evidence.take 3) = [[.number "expired_invoices" (.ofNat 2), .number "settled_invoices" (.ofNat 2),
          .number "total_invoices" (.ofNat 4)]] := by
  intro ext events
  refine ⟨fromWebhook_of_normalized, by decide, ?_⟩
  have raised : raises { localNode := "self" } (SettlementCounts.of events) = true := by decide +kernel
  simp only [run, raised, if_true, List.map_singleton]
  rfl

end SettlementReliabilityDetector

end Rieko
