import Rieko.Detectors.Registry

namespace Rieko

structure SettlementReliabilityThresholds where
  minFailedInvoices : Nat := 2
  warnFailureRate : Binary64 := .ofRat (40/100)
  criticalFailureRate : Binary64 := .ofRat (70/100)
  drainedRatioBar : Binary64 := .ofRat (10/100)
deriving DecidableEq, Repr

structure SettlementReliabilityDetector where
  thresholds : SettlementReliabilityThresholds := {}
  localNode : NodeId
deriving DecidableEq, Repr

structure SettlementCounts where
  expired : Nat := 0
  settled : Nat := 0
  invoiceIds : List String := []
  storeIds : List String := []
  observedAt : List DateTime := []
deriving DecidableEq, Repr

namespace SettlementCounts

def invoice (counts : SettlementCounts) (id : String) (storeId : Option String) (at_ : DateTime) :
    SettlementCounts :=
  { counts with
    invoiceIds := counts.invoiceIds ++ [id]
    storeIds := counts.storeIds ++ storeId.toList
    observedAt := counts.observedAt ++ [at_] }

def record (counts : SettlementCounts) : NodeEvent → SettlementCounts
  | .invoiceExpired e => { counts.invoice e.id e.storeId e.timestamp with expired := counts.expired + 1 }
  | .invoiceSettled e => { counts.invoice e.id e.storeId e.timestamp with settled := counts.settled + 1 }
  | .invoicePaymentReceived e =>
    { counts.invoice e.id e.storeId e.timestamp with settled := counts.settled + 1 }
  | .paymentAttempt .failed _ | .paymentMetric .failed _ => { counts with expired := counts.expired + 1 }
  | .paymentAttempt .succeeded _ | .paymentMetric .succeeded _ => { counts with settled := counts.settled + 1 }
  | _ => counts

def of (events : List NodeEvent) : SettlementCounts := events.foldl record {}

def total (counts : SettlementCounts) : Nat := counts.expired + counts.settled

def failureRate (counts : SettlementCounts) : Binary64 :=
  (Binary64.ofNat counts.expired).div (.ofNat counts.total)

end SettlementCounts

namespace SettlementReliabilityDetector

def id : String := "settlement_reliability"

def version : String := "1"

structure ChannelHealth where
  drained : List Channel
  inactive : List Channel
deriving DecidableEq, Repr

namespace ChannelHealth

def of (self : SettlementReliabilityDetector) (view : GraphView) : ChannelHealth :=
  let own := view.channels.filter (·.node = self.localNode)
  { inactive := own.filter (·.status = .inactive)
    drained := own.filter fun channel => channel.status ≠ .inactive && channel.status.isOpen &&
      channel.liquidity.localRatio.lt self.thresholds.drainedRatioBar }

def mostDrained : List Channel → Option Channel :=
  List.foldl (fun least channel => match least with
    | none => some channel
    | some held =>
      if channel.liquidity.localRatio.lt held.liquidity.localRatio then some channel else some held) none

def bottleneck (health : ChannelHealth) : Option Channel :=
  (mostDrained health.drained).or health.inactive.head?

def degraded (health : ChannelHealth) : Bool := !health.drained.isEmpty || !health.inactive.isEmpty

end ChannelHealth

def severity (self : SettlementReliabilityDetector) (counts : SettlementCounts) (health : ChannelHealth) :
    Severity :=
  if self.thresholds.criticalFailureRate.le counts.failureRate || decide (5 ≤ counts.expired) ||
      (!health.drained.isEmpty && !health.inactive.isEmpty) then .critical
  else .warning

def diagnosis (chainSynchronized : Option Bool) (degraded : Bool) : String :=
  match chainSynchronized, degraded with
  | some false, _ => "chain_sync_lag"
  | some true, true => "lightning_settlement_degraded"
  | _, _ => "invoice_settlement_degraded"

def rootCause (chainSynchronized : Option Bool) (degraded : Bool) : String :=
  match chainSynchronized, degraded with
  | some false, _ => "bitcoin_core_desynchronized"
  | some true, true => "lightning_operational_degradation"
  | _, _ => "undetermined"

def distinctSorted (texts : List String) : List String := texts.dedup.insertionSort (· ≤ ·)

def window (ext : External) (observedAt : List DateTime) : List Evidence :=
  let sorted := observedAt.insertionSort (· ≤ ·)
  match sorted.head?, sorted.getLast? with
  | some first, some last =>
    [.string "window_started_at" (ext.rfc3339 first), .string "window_ended_at" (ext.rfc3339 last)]
  | _, _ => []

def evidence (ext : External) (counts : SettlementCounts) (health : ChannelHealth) (ctx : DetectorContext) :
    List Evidence :=
  [.number "expired_invoices" (.ofNat counts.expired),
    .number "settled_invoices" (.ofNat counts.settled),
    .number "total_invoices" (.ofNat counts.total),
    .number "failure_rate" counts.failureRate,
    .number "drained_channels_count" (.ofNat health.drained.length),
    .number "inactive_channels_count" (.ofNat health.inactive.length),
    .string "chain_synchronized" (match ctx.chainSynchronized with
      | some true => "true"
      | some false => "false"
      | none => "unknown"),
    .string "diagnosis" (diagnosis ctx.chainSynchronized health.degraded),
    .string "root_cause" (rootCause ctx.chainSynchronized health.degraded),
    ⟨"invoice_ids", .array ((distinctSorted counts.invoiceIds).map .string)⟩,
    ⟨"store_ids", .array ((distinctSorted counts.storeIds).map .string)⟩] ++
    window ext counts.observedAt ++
    (health.bottleneck.map fun channel => Evidence.string "bottleneck_channel" channel.id).toList

def provenance (ext : External) (health : ChannelHealth) (ctx : DetectorContext) (now : DateTime) :
    Option FindingProvenance :=
  ctx.source.map fun source =>
    { network := some ctx.network
      source
      producers := provenanceProducers ctx.normalizer id version
      observation := match health.bottleneck with
        | some channel => .channelState channel.id
          { network := some ctx.network
            observedAt := channel.lastSeen
            stateDigest := channelSnapshotStateDigest ext
              (.fromChannel channel channel.lastSeen ctx.network) }
        | none => .channelState ""
          { network := some ctx.network
            observedAt := now
            stateDigest := "composite-operational-digest" } }

def explanation (counts : SettlementCounts) (health : ChannelHealth) (ctx : DetectorContext) : String :=
  let percent := (counts.failureRate.mul (.ofNat 100)).toFixed 1
  match ctx.chainSynchronized, health.degraded with
  | some true, true =>
    s!"Lightning settlement reliability degraded: {counts.expired} of {counts.total} invoices failed or " ++
      s!"expired ({percent}% failure rate). Bitcoin Core is synchronized, confirming root cause is " ++
      s!"Lightning channel liquidity exhaustion ({health.drained.length} drained, " ++
      s!"{health.inactive.length} inactive)."
  | some false, _ =>
    "Invoice settlements failing due to Bitcoin Core synchronization lag " ++
      s!"({counts.expired} expired invoices)."
  | _, _ =>
    s!"Invoice settlement reliability degraded: {counts.expired} of {counts.total} invoices failed or " ++
      s!"expired ({percent}% failure rate). Direct Bitcoin and Lightning evidence is not yet available, " ++
      "so the root cause is undetermined."

def finding (ext : External) (self : SettlementReliabilityDetector) (counts : SettlementCounts)
    (health : ChannelHealth) (ctx : DetectorContext) (now : DateTime) : Finding where
  id := findingIdentity ext id version (some ctx.network) (some self.localNode)
    (health.bottleneck.map (·.id))
  detector := id
  detectorVersion := version
  schemaVersion := findingSchemaVersion
  severity := self.severity counts health
  node := some self.localNode
  channel := health.bottleneck.map (·.id)
  evidence := evidence ext counts health ctx
  provenance := provenance ext health ctx now
  explanation := some (explanation counts health ctx)
  timestamp := now
  firstSeenAt := now
  lastSeenAt := now
  lifecycle := .active

def raises (self : SettlementReliabilityDetector) (counts : SettlementCounts) : Bool :=
  counts.total ≠ 0 && decide (self.thresholds.minFailedInvoices ≤ counts.expired) &&
    !counts.failureRate.lt self.thresholds.warnFailureRate

def run (ext : External) (clock : Nat → DateTime) (self : SettlementReliabilityDetector) (view : GraphView)
    (ctx : DetectorContext) : List Finding :=
  match ctx.events with
  | none => []
  | some events =>
    let counts := SettlementCounts.of events
    if self.raises counts then [self.finding ext counts (.of self view) ctx (clock 0)] else []

def detector (ext : External) (clock : Nat → DateTime) (self : SettlementReliabilityDetector) : Detector where
  id := id
  version := version
  run := self.run ext clock
  isComplete _ ctx := ctx.events.isSome

end SettlementReliabilityDetector

end Rieko
