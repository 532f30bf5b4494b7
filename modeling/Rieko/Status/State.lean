import Rieko.Domain.Channel

namespace Rieko

structure BitcoinCoreSnapshot where
  network : BitcoinNetwork
  blockHeight : Nat
  headerHeight : Nat
  synchronized : Bool
  observedAt : DateTime
deriving DecidableEq, Repr

structure LightningSnapshot where
  nodeId : String
  syncedToChain : Bool
  activeChannels : Nat
  inactiveChannels : Nat
  observedAt : DateTime
deriving DecidableEq, Repr

structure BitcoinCoreState where
  connected : Bool
  lastAttempt : DateTime
  lastSuccess : Option DateTime
  snapshot : Option BitcoinCoreSnapshot
deriving DecidableEq, Repr

structure LightningState where
  connected : Bool
  lastAttempt : DateTime
  lastSuccess : Option DateTime
  snapshot : Option LightningSnapshot
deriving DecidableEq, Repr

inductive SourceState where
  | fixture
  | lndRest (connected : Bool)
  | btcPayGreenfield (connected : Bool)
deriving DecidableEq, Repr

namespace SourceState

def connected : SourceState → Bool
  | .fixture => true
  | .lndRest connected => connected
  | .btcPayGreenfield connected => connected

def asStr : SourceState → String
  | .fixture => "fixture"
  | .lndRest _ => "lnd_rest"
  | .btcPayGreenfield _ => "btcpay_greenfield"

end SourceState

inductive ComponentState where
  | notConfigured | configured | healthy | failing
deriving DecidableEq, Repr

def ComponentState.asStr : ComponentState → String
  | .notConfigured => "not_configured"
  | .configured => "configured"
  | .healthy => "healthy"
  | .failing => "failing"

/-- The durable operational state. The default is the state before anything was recorded. -/
structure OperationalState where
  source : SourceState := .fixture
  lastIngestionAttempt : Option DateTime := none
  lastIngestionSuccess : Option DateTime := none
  lastCycleAttempt : Option DateTime := none
  lastCycleSuccess : Option DateTime := none
  lastPersistSuccess : Option DateTime := none
  sourceDataAt : Option DateTime := none
  bitcoinCore : Option BitcoinCoreState := none
  lightning : Option LightningState := none
  llm : ComponentState := .notConfigured
  alertSink : ComponentState := .notConfigured
  cleanup : ComponentState := .notConfigured
  lastCleanupAttempt : Option DateTime := none
  lastCleanupSuccess : Option DateTime := none
deriving DecidableEq, Repr

end Rieko
