import Rieko.Domain.Time
import Rieko.Lib.Binary64

namespace Rieko

abbrev NodeId := String

abbrev ChannelId := String

inductive BitcoinNetwork where
  | mainnet | testnet | signet | regtest
deriving DecidableEq, Repr

def BitcoinNetwork.toString : BitcoinNetwork → String
  | .mainnet => "mainnet"
  | .testnet => "testnet"
  | .signet => "signet"
  | .regtest => "regtest"

/-- Declaration order, which the derived ordering of the enumeration follows. -/
def BitcoinNetwork.rank : BitcoinNetwork → Nat
  | .mainnet => 0
  | .testnet => 1
  | .signet => 2
  | .regtest => 3

inductive ChannelStatus where
  | opening | active | inactive | closing | closed
  | pendingOpen | waitingClose | forceClosing | unknown
deriving DecidableEq, Repr

namespace ChannelStatus

def isOpen : ChannelStatus → Bool
  | active | opening | pendingOpen => true
  | _ => false

def isClosed : ChannelStatus → Bool
  | closed | closing | waitingClose | forceClosing => true
  | _ => false

end ChannelStatus

inductive LiquidityImbalance where
  | balanced | outboundDrained | inboundDrained | severelyDrained
  | unknown
deriving DecidableEq, Repr

/-- Amounts are unsigned 64-bit millisatoshis. -/
@[ext]
structure LiquidityProfile where
  localRatio : Binary64
  localBalanceMsat : Nat
  remoteBalanceMsat : Nat
  inboundCapacityMsat : Nat
  outboundCapacityMsat : Nat
  spendableOutboundMsat : Nat
  spendableInboundMsat : Nat
  imbalance : LiquidityImbalance
deriving DecidableEq, Repr

namespace LiquidityProfile

def classify (localRatio : Binary64) : LiquidityImbalance :=
  if localRatio.lt (.ofRat (3/100)) then .severelyDrained
  else if (Binary64.ofRat (97/100)).lt localRatio then .severelyDrained
  else if localRatio.lt (.ofRat (10/100)) then .outboundDrained
  else if (Binary64.ofRat (90/100)).lt localRatio then .inboundDrained
  else .balanced

def compute (capacityMsat localBalanceMsat remoteBalanceMsat : Nat) : LiquidityProfile :=
  let ratio := (Binary64.ofNat localBalanceMsat).div (.ofNat capacityMsat)
  let invalid := capacityMsat = 0 ∨ capacityMsat < localBalanceMsat ∨ capacityMsat < remoteBalanceMsat
  { localRatio := if capacityMsat = 0 then .ofNat 0 else ratio
    localBalanceMsat
    remoteBalanceMsat
    inboundCapacityMsat := remoteBalanceMsat
    outboundCapacityMsat := localBalanceMsat
    spendableOutboundMsat := 0
    spendableInboundMsat := 0
    imbalance := if invalid then .unknown else classify ratio }

end LiquidityProfile

@[ext]
structure FeePolicy where
  baseFeeMsat : Nat := 1000
  feeRatePpm : Nat := 1
  minHtlcMsat : Nat := 1
  maxHtlcMsat : Option Nat := none
  cltvDelta : Nat := 40
deriving DecidableEq, Repr

@[ext]
structure Channel where
  id : ChannelId
  node : NodeId
  peer : NodeId
  channelPoint : String
  capacityMsat : Nat
  feePolicy : FeePolicy
  status : ChannelStatus
  liquidity : LiquidityProfile
  lastSeen : DateTime
  openingHeight : Option Nat
  localReserveMsat : Option Nat
  remoteReserveMsat : Option Nat
  isPrivate : Bool
  isInitiator : Bool
  totalSentMsat : Option Nat
  totalReceivedMsat : Option Nat
deriving DecidableEq, Repr

@[ext]
structure ChannelSnapshot where
  nodeId : Option String
  network : Option BitcoinNetwork
  stateDigest : Option String
  channelId : String
  localRatio : Binary64
  localBalanceMsat : Nat
  remoteBalanceMsat : Nat
  capacityMsat : Nat
  status : ChannelStatus
  ts : DateTime
  spendableOutboundMsat : Nat
  spendableInboundMsat : Nat
deriving DecidableEq, Repr

def ChannelSnapshot.fromChannel (channel : Channel) (ts : DateTime) (network : BitcoinNetwork) :
    ChannelSnapshot where
  nodeId := some channel.node
  network := some network
  stateDigest := none
  channelId := channel.id
  localRatio := channel.liquidity.localRatio
  localBalanceMsat := channel.liquidity.localBalanceMsat
  remoteBalanceMsat := channel.liquidity.remoteBalanceMsat
  capacityMsat := channel.capacityMsat
  status := channel.status
  ts := ts
  spendableOutboundMsat := channel.liquidity.spendableOutboundMsat
  spendableInboundMsat := channel.liquidity.spendableInboundMsat

/-- The parts of a polled node snapshot that are persisted. -/
structure NodeSnapshot where
  channels : List ChannelSnapshot
  capturedAt : DateTime
deriving DecidableEq, Repr

end Rieko
