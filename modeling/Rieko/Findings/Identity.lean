import Rieko.Findings.Action

namespace Rieko

/-- Functions of libraries outside the repository: the hexadecimal SHA-256 digest, the compact text
    of a JSON value and the RFC 3339 text of an instant, as a string and inside JSON. -/
structure External where
  sha256 : List UInt8 → String
  jsonText : Json → String
  rfc3339 : DateTime → String
  jsonInstant : DateTime → String

namespace Identity

def utf8 (text : String) : List UInt8 := text.toByteArray.data.toList

/-- The low `width` bytes of a number, most significant first. -/
def beBytes (width n : Nat) : List UInt8 :=
  (List.range width).reverse.map fun i => UInt8.ofNat (n / 256^i)

def field (bytes : List UInt8) : List UInt8 := beBytes 8 bytes.length ++ bytes

def optionalField : Option (List UInt8) → List UInt8
  | some value => 1 :: field value
  | none => [0]

def statusTag : ChannelStatus → UInt8
  | .opening => 0
  | .active => 1
  | .inactive => 2
  | .closing => 3
  | .closed => 4
  | .pendingOpen => 5
  | .waitingClose => 6
  | .forceClosing => 7
  | .unknown => 8

def imbalanceTag : LiquidityImbalance → UInt8
  | .balanced => 0
  | .outboundDrained => 1
  | .inboundDrained => 2
  | .severelyDrained => 3
  | .unknown => 4

def flagTag (flag : Bool) : UInt8 := if flag then 1 else 0

def networkBytes (network : BitcoinNetwork) : List UInt8 := utf8 network.toString

def findingIdentityBytes (detector detectorVersion : String) (network : Option BitcoinNetwork)
    (node channel : Option String) : List UInt8 :=
  field (utf8 "rieko-finding-v2") ++ field (utf8 detector) ++ field (utf8 detectorVersion) ++
    optionalField (network.map networkBytes) ++ optionalField (node.map utf8) ++
    optionalField (channel.map utf8)

def channelStateBytes (channel : Channel) : List UInt8 :=
  field (utf8 "rieko-channel-state-v1") ++ field (utf8 channel.id) ++ field (utf8 channel.node) ++
    field (utf8 channel.peer) ++ field (utf8 channel.channelPoint) ++ field (beBytes 8 channel.capacityMsat) ++
    field (beBytes 8 channel.feePolicy.baseFeeMsat) ++ field (beBytes 8 channel.feePolicy.feeRatePpm) ++
    field (beBytes 8 channel.feePolicy.minHtlcMsat) ++
    optionalField (channel.feePolicy.maxHtlcMsat.map (beBytes 8)) ++ field (beBytes 4 channel.feePolicy.cltvDelta) ++
    field [statusTag channel.status] ++ field (beBytes 8 channel.liquidity.localRatio.bits.toNat) ++
    field (beBytes 8 channel.liquidity.localBalanceMsat) ++ field (beBytes 8 channel.liquidity.remoteBalanceMsat) ++
    field (beBytes 8 channel.liquidity.inboundCapacityMsat) ++
    field (beBytes 8 channel.liquidity.outboundCapacityMsat) ++
    field (beBytes 8 channel.liquidity.spendableOutboundMsat) ++
    field (beBytes 8 channel.liquidity.spendableInboundMsat) ++ field [imbalanceTag channel.liquidity.imbalance] ++
    optionalField (channel.openingHeight.map (beBytes 4)) ++ optionalField (channel.localReserveMsat.map (beBytes 8)) ++
    optionalField (channel.remoteReserveMsat.map (beBytes 8)) ++ field [flagTag channel.isPrivate] ++
    field [flagTag channel.isInitiator] ++ optionalField (channel.totalSentMsat.map (beBytes 8)) ++
    optionalField (channel.totalReceivedMsat.map (beBytes 8))

def snapshotStateBytes (snapshot : ChannelSnapshot) : List UInt8 :=
  field (utf8 "rieko-channel-snapshot-state-v3") ++ optionalField (snapshot.nodeId.map utf8) ++
    optionalField (snapshot.network.map networkBytes) ++ field (utf8 snapshot.channelId) ++
    field (beBytes 8 snapshot.localRatio.bits.toNat) ++ field (beBytes 8 snapshot.localBalanceMsat) ++
    field (beBytes 8 snapshot.remoteBalanceMsat) ++ field (beBytes 8 snapshot.capacityMsat) ++
    field [statusTag snapshot.status] ++ field (beBytes 8 snapshot.spendableOutboundMsat) ++
    field (beBytes 8 snapshot.spendableInboundMsat)

def actionIdentityBytes (findingId : String) (actionType : ActionType) (target : Option String) :
    List UInt8 :=
  utf8 "rieko-action-v1" ++ [0] ++ utf8 findingId ++ [0] ++ utf8 actionType.asStr ++ [0] ++
    utf8 (target.getD "")

end Identity

open Identity

def findingIdentity (ext : External) (detector detectorVersion : String)
    (network : Option BitcoinNetwork) (node channel : Option String) : String :=
  "finding-" ++ ext.sha256 (findingIdentityBytes detector detectorVersion network node channel)

def channelStateDigest (ext : External) (channel : Channel) : String := ext.sha256 (channelStateBytes channel)

/-- Digest of the snapshot state. Its observation time is not part of it. -/
def channelSnapshotStateDigest (ext : External) (snapshot : ChannelSnapshot) : String :=
  ext.sha256 (snapshotStateBytes snapshot)

def actionIdentity (ext : External) (findingId : String) (actionType : ActionType)
    (target : Option String) : String :=
  "action-" ++ ext.sha256 (actionIdentityBytes findingId actionType target)

def Action.forRecommendation (ext : External) (now : DateTime) (findingId : String)
    (actionType : ActionType) (target : Option String) (params : Json) (summary : String) : Action where
  id := actionIdentity ext findingId actionType target
  actionType
  stage := .recommended
  target
  params
  summary
  createdAt := now
  updatedAt := now

end Rieko
