import Rieko.Domain.Channel
import Rieko.Lib.DecimalText
import Rieko.Lib.Text

namespace Rieko

structure LndChannel where
  channelPoint : String
  remotePubkey : String
  capacity : Int64
  localBalance : Int64
  remoteBalance : Int64
  chanStatusFlags : String
  localChanReserveSat : Option Int64 := none
  remoteChanReserveSat : Option Int64 := none
  private_ : Bool := false
  initiator : Bool := false
  totalSatoshisSent : Option Int64 := none
  totalSatoshisReceived : Option Int64 := none
deriving DecidableEq, Repr

inductive NormalizerError where
  | badChannelPoint (channelPoint : String)
  | negativeBalance (channel : String)
deriving DecidableEq, Repr

def NormalizerError.toString : NormalizerError → String
  | .badChannelPoint channelPoint => s!"malformed channel point `{channelPoint}`: expected txid:index"
  | .negativeBalance channel => s!"negative balance on channel {channel}"

namespace Normalizer

def u64TryFrom (n : Int64) : Option Nat := if 0 ≤ n.toInt then some n.toInt.toNat else none

/-- The product with 1000, which wraps around in a release build. -/
def msat (sats : Nat) : Nat := sats * 1000 % 2^64

def canonicalId (channelPoint : String) : ChannelId :=
  .ofList (channelPoint.toList.map fun c => if c = ':' then 'x' else c)

def flagBits (token : List Char) : Option UInt64 :=
  match String.ofList token with
  | "ChanStatusDefault" => some 0
  | "ChanStatusBorked" => some 1
  | "ChanStatusCommitBroadcasted" => some 2
  | "ChanStatusLocalDataLoss" => some 4
  | "ChanStatusRestored" => some 8
  | "ChanStatusCoopBroadcasted" => some 16
  | "ChanStatusLocalCloseInitiator" => some 32
  | "ChanStatusRemoteCloseInitiator" => some 64
  | _ => none

def tokenBits (token : List Char) : Option UInt64 :=
  match token with
  | '0' :: 'x' :: hex => (DecimalText.parseHexU64 hex).map UInt64.ofNat
  | token =>
    match DecimalText.parseU64 (.ofList token) with
    | some n => some (UInt64.ofNat n)
    | none => flagBits token

def knownBits : UInt64 := 1 ||| 2 ||| 4 ||| 8 ||| 16 ||| 32 ||| 64

def classifyStatusBits (bits known : UInt64) : ChannelStatus :=
  if bits &&& ~~~known ≠ 0 then .unknown
  else if bits = 0 then .active
  else if bits &&& (1 ||| 4) ≠ 0 then .forceClosing
  else if bits &&& (2 ||| 16) ≠ 0 then .closing
  else if bits &&& (32 ||| 64) ≠ 0 then .closing
  else if bits &&& 8 ≠ 0 then .opening
  else .unknown

/-- A token that is not understood, and a text without any, leave the status unknown. -/
def statusFromLndFlags (flags : String) : ChannelStatus :=
  let tokens := ((flags.toList.splitOn '|').map Text.trim).filter (!·.isEmpty)
  match tokens.mapM tokenBits with
  | none | some [] => .unknown
  | some bits => classifyStatusBits (bits.foldl (· ||| ·) 0) knownBits

def spendable (balance : Nat) (reserve : Option Nat) : Nat := (reserve.map (balance - ·)).getD 0

def channel (lnd : LndChannel) (localNode : NodeId) (seenAt : DateTime) : Except NormalizerError Channel :=
  let id := canonicalId lnd.channelPoint
  if ':' ∉ lnd.channelPoint.toList then .error (.badChannelPoint lnd.channelPoint)
  else
    match u64TryFrom lnd.localBalance, u64TryFrom lnd.remoteBalance with
    | none, _ | _, none => .error (.negativeBalance id)
    | some localSats, some remoteSats =>
      let capacityMsat := msat ((u64TryFrom lnd.capacity).getD 0)
      let localMsat := msat localSats
      let remoteMsat := msat remoteSats
      let localReserveMsat := (lnd.localChanReserveSat.bind u64TryFrom).map msat
      let remoteReserveMsat := (lnd.remoteChanReserveSat.bind u64TryFrom).map msat
      .ok
        { id
          node := localNode
          peer := lnd.remotePubkey
          channelPoint := lnd.channelPoint
          capacityMsat
          feePolicy := {}
          status := statusFromLndFlags lnd.chanStatusFlags
          liquidity := { LiquidityProfile.compute capacityMsat localMsat remoteMsat with
            spendableOutboundMsat := spendable localMsat localReserveMsat
            spendableInboundMsat := spendable remoteMsat remoteReserveMsat }
          lastSeen := seenAt
          openingHeight := none
          localReserveMsat
          remoteReserveMsat
          isPrivate := lnd.private_
          isInitiator := lnd.initiator
          totalSentMsat := (lnd.totalSatoshisSent.bind u64TryFrom).map msat
          totalReceivedMsat := (lnd.totalSatoshisReceived.bind u64TryFrom).map msat }

theorem msat_lt (sats : Nat) : msat sats < 2^64 := Nat.mod_lt _ (by decide)

theorem canonicalId_not_blank {channelPoint : String} (separated : ':' ∈ channelPoint.toList) :
    Text.isBlank (canonicalId channelPoint) = false := by
  refine Text.not_isBlank_of_mem (c := 'x') ?_ (by decide)
  unfold canonicalId
  rw [String.toList_ofList, List.mem_map]
  exact ⟨':', separated, rfl⟩

theorem channel_ok {lnd : LndChannel} {localNode : NodeId} {seenAt : DateTime} {built : Channel}
    (normalized : channel lnd localNode seenAt = .ok built) :
    Text.isBlank built.id = false ∧ built.id = canonicalId lnd.channelPoint ∧ built.node = localNode ∧
      built.peer = lnd.remotePubkey ∧ built.lastSeen = seenAt ∧ built.capacityMsat < 2^64 ∧
      ∃ localMsat remoteMsat outbound inbound, localMsat < 2^64 ∧ remoteMsat < 2^64 ∧
        built.liquidity = { LiquidityProfile.compute built.capacityMsat localMsat remoteMsat with
          spendableOutboundMsat := outbound, spendableInboundMsat := inbound } := by
  unfold channel at normalized
  dsimp only at normalized
  split at normalized
  · cases normalized
  next separated =>
    split at normalized
    · cases normalized
    · cases normalized
    · cases normalized
      exact ⟨canonicalId_not_blank (not_not.mp separated), rfl, rfl, rfl, rfl, msat_lt _, _, _, _, _, msat_lt _,
        msat_lt _, rfl⟩

end Normalizer

end Rieko
