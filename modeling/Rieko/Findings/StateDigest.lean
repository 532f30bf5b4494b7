import Rieko.Findings.Identity
import Rieko.Lib.Framing

namespace Rieko

namespace Identity

open Framing

section Bytes

theorem utf8_inj {text other : String} : utf8 text = utf8 other ↔ text = other := by
  unfold utf8
  rw [Array.toList_inj, ← ByteArray.ext_iff, String.toByteArray_inj]

theorem length_beBytes (width n : Nat) : (beBytes width n).length = width := by simp [beBytes]

theorem beBytes_succ (width n : Nat) : beBytes (width + 1) n = UInt8.ofNat (n / 256^width) :: beBytes width n := by
  simp [beBytes, List.range_succ]

theorem beBytes_mod {width n m : Nat} (same : beBytes width n = beBytes width m) : n % 256^width = m % 256^width := by
  induction width with
  | zero => rw [Nat.pow_zero, Nat.mod_one, Nat.mod_one]
  | succ width ih =>
    rw [beBytes_succ, beBytes_succ] at same
    obtain ⟨high, low⟩ := List.cons.inj same
    have digit : n / 256^width % 256 = m / 256^width % 256 := by
      have values := congrArg UInt8.toNat high
      simpa using values
    rw [Nat.mod_pow_succ, Nat.mod_pow_succ, ih low, digit]

theorem beBytes_inj {width n m : Nat} (small : n < 256^width) (small' : m < 256^width) :
    beBytes width n = beBytes width m ↔ n = m := by
  refine ⟨fun same => ?_, fun same => same ▸ rfl⟩
  have rests := beBytes_mod same
  rwa [Nat.mod_eq_of_lt small, Nat.mod_eq_of_lt small'] at rests

theorem statusTag_inj {status other : ChannelStatus} : statusTag status = statusTag other ↔ status = other := by
  cases status <;> cases other <;> decide

theorem imbalanceTag_inj {imbalance other : LiquidityImbalance} :
    imbalanceTag imbalance = imbalanceTag other ↔ imbalance = other := by
  cases imbalance <;> cases other <;> decide

theorem flagTag_inj {flag other : Bool} : flagTag flag = flagTag other ↔ flag = other := by
  cases flag <;> cases other <;> decide

theorem networkBytes_inj {network other : BitcoinNetwork} :
    networkBytes network = networkBytes other ↔ network = other := by
  unfold networkBytes
  rw [utf8_inj]
  cases network <;> cases other <;> decide

end Bytes

/-- A field as it goes into a digest: after its length, and after a mark where it may be missing. -/
inductive Part where
  | required (bytes : List UInt8)
  | optional (bytes : Option (List UInt8))
deriving DecidableEq

namespace Part

def encode : Part → List UInt8
  | .required bytes => field bytes
  | .optional bytes => optionalField bytes

def isOptional : Part → Bool
  | .required _ => false
  | .optional _ => true

def Short : Part → Prop
  | .required bytes => bytes.length < 2^64
  | .optional bytes => ∀ text ∈ bytes, text.length < 2^64

theorem encode_required (bytes : List UInt8) : encode (.required bytes) = field bytes := rfl

theorem encode_optional (bytes : Option (List UInt8)) : encode (.optional bytes) = optionalField bytes := rfl

theorem field_delimited : Delimited (fun bytes => bytes.length < 2^64) field :=
  Delimited.counted (length_beBytes 8) fun _ _ small small' => (beBytes_inj small small').mp

theorem optionalField_delimited : Delimited (fun value => ∀ bytes ∈ value, bytes.length < 2^64) optionalField := by
  have marked : Delimited _ _ := Delimited.optional (by decide : (1 : UInt8) ≠ 0) field_delimited
  intro a b
  have both := marked a b
  cases a <;> cases b <;> exact both

theorem encode_delimited (optional : Bool) :
    Delimited (fun part => Short part ∧ isOptional part = optional) encode := by
  intro a b rest rest' fitsA fitsB same
  have kinds : isOptional a = isOptional b := fitsA.2.trans fitsB.2.symm
  cases a with
  | required x =>
    cases b with
    | required y =>
      have front := field_delimited x y rest rest' fitsA.1 fitsB.1 same
      exact ⟨congrArg _ front.1, front.2⟩
    | optional y => cases kinds
  | optional x =>
    cases b with
    | required y => cases kinds
    | optional y =>
      have front := optionalField_delimited x y rest rest' fitsA.1 fitsB.1 same
      exact ⟨congrArg _ front.1, front.2⟩

end Part

end Identity

open Identity Framing

inductive DigestInput where
  | findingIdentity (detector detectorVersion : String) (network : Option BitcoinNetwork) (node channel : Option String)
  | channelState (channel : Channel)
  | channelSnapshotState (snapshot : ChannelSnapshot)
deriving DecidableEq

namespace DigestInput

def bytes : DigestInput → List UInt8
  | .findingIdentity detector detectorVersion network node channel =>
    findingIdentityBytes detector detectorVersion network node channel
  | .channelState channel => channelStateBytes channel
  | .channelSnapshotState snapshot => snapshotStateBytes snapshot

def result (ext : External) : DigestInput → String
  | .findingIdentity detector detectorVersion network node channel =>
    Rieko.findingIdentity ext detector detectorVersion network node channel
  | .channelState channel => channelStateDigest ext channel
  | .channelSnapshotState snapshot => channelSnapshotStateDigest ext snapshot

def format : DigestInput → String
  | .findingIdentity .. => "rieko-finding-v2"
  | .channelState _ => "rieko-channel-state-v1"
  | .channelSnapshotState _ => "rieko-channel-snapshot-state-v3"

/-- What a digest is to depend on. The time of an observation and a stored digest are left out. -/
def included : DigestInput → DigestInput
  | .findingIdentity detector detectorVersion network node channel =>
    .findingIdentity detector detectorVersion network node channel
  | .channelState channel => .channelState { channel with lastSeen := 0 }
  | .channelSnapshotState snapshot => .channelSnapshotState { snapshot with ts := 0, stateDigest := none }

def texts : DigestInput → List String
  | .findingIdentity detector detectorVersion _ node channel =>
    [detector, detectorVersion] ++ node.toList ++ channel.toList
  | .channelState channel => [channel.id, channel.node, channel.peer, channel.channelPoint]
  | .channelSnapshotState snapshot => snapshot.channelId :: snapshot.nodeId.toList

def longs : DigestInput → List Nat
  | .findingIdentity .. => []
  | .channelState channel =>
    [channel.capacityMsat, channel.feePolicy.baseFeeMsat, channel.feePolicy.feeRatePpm, channel.feePolicy.minHtlcMsat,
      channel.liquidity.localBalanceMsat, channel.liquidity.remoteBalanceMsat, channel.liquidity.inboundCapacityMsat,
      channel.liquidity.outboundCapacityMsat, channel.liquidity.spendableOutboundMsat,
      channel.liquidity.spendableInboundMsat] ++ channel.feePolicy.maxHtlcMsat.toList ++
      channel.localReserveMsat.toList ++ channel.remoteReserveMsat.toList ++ channel.totalSentMsat.toList ++
      channel.totalReceivedMsat.toList
  | .channelSnapshotState snapshot =>
    [snapshot.localBalanceMsat, snapshot.remoteBalanceMsat, snapshot.capacityMsat, snapshot.spendableOutboundMsat,
      snapshot.spendableInboundMsat]

def words : DigestInput → List Nat
  | .channelState channel => channel.feePolicy.cltvDelta :: channel.openingHeight.toList
  | _ => []

/-- What the types of the fields promise: texts that fit into memory, and numbers of 64 and of 32 bits. -/
structure Typed (input : DigestInput) : Prop where
  texts : ∀ text ∈ input.texts, text.utf8ByteSize < 2^64
  longs : ∀ n ∈ input.longs, n < 2^64
  words : ∀ n ∈ input.words, n < 2^32

def parts : DigestInput → List Part
  | .findingIdentity detector detectorVersion network node channel =>
    [.required (utf8 "rieko-finding-v2"), .required (utf8 detector), .required (utf8 detectorVersion),
      .optional (network.map networkBytes), .optional (node.map utf8), .optional (channel.map utf8)]
  | .channelState channel =>
    [.required (utf8 "rieko-channel-state-v1"), .required (utf8 channel.id), .required (utf8 channel.node),
      .required (utf8 channel.peer), .required (utf8 channel.channelPoint), .required (beBytes 8 channel.capacityMsat),
      .required (beBytes 8 channel.feePolicy.baseFeeMsat), .required (beBytes 8 channel.feePolicy.feeRatePpm),
      .required (beBytes 8 channel.feePolicy.minHtlcMsat),
      .optional (channel.feePolicy.maxHtlcMsat.map (beBytes 8)), .required (beBytes 4 channel.feePolicy.cltvDelta),
      .required [statusTag channel.status], .required (beBytes 8 channel.liquidity.localRatio.bits.toNat),
      .required (beBytes 8 channel.liquidity.localBalanceMsat),
      .required (beBytes 8 channel.liquidity.remoteBalanceMsat),
      .required (beBytes 8 channel.liquidity.inboundCapacityMsat),
      .required (beBytes 8 channel.liquidity.outboundCapacityMsat),
      .required (beBytes 8 channel.liquidity.spendableOutboundMsat),
      .required (beBytes 8 channel.liquidity.spendableInboundMsat),
        .required [imbalanceTag channel.liquidity.imbalance],
      .optional (channel.openingHeight.map (beBytes 4)), .optional (channel.localReserveMsat.map (beBytes 8)),
      .optional (channel.remoteReserveMsat.map (beBytes 8)), .required [flagTag channel.isPrivate],
      .required [flagTag channel.isInitiator], .optional (channel.totalSentMsat.map (beBytes 8)),
      .optional (channel.totalReceivedMsat.map (beBytes 8))]
  | .channelSnapshotState snapshot =>
    [.required (utf8 "rieko-channel-snapshot-state-v3"), .optional (snapshot.nodeId.map utf8),
      .optional (snapshot.network.map networkBytes), .required (utf8 snapshot.channelId),
      .required (beBytes 8 snapshot.localRatio.bits.toNat), .required (beBytes 8 snapshot.localBalanceMsat),
      .required (beBytes 8 snapshot.remoteBalanceMsat), .required (beBytes 8 snapshot.capacityMsat),
      .required [statusTag snapshot.status], .required (beBytes 8 snapshot.spendableOutboundMsat),
      .required (beBytes 8 snapshot.spendableInboundMsat)]

variable {a b : DigestInput}

theorem bytes_eq (input : DigestInput) : input.bytes = input.parts.flatMap Part.encode := by
  cases input with
  | findingIdentity detector detectorVersion network node channel =>
    unfold bytes parts findingIdentityBytes
    simp only [List.flatMap_cons, List.flatMap_nil, List.append_assoc, List.append_nil, Part.encode_required,
      Part.encode_optional]
  | channelState channel =>
    unfold bytes parts channelStateBytes
    simp only [List.flatMap_cons, List.flatMap_nil, List.append_assoc, List.append_nil, Part.encode_required,
      Part.encode_optional]
  | channelSnapshotState snapshot =>
    unfold bytes parts snapshotStateBytes
    simp only [List.flatMap_cons, List.flatMap_nil, List.append_assoc, List.append_nil, Part.encode_required,
      Part.encode_optional]

theorem bytes_included (input : DigestInput) : input.included.bytes = input.bytes := by cases input <;> rfl

theorem result_included (ext : External) (input : DigestInput) : input.included.result ext = input.result ext := by
  cases input <;> rfl

section Typed

theorem short_text {text : String} (typed : text.utf8ByteSize < 2^64) : (Part.required (utf8 text)).Short := typed

theorem short_long (n : Nat) : (Part.required (beBytes 8 n)).Short := by
  show (beBytes 8 n).length < 2^64
  rw [length_beBytes]
  decide

theorem short_byte (byte : UInt8) : (Part.required [byte]).Short := show 1 < 2^64 by decide

theorem short_number {width : Nat} (narrow : width < 2^64) (value : Option Nat) :
    (Part.optional (value.map (beBytes width))).Short := by
  intro text written
  obtain ⟨n, -, rfl⟩ := Option.map_eq_some_iff.mp written
  rwa [length_beBytes]

theorem short_optionalText {value : Option String} (typed : ∀ text ∈ value.toList, text.utf8ByteSize < 2^64) :
    (Part.optional (value.map utf8)).Short := by
  intro bytes written
  obtain ⟨text, given, rfl⟩ := Option.map_eq_some_iff.mp written
  exact typed text (Option.mem_toList.mpr given)

theorem short_network (network : Option BitcoinNetwork) : (Part.optional (network.map networkBytes)).Short := by
  intro bytes written
  obtain ⟨name, -, rfl⟩ := Option.map_eq_some_iff.mp written
  cases name <;> decide

theorem Typed.short (typed : a.Typed) : ∀ part ∈ a.parts, part.Short := by
  have texts := typed.texts
  cases a with
  | findingIdentity detector detectorVersion network node channel =>
    simp only [DigestInput.texts, List.mem_append, or_imp, forall_and, List.forall_mem_cons] at texts
    unfold parts
    simp only [List.forall_mem_cons]
    exact ⟨short_text (by decide), short_text texts.1.1.1, short_text texts.1.1.2.1, short_network network,
      short_optionalText texts.1.2, short_optionalText texts.2, by simp⟩
  | channelState channel =>
    simp only [DigestInput.texts, List.forall_mem_cons] at texts
    unfold parts
    simp only [List.forall_mem_cons, short_long, short_byte, short_number (by decide : 8 < 2^64),
      short_number (by decide : 4 < 2^64), true_and]
    exact ⟨short_text (by decide), short_text texts.1, short_text texts.2.1, short_text texts.2.2.1,
      short_text texts.2.2.2.1, by simp [Part.Short, length_beBytes]⟩
  | channelSnapshotState snapshot =>
    simp only [DigestInput.texts, List.forall_mem_cons] at texts
    unfold parts
    simp only [List.forall_mem_cons, short_long, short_byte, true_and]
    exact ⟨short_text (by decide), short_optionalText texts.2, short_network snapshot.network, short_text texts.1,
      by simp⟩

end Typed

theorem format_eq_of_bytes (same : a.bytes = b.bytes) : a.format = b.format := by
  have front (input : DigestInput) : ∃ rest, input.bytes = field (utf8 input.format) ++ rest := by
    rw [bytes_eq]
    cases input <;> exact ⟨_, rfl⟩
  have short (input : DigestInput) : (utf8 input.format).length < 2^64 := by
    cases input <;> dsimp only [format] <;> decide
  obtain ⟨rest, frontA⟩ := front a
  obtain ⟨rest', frontB⟩ := front b
  rw [frontA, frontB] at same
  exact utf8_inj.mp (Part.field_delimited _ _ rest rest' (short a) (short b) same).1

theorem parts_eq_of_bytes (typedA : a.Typed) (typedB : b.Typed)
    (kinds : a.parts.map Part.isOptional = b.parts.map Part.isOptional) (same : a.bytes = b.bytes) :
    a.parts = b.parts := by
  rw [bytes_eq, bytes_eq] at same
  have delimited := Delimited.sequence Part.encode_delimited (b.parts.map Part.isOptional)
  exact (delimited.inj ⟨typedA.short, kinds⟩ ⟨typedB.short, rfl⟩).mp same

theorem longs_inj {n m : Nat} (typed : n < 2^64) (typed' : m < 2^64) : beBytes 8 n = beBytes 8 m ↔ n = m :=
  beBytes_inj typed typed'

theorem ratio_inj {ratio other : Binary64} :
    beBytes 8 ratio.bits.toNat = beBytes 8 other.bits.toNat ↔ ratio = other := by
  rw [longs_inj ratio.bits.isLt other.bits.isLt, BitVec.toNat_inj, Binary64.mk.injEq]

theorem numbers_inj {width : Nat} {value other : Option Nat} (typed : ∀ n ∈ value.toList, n < 256^width)
    (typed' : ∀ n ∈ other.toList, n < 256^width) :
    value.map (beBytes width) = other.map (beBytes width) ↔ value = other := by
  cases value with
  | none => cases other <;> simp
  | some n =>
    cases other with
    | none => simp
    | some m => simpa using beBytes_inj (typed n (by simp)) (typed' m (by simp))

theorem optionalLongs_inj {value other : Option Nat} (typed : ∀ n ∈ value.toList, n < 2^64)
    (typed' : ∀ n ∈ other.toList, n < 2^64) : value.map (beBytes 8) = other.map (beBytes 8) ↔ value = other :=
  numbers_inj typed typed'

theorem words_inj {n m : Nat} (typed : n < 2^32) (typed' : m < 2^32) : beBytes 4 n = beBytes 4 m ↔ n = m :=
  beBytes_inj typed typed'

theorem optionalWords_inj {value other : Option Nat} (typed : ∀ n ∈ value.toList, n < 2^32)
    (typed' : ∀ n ∈ other.toList, n < 2^32) : value.map (beBytes 4) = other.map (beBytes 4) ↔ value = other :=
  numbers_inj typed typed'

theorem optionalText_inj {value other : Option String} : value.map utf8 = other.map utf8 ↔ value = other :=
  (Option.map_injective fun _ _ => utf8_inj.mp).eq_iff

theorem network_inj {network other : Option BitcoinNetwork} :
    network.map networkBytes = other.map networkBytes ↔ network = other :=
  (Option.map_injective fun _ _ => networkBytes_inj.mp).eq_iff

theorem channelState_inj {channel other : Channel} (typed : (channelState channel).Typed)
    (typed' : (channelState other).Typed) (same : (channelState channel).parts = (channelState other).parts) :
    { channel with lastSeen := 0 } = { other with lastSeen := 0 } := by
  have longs := typed.longs
  have longs' := typed'.longs
  have words := typed.words
  have words' := typed'.words
  simp only [DigestInput.longs, DigestInput.words, List.mem_append, or_imp, forall_and, List.forall_mem_cons]
    at longs longs' words words'
  obtain ⟨⟨⟨⟨⟨amounts, most⟩, reserve⟩, reserve'⟩, sent⟩, received⟩ := longs
  obtain ⟨⟨⟨⟨⟨amounts', most'⟩, otherReserve⟩, otherReserve'⟩, sent'⟩, received'⟩ := longs'
  obtain ⟨capacity, base, rate, least, local_, remote, inbound, outbound, sendable, receivable, -⟩ := amounts
  obtain ⟨capacity', base', rate', least', local', remote', inbound', outbound', sendable', receivable', -⟩ := amounts'
  simp only [parts, List.cons.injEq, Part.required.injEq, Part.optional.injEq, and_true, true_and, utf8_inj,
    statusTag_inj, imbalanceTag_inj, flagTag_inj, ratio_inj, longs_inj capacity capacity', longs_inj base base',
    longs_inj rate rate', longs_inj least least', longs_inj local_ local', longs_inj remote remote',
    longs_inj inbound inbound', longs_inj outbound outbound', longs_inj sendable sendable',
    longs_inj receivable receivable', optionalLongs_inj most most', optionalLongs_inj reserve otherReserve,
    optionalLongs_inj reserve' otherReserve', optionalLongs_inj sent sent', optionalLongs_inj received received',
    words_inj words.1 words'.1, optionalWords_inj words.2 words'.2] at same
  obtain ⟨id, node, peer, point, capacity, base, rate, least, most, delta, status, ratio, local_, remote, inbound,
    outbound, sendable, receivable, imbalance, height, reserve, reserve', private_, initiator, sent, received⟩ := same
  exact Channel.ext id node peer point capacity (FeePolicy.ext base rate least most delta) status
    (LiquidityProfile.ext ratio local_ remote inbound outbound sendable receivable imbalance) rfl height reserve
    reserve' private_ initiator sent received

theorem channelSnapshotState_inj {snapshot other : ChannelSnapshot} (typed : (channelSnapshotState snapshot).Typed)
    (typed' : (channelSnapshotState other).Typed)
    (same : (channelSnapshotState snapshot).parts = (channelSnapshotState other).parts) :
    { snapshot with ts := 0, stateDigest := none } = { other with ts := 0, stateDigest := none } := by
  have longs := typed.longs
  have longs' := typed'.longs
  simp only [DigestInput.longs, List.forall_mem_cons] at longs longs'
  obtain ⟨local_, remote, capacity, sendable, receivable, -⟩ := longs
  obtain ⟨local', remote', capacity', sendable', receivable', -⟩ := longs'
  simp only [parts, List.cons.injEq, Part.required.injEq, Part.optional.injEq, and_true, true_and, utf8_inj,
    optionalText_inj, network_inj, statusTag_inj, ratio_inj, longs_inj local_ local', longs_inj remote remote',
    longs_inj capacity capacity', longs_inj sendable sendable', longs_inj receivable receivable'] at same
  obtain ⟨node, network, id, ratio, local_, remote, capacity, status, sendable, receivable⟩ := same
  exact ChannelSnapshot.ext node network rfl id ratio local_ remote capacity status rfl sendable receivable

theorem findingIdentity_inj {detector detectorVersion detector' detectorVersion' : String}
    {network network' : Option BitcoinNetwork} {node channel node' channel' : Option String}
    (same : (findingIdentity detector detectorVersion network node channel).parts =
      (findingIdentity detector' detectorVersion' network' node' channel').parts) :
    findingIdentity detector detectorVersion network node channel =
      findingIdentity detector' detectorVersion' network' node' channel' := by
  simp only [parts, List.cons.injEq, Part.required.injEq, Part.optional.injEq, and_true, true_and, utf8_inj,
    optionalText_inj, network_inj] at same
  obtain ⟨rfl, rfl, rfl, rfl, rfl⟩ := same
  rfl

theorem bytes_inj (typedA : a.Typed) (typedB : b.Typed) : a.bytes = b.bytes ↔ a.included = b.included := by
  refine ⟨fun same => ?_, fun same => ?_⟩
  · have formats := format_eq_of_bytes same
    cases a with
    | findingIdentity detector detectorVersion network node channel =>
      cases b with
      | findingIdentity detector' detectorVersion' network' node' channel' =>
        exact findingIdentity_inj (parts_eq_of_bytes typedA typedB rfl same)
      | channelState other => exact absurd formats (by simp [format])
      | channelSnapshotState other => exact absurd formats (by simp [format])
    | channelState channel =>
      cases b with
      | findingIdentity => exact absurd formats (by simp [format])
      | channelState other =>
        exact congrArg channelState (channelState_inj typedA typedB (parts_eq_of_bytes typedA typedB rfl same))
      | channelSnapshotState other => exact absurd formats (by simp [format])
    | channelSnapshotState snapshot =>
      cases b with
      | findingIdentity => exact absurd formats (by simp [format])
      | channelState other => exact absurd formats (by simp [format])
      | channelSnapshotState other =>
        exact congrArg channelSnapshotState
          (channelSnapshotState_inj typedA typedB (parts_eq_of_bytes typedA typedB rfl same))
  · rw [← bytes_included a, ← bytes_included b, same]

end DigestInput

/-- The byte strings of the three functions differ where the functions or any included fields do. A hash that
    tells two of them apart has ids and digests tell the included fields apart. -/
theorem digest_bytes_injective {a b : DigestInput} (typedA : a.Typed) (typedB : b.Typed) :
    (a.bytes = b.bytes ↔ a.included = b.included) ∧
      ∀ ext : External, (ext.sha256 a.bytes = ext.sha256 b.bytes → a.bytes = b.bytes) → a.format = b.format →
        (a.result ext = b.result ext ↔ a.included = b.included) := by
  have bytes := DigestInput.bytes_inj typedA typedB
  refine ⟨bytes, fun ext free formats => ⟨fun same => bytes.mp (free ?_), fun same => ?_⟩⟩
  · cases a with
    | findingIdentity =>
      cases b with
      | findingIdentity => exact (String.append_right_inj _).mp same
      | channelState other => exact absurd formats (by simp [DigestInput.format])
      | channelSnapshotState other => exact absurd formats (by simp [DigestInput.format])
    | channelState channel =>
      cases b with
      | findingIdentity => exact absurd formats (by simp [DigestInput.format])
      | channelState other => exact same
      | channelSnapshotState other => exact absurd formats (by simp [DigestInput.format])
    | channelSnapshotState snapshot =>
      cases b with
      | findingIdentity => exact absurd formats (by simp [DigestInput.format])
      | channelState other => exact absurd formats (by simp [DigestInput.format])
      | channelSnapshotState other => exact same
  · rw [← DigestInput.result_included ext a, ← DigestInput.result_included ext b, same]

/-- A finding without a node, and one of an empty node. -/
theorem digest_bytes_injective_node :
    let absent : DigestInput := .findingIdentity "channel_liquidity" "1" none none (some "c1")
    let empty : DigestInput := .findingIdentity "channel_liquidity" "1" none (some "") (some "c1")
    let ext : External := {
      sha256 := fun bytes =>
        if bytes = absent.bytes then "8de42fd81f03eb26290b7f4e6c7b5b20ff504795a1c3b06e2ce3758413323cc4"
        else if bytes = empty.bytes then "ec406666a2ebdb2ce2b4db3a846f9734f13df8e96f6eaf7a11846686f2969e64" else ""
      jsonText := fun _ => "\x7b\x7d", rfc3339 := fun _ => "", jsonInstant := fun _ => "" }
    absent.bytes ≠ empty.bytes ∧ absent.result ext ≠ empty.result ext := by
  intro absent empty ext
  have typedAbsent : absent.Typed := ⟨by decide, by decide, by decide⟩
  have typedEmpty : empty.Typed := ⟨by decide, by decide, by decide⟩
  have told := digest_bytes_injective typedAbsent typedEmpty
  have apart : absent.included ≠ empty.included := by decide
  have bytes : absent.bytes ≠ empty.bytes := fun same => apart (told.1.mp same)
  have free : ext.sha256 absent.bytes = ext.sha256 empty.bytes → absent.bytes = empty.bytes := by
    dsimp only [ext]
    rw [if_pos rfl, if_neg bytes.symm, if_pos rfl]
    exact fun same => absurd same (by decide)
  exact ⟨bytes, fun same => apart ((told.2 ext free rfl).mp same)⟩

end Rieko
