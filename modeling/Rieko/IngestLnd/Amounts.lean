import Rieko.IngestLnd.Normalize
import Rieko.Lib.Json

namespace Rieko

open DecimalText

def deI64 : Json → Except String Int64
  | .number n => match (Json.number n).asI64 with
    | some amount => .ok amount
    | none => .error "expected i64"
  | .string text => match parseI64 text with
    | some amount => .ok amount
    | none => .error "expected i64 string"
  | _ => .error "expected number or i64 string"

def deOptI64 : Json → Except String (Option Int64)
  | .null => .ok none
  | .number n => match (Json.number n).asI64 with
    | some amount => .ok (some amount)
    | none => .error "expected i64"
  | .string text => match parseI64 text with
    | some amount => .ok (some amount)
    | none => .error "expected i64 string"
  | _ => .error "expected i64, string, or null"

theorem deI64_surjective (amount : Int64) :
    ∃ value, deI64 value = .ok amount ∧ deOptI64 value = .ok (some amount) := by
  have bounds := amount.toInt_lt
  rcases lt_or_ge amount.toInt 0 with negative | positive
  · have back : Int64.ofInt amount.toInt = amount := Int64.ofInt_toInt amount
    exact ⟨.number (.negInt amount.toInt), by simp [deI64, Json.asI64, back], by simp [deOptI64, Json.asI64, back]⟩
  · have small : amount.toInt.toNat < 2^63 := by omega
    have back : Int64.ofNat amount.toInt.toNat = amount := by
      rw [← Int64.ofInt_eq_ofNat, Int.toNat_of_nonneg positive]
      exact Int64.ofInt_toInt amount
    refine ⟨.number (.posInt amount.toInt.toNat), ?_, ?_⟩
    · simp only [deI64, Json.asI64, small, if_true, back]
    · simp only [deOptI64, Json.asI64, small, if_true, back]

namespace LndChannel

def amounts (lnd : LndChannel) : List Int64 :=
  [lnd.capacity, lnd.localBalance, lnd.remoteBalance] ++ lnd.localChanReserveSat.toList ++
    lnd.remoteChanReserveSat.toList ++ lnd.totalSatoshisSent.toList ++ lnd.totalSatoshisReceived.toList

end LndChannel

namespace Normalizer

/-- A non-negative amount appears as a thousand times its value. -/
def Exact (sats : Int64) (amountMsat : Nat) : Prop := 0 ≤ sats.toInt → (amountMsat : Int) = 1000 * sats.toInt

def ExactOption (sats : Option Int64) (amountMsat : Option Nat) : Prop :=
  ∀ n, sats = some n → 0 ≤ n.toInt → ∃ m, amountMsat = some m ∧ (m : Int) = 1000 * n.toInt

/-- The balance less the reserve, floored at zero; zero where no reserve is known. -/
def SpendableExact (balance : Int64) (reserve : Option Int64) (spendableMsat : Nat) : Prop :=
  (spendableMsat : Int) =
    (reserve.filter fun r => 0 ≤ r.toInt).elim 0 fun r => max 0 (1000 * balance.toInt - 1000 * r.toInt)

structure AmountsExact (lnd : LndChannel) (built : Channel) : Prop where
  capacity : Exact lnd.capacity built.capacityMsat
  localBalance : Exact lnd.localBalance built.liquidity.localBalanceMsat
  remoteBalance : Exact lnd.remoteBalance built.liquidity.remoteBalanceMsat
  localReserve : ExactOption lnd.localChanReserveSat built.localReserveMsat
  remoteReserve : ExactOption lnd.remoteChanReserveSat built.remoteReserveMsat
  totalSent : ExactOption lnd.totalSatoshisSent built.totalSentMsat
  totalReceived : ExactOption lnd.totalSatoshisReceived built.totalReceivedMsat
  spendableOutbound : SpendableExact lnd.localBalance lnd.localChanReserveSat built.liquidity.spendableOutboundMsat
  spendableInbound : SpendableExact lnd.remoteBalance lnd.remoteChanReserveSat built.liquidity.spendableInboundMsat

def Fits (sats : Int64) : Prop := 1000 * sats.toInt < 2^64

instance (sats : Int64) : Decidable (Fits sats) := inferInstanceAs (Decidable (_ < _))

theorem u64TryFrom_of_nonneg {n : Int64} (nonneg : 0 ≤ n.toInt) : u64TryFrom n = some n.toInt.toNat := if_pos nonneg

theorem u64TryFrom_of_neg {n : Int64} (negative : n.toInt < 0) : u64TryFrom n = none := if_neg (by omega)

theorem msat_exact_iff {n : Int64} (nonneg : 0 ≤ n.toInt) :
    (msat n.toInt.toNat : Int) = 1000 * n.toInt ↔ Fits n := by
  obtain ⟨m, same⟩ := Int.eq_ofNat_of_zero_le nonneg
  have kept : m * 1000 % 2^64 = m * 1000 ↔ m * 1000 < 2^64 := Nat.mod_eq_iff_lt (by decide)
  unfold msat Fits
  rw [same, Int.toNat_natCast]
  generalize m * 1000 % 2^64 = wrapped at kept
  omega

theorem exact_iff (n : Int64) : Exact n (msat ((u64TryFrom n).getD 0)) ↔ Fits n := by
  rcases lt_or_ge n.toInt 0 with negative | nonneg
  · apply iff_of_true
    · intro nonneg
      omega
    · unfold Fits
      omega
  · rw [u64TryFrom_of_nonneg nonneg]
    exact ⟨fun unwrapped => (msat_exact_iff nonneg).mp (unwrapped nonneg), fun fits _ =>
      (msat_exact_iff nonneg).mpr fits⟩

theorem exactOption_iff (sats : Option Int64) :
    ExactOption sats ((sats.bind u64TryFrom).map msat) ↔ ∀ n ∈ sats.toList, Fits n := by
  cases sats with
  | none => simp [ExactOption]
  | some n =>
    rcases lt_or_ge n.toInt 0 with negative | nonneg
    · apply iff_of_true
      · rintro m same nonneg
        cases same
        omega
      · simp only [Option.toList_some, List.mem_singleton, forall_eq, Fits]
        omega
    · simp only [ExactOption, Option.bind_some, u64TryFrom_of_nonneg nonneg, Option.map_some, Option.toList_some,
        List.mem_singleton, forall_eq, Option.some.injEq, exists_eq_left', forall_eq', nonneg, forall_const]
      exact msat_exact_iff nonneg

theorem spendable_exact {balance : Int64} {reserve : Option Int64} (nonneg : 0 ≤ balance.toInt)
    (fits : Fits balance) (reserveFits : ∀ n ∈ reserve.toList, Fits n) :
    SpendableExact balance reserve
      (spendable (msat balance.toInt.toNat) ((reserve.bind u64TryFrom).map msat)) := by
  have balanceMsat := (msat_exact_iff nonneg).mpr fits
  cases reserve with
  | none => rfl
  | some r =>
    rcases lt_or_ge r.toInt 0 with negative | known
    · have unknown : ¬0 ≤ r.toInt := by omega
      simp [SpendableExact, spendable, u64TryFrom_of_neg negative, Option.filter, unknown]
    · have reserveMsat := (msat_exact_iff known).mpr (reserveFits r (by simp))
      simp only [SpendableExact, spendable, Option.bind_some, u64TryFrom_of_nonneg known, Option.map_some,
        Option.getD_some, Option.filter, known, decide_true, if_true, Option.elim_some]
      omega

theorem u64TryFrom_eq_some {n : Int64} {m : Nat} : u64TryFrom n = some m ↔ 0 ≤ n.toInt ∧ n.toInt.toNat = m := by
  unfold u64TryFrom
  split <;> simp [*]

structure Converts (lnd : LndChannel) (built : Channel) : Prop where
  localNonneg : 0 ≤ lnd.localBalance.toInt
  remoteNonneg : 0 ≤ lnd.remoteBalance.toInt
  capacity : built.capacityMsat = msat ((u64TryFrom lnd.capacity).getD 0)
  localBalance : built.liquidity.localBalanceMsat = msat lnd.localBalance.toInt.toNat
  remoteBalance : built.liquidity.remoteBalanceMsat = msat lnd.remoteBalance.toInt.toNat
  localReserve : built.localReserveMsat = (lnd.localChanReserveSat.bind u64TryFrom).map msat
  remoteReserve : built.remoteReserveMsat = (lnd.remoteChanReserveSat.bind u64TryFrom).map msat
  totalSent : built.totalSentMsat = (lnd.totalSatoshisSent.bind u64TryFrom).map msat
  totalReceived : built.totalReceivedMsat = (lnd.totalSatoshisReceived.bind u64TryFrom).map msat
  outbound : built.liquidity.spendableOutboundMsat =
    spendable built.liquidity.localBalanceMsat built.localReserveMsat
  inbound : built.liquidity.spendableInboundMsat =
    spendable built.liquidity.remoteBalanceMsat built.remoteReserveMsat

theorem channel_converts {lnd : LndChannel} {localNode : NodeId} {seenAt : DateTime} {built : Channel}
    (normalized : channel lnd localNode seenAt = .ok built) : Converts lnd built := by
  unfold channel at normalized
  dsimp only at normalized
  split at normalized
  · cases normalized
  split at normalized
  · cases normalized
  · cases normalized
  next localSats remoteSats localRead remoteRead =>
    obtain ⟨localNonneg, rfl⟩ := u64TryFrom_eq_some.mp localRead
    obtain ⟨remoteNonneg, rfl⟩ := u64TryFrom_eq_some.mp remoteRead
    cases normalized
    exact ⟨localNonneg, remoteNonneg, rfl, rfl, rfl, rfl, rfl, rfl, rfl, rfl, rfl⟩

/-- Of a channel that is not refused the amounts are exact precisely where a thousand times each of them is a 64-bit
    number. -/
theorem channel_amounts_iff {lnd : LndChannel} {localNode : NodeId} {seenAt : DateTime} {built : Channel}
    (normalized : channel lnd localNode seenAt = .ok built) :
    AmountsExact lnd built ↔ ∀ n ∈ lnd.amounts, Fits n := by
  have converts := channel_converts normalized
  have listed : (∀ n ∈ lnd.amounts, Fits n) ↔ Fits lnd.capacity ∧ Fits lnd.localBalance ∧ Fits lnd.remoteBalance ∧
      (∀ n ∈ lnd.localChanReserveSat.toList, Fits n) ∧ (∀ n ∈ lnd.remoteChanReserveSat.toList, Fits n) ∧
      (∀ n ∈ lnd.totalSatoshisSent.toList, Fits n) ∧ ∀ n ∈ lnd.totalSatoshisReceived.toList, Fits n := by
    simp only [LndChannel.amounts, List.forall_mem_append, List.forall_mem_cons, and_assoc]
    simp
  have localBalance : Exact lnd.localBalance built.liquidity.localBalanceMsat ↔ Fits lnd.localBalance := by
    rw [converts.localBalance]
    simpa [Exact, converts.localNonneg] using msat_exact_iff converts.localNonneg
  have remoteBalance : Exact lnd.remoteBalance built.liquidity.remoteBalanceMsat ↔ Fits lnd.remoteBalance := by
    rw [converts.remoteBalance]
    simpa [Exact, converts.remoteNonneg] using msat_exact_iff converts.remoteNonneg
  have capacity := exact_iff lnd.capacity
  have localReserve := exactOption_iff lnd.localChanReserveSat
  have remoteReserve := exactOption_iff lnd.remoteChanReserveSat
  have totalSent := exactOption_iff lnd.totalSatoshisSent
  have totalReceived := exactOption_iff lnd.totalSatoshisReceived
  rw [← converts.capacity] at capacity
  rw [← converts.localReserve] at localReserve
  rw [← converts.remoteReserve] at remoteReserve
  rw [← converts.totalSent] at totalSent
  rw [← converts.totalReceived] at totalReceived
  rw [listed]
  constructor
  · intro amounts
    exact ⟨capacity.mp amounts.capacity, localBalance.mp amounts.localBalance, remoteBalance.mp amounts.remoteBalance,
      localReserve.mp amounts.localReserve, remoteReserve.mp amounts.remoteReserve, totalSent.mp amounts.totalSent,
      totalReceived.mp amounts.totalReceived⟩
  · rintro ⟨fitsCapacity, fitsLocal, fitsRemote, fitsLocalReserve, fitsRemoteReserve, fitsSent, fitsReceived⟩
    have outbound := spendable_exact converts.localNonneg fitsLocal fitsLocalReserve
    have inbound := spendable_exact converts.remoteNonneg fitsRemote fitsRemoteReserve
    rw [← converts.localBalance, ← converts.localReserve, ← converts.outbound] at outbound
    rw [← converts.remoteBalance, ← converts.remoteReserve, ← converts.inbound] at inbound
    exact ⟨capacity.mpr fitsCapacity, localBalance.mpr fitsLocal, remoteBalance.mpr fitsRemote,
      localReserve.mpr fitsLocalReserve, remoteReserve.mpr fitsRemoteReserve, totalSent.mpr fitsSent,
      totalReceived.mpr fitsReceived, outbound, inbound⟩

theorem common_channel_exact :
    let lnd : LndChannel := {
      channelPoint := "funding:0", remotePubkey := "peer", capacity := 1000000, localBalance := 400000
      remoteBalance := 590000, chanStatusFlags := "ChanStatusDefault", localChanReserveSat := some 10000
      remoteChanReserveSat := none, totalSatoshisSent := some 7 }
    ∃ built, channel lnd "node" 0 = .ok built ∧ AmountsExact lnd built ∧
      built.liquidity.spendableOutboundMsat = 390000000 := by
  intro lnd
  have kept : (channel lnd "node" 0).toOption.any (·.liquidity.spendableOutboundMsat = 390000000) = true := by
    decide
  cases normalized : channel lnd "node" 0 with
  | error e =>
    rw [normalized] at kept
    cases kept
  | ok built =>
    rw [normalized] at kept
    have amounts : lnd.amounts = [1000000, 400000, 590000, 10000, 7] := rfl
    have fits : ∀ n ∈ lnd.amounts, Fits n := by simp [amounts, Fits]
    exact ⟨built, rfl, (channel_amounts_iff normalized).mpr fits, of_decide_eq_true kept⟩

/-- The least capacity that wraps around: it is kept as 384 millisatoshi. -/
theorem large_capacity_wraps :
    let lnd : LndChannel := {
      channelPoint := "funding:0", remotePubkey := "peer", capacity := 18446744073709552, localBalance := 0
      remoteBalance := 0, chanStatusFlags := "ChanStatusDefault" }
    (∃ value, deI64 value = .ok lnd.capacity) ∧
      ∃ built, channel lnd "node" 0 = .ok built ∧ built.capacityMsat = 384 ∧ ¬AmountsExact lnd built := by
  intro lnd
  have kept : (channel lnd "node" 0).toOption.any (·.capacityMsat = 384) = true := by decide
  have wire : deI64 (.number (.posInt 18446744073709552)) = .ok lnd.capacity := by decide
  cases normalized : channel lnd "node" 0 with
  | error e =>
    rw [normalized] at kept
    cases kept
  | ok built =>
    rw [normalized] at kept
    have wrapped : built.capacityMsat = 384 := of_decide_eq_true kept
    refine ⟨⟨_, wire⟩, built, rfl, wrapped, fun amounts => ?_⟩
    have unwrapped := amounts.capacity (by decide)
    rw [wrapped] at unwrapped
    revert unwrapped
    decide

end Normalizer

end Rieko
