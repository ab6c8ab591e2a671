import Mathlib.Algebra.GroupWithZero.Nat
import Flowmeter.Traffic.Host

/-! The shares of TCP and UDP.

The share of UDP is a hundred times its bytes by the bytes of both, rounded down. The sum and the
product are checked: where both have room in 64 bits the shares are those of natural numbers
(`SharesFit.split?_eq`), and where one has none there are no shares to show, only the overflow
(`split?_eq_error_iff`). A share is at most a hundred, so it fits eight bits and leaves the rest
to TCP. -/
namespace Flowmeter

/-! ### Checked numbers -/

namespace Checked
variable {a b : UInt64}

theorem toNat_of_add {sum : UInt64} (h : add a b = .ok sum) : sum.toNat = a.toNat + b.toNat := by
  rw [add] at h
  split at h
  · next hroom => rw [← Except.ok.inj h, UInt64.toNat_add, Nat.mod_eq_of_lt hroom]
  · cases h

theorem toNat_of_mul {product : UInt64} (h : mul a b = .ok product) :
    product.toNat = a.toNat * b.toNat := by
  rw [mul] at h
  split at h
  · next hroom => rw [← Except.ok.inj h, UInt64.toNat_mul, Nat.mod_eq_of_lt hroom]
  · cases h

end Checked

namespace HostTraffic

/-- The share of UDP in percent, rounded down. -/
def udpShare (traffic : HostTraffic) : Nat :=
  100 * traffic.udp.toNat / (traffic.tcp.toNat + traffic.udp.toNat)

/-- The shares of TCP and UDP in natural numbers; none without traffic. -/
def shares? (traffic : HostTraffic) : Option (Nat × Nat) :=
  if traffic.tcp.toNat + traffic.udp.toNat = 0 then none
  else some (100 - traffic.udpShare, traffic.udpShare)

/-- The numbers that shares are worked out with have room. -/
structure SharesFit (traffic : HostTraffic) : Prop where
  sum : traffic.tcp.toNat + traffic.udp.toNat < 2 ^ 64
  product : 100 * traffic.udp.toNat < 2 ^ 64

variable {traffic : HostTraffic}

theorem udpShare_le (traffic : HostTraffic) : traffic.udpShare ≤ 100 := by
  refine Nat.div_le_of_le_mul ?_
  rw [Nat.mul_comm]
  exact Nat.mul_le_mul_right 100 (Nat.le_add_left ..)

/-- A percentage fits eight bits. -/
theorem toNat_ofNat_percent {percent : Nat} (h : percent ≤ 100) :
    (UInt8.ofNat percent).toNat = percent :=
  UInt8.toNat_ofNat_of_lt' (Nat.lt_of_le_of_lt h (by decide))

theorem tcp_add_udp_eq_zero_iff (hsum : traffic.tcp.toNat + traffic.udp.toNat < 2 ^ 64) :
    traffic.tcp + traffic.udp = 0 ↔ traffic.tcp.toNat + traffic.udp.toNat = 0 := by
  rw [← Checked.toNat_of_add (if_pos hsum), ← UInt64.toNat_inj]
  rfl

/-- Shares are right where they can be worked out. -/
theorem SharesFit.split?_eq (h : traffic.SharesFit) :
    traffic.split? =
      .ok (traffic.shares?.map fun shares => (.ofNat shares.1, .ofNat shares.2)) := by
  have hadd : Checked.add traffic.tcp traffic.udp = .ok (traffic.tcp + traffic.udp) := if_pos h.sum
  have hmul : Checked.mul 100 traffic.udp = .ok (100 * traffic.udp) := if_pos h.product
  have hudp : (100 * traffic.udp / (traffic.tcp + traffic.udp)).toUInt8 =
      .ofNat traffic.udpShare := by
    have hproduct : (100 * traffic.udp).toNat = 100 * traffic.udp.toNat := Checked.toNat_of_mul hmul
    rw [udpShare, ← hproduct, ← Checked.toNat_of_add hadd, ← UInt64.toNat_div]
    rfl
  have htcp : 100 - .ofNat traffic.udpShare = UInt8.ofNat (100 - traffic.udpShare) :=
    (UInt8.ofNat_sub traffic.udpShare_le).symm
  rw [split?, hadd, shares?]
  by_cases hnone : traffic.tcp.toNat + traffic.udp.toNat = 0
  · rw [if_pos hnone]
    exact if_pos ((tcp_add_udp_eq_zero_iff h.sum).2 hnone)
  · rw [if_neg hnone, Option.map_some, ← htcp, ← hudp]
    refine (if_neg (mt (tcp_add_udp_eq_zero_iff h.sum).1 hnone)).trans ?_
    rw [hmul]
    rfl

theorem split?_of_sum (hsum : 2 ^ 64 ≤ traffic.tcp.toNat + traffic.udp.toNat) :
    traffic.split? = .error .add := by
  have hadd : Checked.add traffic.tcp traffic.udp = .error .add := if_neg (Nat.not_lt.2 hsum)
  rw [split?, hadd]
  rfl

theorem split?_of_product (hsum : traffic.tcp.toNat + traffic.udp.toNat < 2 ^ 64)
    (hproduct : 2 ^ 64 ≤ 100 * traffic.udp.toNat) : traffic.split? = .error .multiply := by
  have hadd : Checked.add traffic.tcp traffic.udp = .ok (traffic.tcp + traffic.udp) := if_pos hsum
  have hmul : Checked.mul 100 traffic.udp = .error .multiply := if_neg (Nat.not_lt.2 hproduct)
  have hsome : ¬traffic.tcp + traffic.udp = 0 := by
    rw [tcp_add_udp_eq_zero_iff hsum]
    omega
  rw [split?, hadd]
  refine (if_neg hsome).trans ?_
  rw [hmul]
  rfl

/-- Shares come out exactly where all the numbers have room. -/
theorem exists_split?_iff : (∃ split?, traffic.split? = .ok split?) ↔ traffic.SharesFit := by
  constructor
  · intro ⟨split?, h⟩
    have hsum : traffic.tcp.toNat + traffic.udp.toNat < 2 ^ 64 := by
      refine Nat.lt_of_not_le fun hsum => ?_
      cases h.symm.trans (split?_of_sum hsum)
    refine ⟨hsum, Nat.lt_of_not_le fun hproduct => ?_⟩
    cases h.symm.trans (split?_of_product hsum hproduct)
  · intro h
    exact ⟨_, h.split?_eq⟩

section Room
variable (hroom : traffic.tcp.toNat + traffic.udp.toNat < 2 ^ 64)
include hroom

theorem split?_eq_error_iff {overflow : Overflow} :
    traffic.split? = .error overflow ↔
      overflow = .multiply ∧ 2 ^ 64 ≤ 100 * traffic.udp.toNat := by
  by_cases hproduct : 100 * traffic.udp.toNat < 2 ^ 64
  · rw [SharesFit.split?_eq ⟨hroom, hproduct⟩]
    exact ⟨nofun, fun h => absurd hproduct (Nat.not_lt.2 h.2)⟩
  · have hproduct := Nat.le_of_not_lt hproduct
    rw [split?_of_product hroom hproduct]
    exact ⟨fun h => ⟨(Except.error.inj h).symm, hproduct⟩, fun h => congrArg _ h.1.symm⟩

theorem split?_eq_none_iff :
    traffic.split? = .ok none ↔ traffic.tcp.toNat + traffic.udp.toNat = 0 := by
  constructor
  · intro h
    rw [SharesFit.split?_eq (exists_split?_iff.1 ⟨_, h⟩)] at h
    have hnone := Option.map_eq_none_iff.1 (Except.ok.inj h)
    refine Decidable.byContradiction fun hsome => ?_
    rw [shares?, if_neg hsome] at hnone
    cases hnone
  · intro h
    have hproduct : 100 * traffic.udp.toNat < 2 ^ 64 := by omega
    rw [SharesFit.split?_eq ⟨hroom, hproduct⟩, shares?, if_pos h]
    rfl

theorem split?_eq_some_iff {tcp udp : UInt8} :
    traffic.split? = .ok (some (tcp, udp)) ↔
      traffic.tcp.toNat + traffic.udp.toNat ≠ 0 ∧ 100 * traffic.udp.toNat < 2 ^ 64 ∧
        udp.toNat = traffic.udpShare ∧ tcp.toNat + udp.toNat = 100 := by
  have hsmall := traffic.udpShare_le
  by_cases hproduct : 100 * traffic.udp.toNat < 2 ^ 64
  · rw [SharesFit.split?_eq ⟨hroom, hproduct⟩, shares?]
    split
    · next hnone => simp [hnone]
    · next hsome =>
      rw [Option.map_some, Except.ok.injEq, Option.some.injEq, Prod.mk.injEq, ← UInt8.toNat_inj,
        ← UInt8.toNat_inj, toNat_ofNat_percent (Nat.sub_le ..), toNat_ofNat_percent hsmall]
      omega
  · rw [split?_of_product hroom (Nat.le_of_not_lt hproduct)]
    exact ⟨nofun, fun h => absurd h.2.1 hproduct⟩

/-- **The shares are right as long as a hundred times the bytes of UDP fit 64 bits**, for a host
whose bytes do. There are none exactly if there are no bytes. Else they come out exactly if the
product has room: then they make up a hundred, and that of UDP is the one of natural numbers. A
product without room is all that can go wrong. -/
theorem shares_are_right_unless_product_overflows :
    (traffic.split? = .ok none ↔ traffic.tcp.toNat + traffic.udp.toNat = 0) ∧
    (∀ tcp udp, traffic.split? = .ok (some (tcp, udp)) ↔
      traffic.tcp.toNat + traffic.udp.toNat ≠ 0 ∧ 100 * traffic.udp.toNat < 2 ^ 64 ∧
        udp.toNat = 100 * traffic.udp.toNat / (traffic.tcp.toNat + traffic.udp.toNat) ∧
        tcp.toNat + udp.toNat = 100) ∧
    ∀ overflow, traffic.split? = .error overflow ↔
      overflow = .multiply ∧ 2 ^ 64 ≤ 100 * traffic.udp.toNat :=
  ⟨split?_eq_none_iff hroom, fun _ _ => split?_eq_some_iff hroom,
    fun _ => split?_eq_error_iff hroom⟩

end Room

/-- The most bytes of UDP whose hundredfold has room, and one of TCP. -/
def full : HostTraffic where
  recv := 184467440737095517
  tcp := 1
  udp := 184467440737095516

theorem shares_of_full_are_right :
    full.tcp.toNat + full.udp.toNat < 2 ^ 64 ∧ full.udpShare = 99 ∧
      full.split? = .ok (some (1, 99)) := by
  have hroom : full.tcp.toNat + full.udp.toNat < 2 ^ 64 := by decide
  have hshare : full.udpShare = 99 := by decide
  obtain ⟨-, hright, -⟩ := shares_are_right_unless_product_overflows hroom
  exact ⟨hroom, hshare, (hright 1 99).2 ⟨by decide, by decide, hshare.symm, by decide⟩⟩

/-- One byte of UDP more than has room. -/
def flooded : HostTraffic where
  recv := 184467440737095517
  udp := 184467440737095517

/-- All of the traffic is UDP, and the program stops when it works that out. -/
theorem flooded_has_no_shares :
    flooded.tcp.toNat + flooded.udp.toNat < 2 ^ 64 ∧ flooded.udpShare = 100 ∧
      flooded.split? = .error .multiply :=
  ⟨by decide, by decide, rfl⟩

end HostTraffic

end Flowmeter
