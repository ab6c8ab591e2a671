import Mathlib.Algebra.BigOperators.Group.List.Basic
import Mathlib.Algebra.GroupWithZero.Nat
import Mathlib.Data.List.Nodup
import Flowmeter.Proofs.Attribution.Credit

/-! Bytes of what is credited.

Counters have 64 bits and are said to rise by sums of natural numbers, so what holds of
them modulo 2⁶⁴ needs no bound: `addAll_recv` and `addAll_sent` for the totals of a process,
the same for the four counters of a host, and `find?_hosts_addAll` for which host gets what.
What one credit adds does not depend on where it stands (`ofNat_bytesOf_insert`). Sums over
slots and over hosts come down to the whole by `sum_fibers`. -/
namespace Flowmeter

/-- The length of the packet. -/
def Credit.bytes (credit : Credit) : Nat := credit.packet.len.toNat

/-- The bytes of a list of credits. -/
def bytesOf (credits : List Credit) : Nat := (credits.map Credit.bytes).sum

/-! ### Sums -/

section Sums
variable (credits : List Credit)

@[simp] theorem bytesOf_nil : bytesOf [] = 0 := rfl

@[simp] theorem bytesOf_cons (credit : Credit) :
    bytesOf (credit :: credits) = credit.bytes + bytesOf credits := rfl

theorem bytesOf_append (front back : List Credit) :
    bytesOf (front ++ back) = bytesOf front + bytesOf back := by
  rw [bytesOf, List.map_append, List.sum_append]
  rfl

theorem bytesOf_filter_add (p : Credit → Bool) :
    bytesOf (credits.filter p) + bytesOf (credits.filter fun credit => !p credit) =
      bytesOf credits := by
  have h := List.sum_map_filter_add_sum_map_filter_not (fun credit => p credit = true)
    Credit.bytes credits
  simpa [bytesOf] using h

theorem bytesOf_filter_le (p : Credit → Bool) : bytesOf (credits.filter p) ≤ bytesOf credits :=
  bytesOf_filter_add credits p ▸ Nat.le_add_right _ _

variable {credits} in
/-- Where the bytes of all credits have room, those of some have. -/
theorem bytesOf_filter_lt {limit : Nat} (h : bytesOf credits < limit) (p : Credit → Bool) :
    bytesOf (credits.filter p) < limit :=
  Nat.lt_of_le_of_lt (bytesOf_filter_le credits p) h

theorem bytesOf_le : bytesOf credits ≤ credits.length * (2 ^ 32 - 1) := by
  induction credits with
  | nil => exact Nat.le_refl 0
  | cons credit rest ih =>
    have hlen : credit.bytes < 2 ^ 32 := credit.packet.len.toNat_lt
    rw [bytesOf_cons, List.length_cons, Nat.succ_mul]
    omega

/-- **Fibers make up the whole**: grouped by a key, under keys that cover the list and do not
repeat, a list keeps its bytes. -/
theorem sum_fibers {κ : Type} [DecidableEq κ] (key : Credit → κ) {keys : List κ}
    (hnodup : keys.Nodup) (hcover : ∀ credit ∈ credits, key credit ∈ keys) :
    (keys.map fun k => bytesOf (credits.filter (key · = k))).sum = bytesOf credits := by
  induction credits with
  | nil => simp
  | cons credit rest ih =>
    have hone : (keys.map fun k => if key credit = k then credit.bytes else 0).sum =
        credit.bytes := by
      rw [List.sum_map_eq_nsmul_single (key credit) _ fun k hne _ => if_neg (Ne.symm hne),
        List.count_eq_one_of_mem hnodup (hcover credit (List.mem_cons_self ..)), if_pos rfl,
        one_nsmul]
    have hsplit : ∀ k, bytesOf ((credit :: rest).filter (key · = k)) =
        (if key credit = k then credit.bytes else 0) + bytesOf (rest.filter (key · = k)) := by
      intro k
      by_cases h : key credit = k <;> simp [h]
    simp only [hsplit]
    rw [List.sum_map_add, hone, ih fun other hother => hcover other (List.mem_cons_of_mem _ hother)]
    rfl

end Sums

theorem bytesOf_sides (credits : List Credit) :
    bytesOf (credits.filter (·.side = .received)) + bytesOf (credits.filter (·.side = .sent)) =
      bytesOf credits := by
  rw [← bytesOf_filter_add credits (·.side = .received)]
  congr 3
  funext credit
  cases credit.side <;> rfl

theorem bytesOf_protocols (credits : List Credit) :
    bytesOf (credits.filter (·.packet.protocol = .tcp)) +
      bytesOf (credits.filter (·.packet.protocol = .udp)) = bytesOf credits := by
  rw [← bytesOf_filter_add credits (·.packet.protocol = .tcp)]
  congr 3
  funext credit
  cases credit.packet.protocol <;> rfl

/-! ### Counters -/

theorem Credit.ofNat_bytes (credit : Credit) :
    UInt64.ofNat credit.bytes = credit.packet.len.toUInt64 := by
  rw [bytes, UInt64.ofNat_uInt32ToNat]

/-- One credit more, wherever it stands, adds its bytes to those of all that are like it. -/
theorem ofNat_bytesOf_insert (credit : Credit) (front back : List Credit) (p : Credit → Prop)
    [DecidablePred p] :
    UInt64.ofNat (bytesOf ((front ++ credit :: back).filter (p ·))) =
      .ofNat (bytesOf ((front ++ back).filter (p ·))) +
        if p credit then credit.packet.len.toUInt64 else 0 := by
  rw [← credit.ofNat_bytes]
  by_cases h : p credit
  · have hbytes : bytesOf ((front ++ credit :: back).filter (p ·)) =
        bytesOf ((front ++ back).filter (p ·)) + credit.bytes := by
      simp only [List.filter_append, List.filter_cons, h, decide_true, if_true, bytesOf_append,
        bytesOf_cons]
      omega
    rw [hbytes, UInt64.ofNat_add, if_pos h]
  · simp [h]

/-- A counter that one credit raises by its bytes, if it is counted, rises by the bytes of the
credits counted. -/
theorem foldl_bytes {σ : Type} (counter : σ → UInt64) {add : σ → Credit → σ}
    (counted : Credit → Bool)
    (hadd : ∀ state credit, counter (add state credit) =
      counter state + if counted credit then .ofNat credit.bytes else 0)
    (credits : List Credit) (state : σ) :
    counter (credits.foldl add state) =
      counter state + .ofNat (bytesOf (credits.filter counted)) := by
  induction credits generalizing state with
  | nil => exact (UInt64.add_zero _).symm
  | cons credit rest ih =>
    rw [List.foldl_cons, ih, hadd, UInt64.add_assoc]
    cases h : counted credit
    · simp [h]
    · simp [h, UInt64.ofNat_add]

/-- A counter that starts from zero holds the sum if it has room for it. -/
theorem toNat_zero_add {bytes : Nat} (h : bytes < 2 ^ 64) :
    ((0 : UInt64) + .ofNat bytes).toNat = bytes := by
  rw [UInt64.zero_add, UInt64.toNat_ofNat', Nat.mod_eq_of_lt h]

namespace HostTraffic

variable (host : HostTraffic) (credits : List Credit)

/-- Counts what is credited. -/
def add (credit : Credit) : HostTraffic :=
  match credit.side with
  | .received => host.addReceived credit.packet.protocol credit.packet.len.toUInt64
  | .sent => host.addSent credit.packet.protocol credit.packet.len.toUInt64

def addAll : HostTraffic := credits.foldl add host

/-- What one credit changes. -/
theorem add_eq (credit : Credit) : host.add credit = {
    recv := host.recv + if credit.side = .received then .ofNat credit.bytes else 0
    sent := host.sent + if credit.side = .sent then .ofNat credit.bytes else 0
    tcp := host.tcp + if credit.packet.protocol = .tcp then .ofNat credit.bytes else 0
    udp := host.udp + if credit.packet.protocol = .udp then .ofNat credit.bytes else 0 } := by
  rw [Credit.ofNat_bytes, add]
  cases credit.side <;> cases credit.packet.protocol <;> simp [addReceived, addSent, addProtocol]

theorem addAll_recv : (host.addAll credits).recv =
    host.recv + .ofNat (bytesOf (credits.filter (·.side = .received))) :=
  foldl_bytes recv _ (by simp [add_eq]) credits host

theorem addAll_sent : (host.addAll credits).sent =
    host.sent + .ofNat (bytesOf (credits.filter (·.side = .sent))) :=
  foldl_bytes sent _ (by simp [add_eq]) credits host

theorem addAll_tcp : (host.addAll credits).tcp =
    host.tcp + .ofNat (bytesOf (credits.filter (·.packet.protocol = .tcp))) :=
  foldl_bytes tcp _ (by simp [add_eq]) credits host

theorem addAll_udp : (host.addAll credits).udp =
    host.udp + .ofNat (bytesOf (credits.filter (·.packet.protocol = .udp))) :=
  foldl_bytes udp _ (by simp [add_eq]) credits host

theorem addAll_insert (credit : Credit) (front back : List Credit) :
    host.addAll (front ++ credit :: back) = {
      recv := (host.addAll (front ++ back)).recv +
        if credit.side = .received then credit.packet.len.toUInt64 else 0
      sent := (host.addAll (front ++ back)).sent +
        if credit.side = .sent then credit.packet.len.toUInt64 else 0
      tcp := (host.addAll (front ++ back)).tcp +
        if credit.packet.protocol = .tcp then credit.packet.len.toUInt64 else 0
      udp := (host.addAll (front ++ back)).udp +
        if credit.packet.protocol = .udp then credit.packet.len.toUInt64 else 0 } := by
  have hfields (traffic : HostTraffic) :
      traffic = ⟨traffic.recv, traffic.sent, traffic.tcp, traffic.udp⟩ := rfl
  rw [hfields (host.addAll (front ++ credit :: back))]
  simp only [addAll_recv, addAll_sent, addAll_tcp, addAll_udp, ofNat_bytesOf_insert,
    UInt64.add_assoc]

end HostTraffic

namespace ProcessTraffic

section Hosts
variable (traffic : ProcessTraffic) (credits : List Credit)

/-- What one credit changes. -/
theorem add_eq (credit : Credit) : traffic.add credit = { traffic with
    recv := traffic.recv + if credit.side = .received then .ofNat credit.bytes else 0
    sent := traffic.sent + if credit.side = .sent then .ofNat credit.bytes else 0
    hosts := traffic.hosts.update credit.remote fun host => (host.getD {}).add credit } := by
  rw [Credit.ofNat_bytes, add]
  unfold Credit.remote HostTraffic.add
  cases credit.side <;> simp [addReceived, addSent, Packet.remote]

theorem addAll_recv : (traffic.addAll credits).recv =
    traffic.recv + .ofNat (bytesOf (credits.filter (·.side = .received))) :=
  foldl_bytes recv _ (by simp [add_eq]) credits traffic

theorem addAll_sent : (traffic.addAll credits).sent =
    traffic.sent + .ofNat (bytesOf (credits.filter (·.side = .sent))) :=
  foldl_bytes sent _ (by simp [add_eq]) credits traffic

/-- **A host gets what is credited for it**, and hosts without a credit stay as they are. -/
theorem find?_hosts_addAll (address : Address) :
    (traffic.addAll credits).hosts.find? address =
      if credits.filter (·.remote = address) = [] then traffic.hosts.find? address
      else some (((traffic.hosts.find? address).getD {}).addAll
        (credits.filter (·.remote = address))) := by
  induction credits generalizing traffic with
  | nil => rfl
  | cons credit rest ih =>
    have hcons : traffic.addAll (credit :: rest) = (traffic.add credit).addAll rest := rfl
    rw [hcons, ih, add_eq, OrderedMap.find?_update]
    by_cases hremote : credit.remote = address
    · by_cases hrest : rest.filter (·.remote = address) = []
      · simp [hremote, hrest, HostTraffic.addAll]
      · simp [hremote, hrest, HostTraffic.addAll]
    · simp [hremote]

/-- Whether a host is there or not, it has what is credited for it. -/
theorem getD_find?_hosts_addAll (address : Address) :
    ((traffic.addAll credits).hosts.find? address).getD {} =
      ((traffic.hosts.find? address).getD {}).addAll (credits.filter (·.remote = address)) := by
  rw [find?_hosts_addAll]
  split
  · next hnone => rw [hnone, HostTraffic.addAll, List.foldl_nil]
  · rfl

end Hosts

end ProcessTraffic

end Flowmeter
