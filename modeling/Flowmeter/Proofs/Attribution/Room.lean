import Flowmeter.Proofs.Attribution.Directions
import Flowmeter.Proofs.View.Order
import Flowmeter.Screen.Page

/-! Byte sums have room.

A packet has less than 2³² bytes, so 2³² + 1 packets have at most (2³² − 1)(2³² + 1) = 2⁶⁴ − 1,
the largest number of 64 bits. All that is added up of a batch are bytes of different packets, so
no addition wraps: `Holds` says that counters and their sums are those of natural numbers,
`Admits` that one more credit has room, and the second follows from the first as long as the
credits have room together (`ProcessTraffic.Holds.admits`). -/
namespace Flowmeter

/-! ### Parts of what is credited -/

/-- Where there is room beside the bytes of all credits, there is beside those of some. -/
theorem bytesOf_filter_add_lt {credits : List Credit} {bytes limit : Nat}
    (h : bytesOf credits + bytes < limit) (p : Credit → Bool) :
    bytesOf (credits.filter p) + bytes < limit :=
  Nat.lt_of_le_of_lt (Nat.add_le_add_right (bytesOf_filter_le credits p) bytes) h

/-- Grouped by a key, under keys that do not repeat, a list gains no bytes. -/
theorem sum_fibers_le {κ : Type} [DecidableEq κ] (credits : List Credit) (key : Credit → κ)
    {keys : List κ} (hnodup : keys.Nodup) :
    (keys.map fun k => bytesOf (credits.filter (key · = k))).sum ≤ bytesOf credits := by
  let covered := credits.filter (key · ∈ keys)
  have hfiber : keys.map (fun k => bytesOf (credits.filter (key · = k))) =
      keys.map fun k => bytesOf (covered.filter (key · = k)) := by
    refine List.map_congr_left fun k hk => ?_
    rw [List.filter_filter]
    refine congrArg bytesOf (List.filter_congr fun credit _ => ?_)
    by_cases h : key credit = k
    · simp [h, hk]
    · simp [h]
  have hcover : ∀ credit ∈ covered, key credit ∈ keys := fun credit hcredit => by
    simpa using List.of_mem_filter hcredit
  rw [hfiber, sum_fibers covered key hnodup hcover]
  exact bytesOf_filter_le credits _

/-! ### Hosts -/

namespace HostTraffic

/-- The bytes of a transport protocol. -/
def bytesOver (host : HostTraffic) : Protocol → UInt64
  | .tcp => host.tcp
  | .udp => host.udp

/-- The counters hold what is credited, and the sums of two of them do not wrap. -/
structure Holds (host : HostTraffic) (credits : List Credit) : Prop where
  bytes : ∀ side, (host.bytes side).toNat = bytesOf (credits.filter (·.side = side))
  bytesOver : ∀ protocol,
    (host.bytesOver protocol).toNat = bytesOf (credits.filter (·.packet.protocol = protocol))
  total : host.total.toNat = host.recv.toNat + host.sent.toNat
  split : (host.tcp + host.udp).toNat = host.tcp.toNat + host.udp.toNat

/-- No addition wraps when the credit is counted for the host. -/
structure Admits (host : HostTraffic) (credit : Credit) : Prop where
  side : (host.bytes credit.side).toNat + credit.bytes < 2 ^ 64
  protocol : (host.bytesOver credit.packet.protocol).toNat + credit.bytes < 2 ^ 64

variable {credits : List Credit}

theorem addAll_bytesOver (host : HostTraffic) (credits : List Credit) (protocol : Protocol) :
    (host.addAll credits).bytesOver protocol =
      host.bytesOver protocol +
        .ofNat (bytesOf (credits.filter (·.packet.protocol = protocol))) := by
  cases protocol with
  | tcp => exact host.addAll_tcp credits
  | udp => exact host.addAll_udp credits

theorem holds_addAll (hroom : bytesOf credits < 2 ^ 64) : (addAll {} credits).Holds credits := by
  have hbytes (side : Side) :
      ((addAll {} credits).bytes side).toNat = bytesOf (credits.filter (·.side = side)) := by
    rw [addAll_bytes, show ({} : HostTraffic).bytes side = 0 by cases side <;> rfl,
      toNat_zero_add (bytesOf_filter_lt hroom _)]
  have hover (protocol : Protocol) : ((addAll {} credits).bytesOver protocol).toNat =
      bytesOf (credits.filter (·.packet.protocol = protocol)) := by
    rw [addAll_bytesOver, show ({} : HostTraffic).bytesOver protocol = 0 by cases protocol <;> rfl,
      toNat_zero_add (bytesOf_filter_lt hroom _)]
  have hvolume : (addAll {} credits).volume = bytesOf credits := by
    rw [← bytesOf_sides, ← hbytes, ← hbytes]
    rfl
  have hprotocols : (addAll {} credits).tcp.toNat + (addAll {} credits).udp.toNat =
      bytesOf credits := by
    rw [← bytesOf_protocols, ← hover, ← hover]
    rfl
  exact {
    bytes := hbytes
    bytesOver := hover
    total := toNat_total (hvolume ▸ hroom)
    split := by rw [UInt64.toNat_add, hprotocols, Nat.mod_eq_of_lt hroom] }

theorem Holds.admits {host : HostTraffic} {credit : Credit} (h : host.Holds credits)
    (hroom : bytesOf credits + credit.bytes < 2 ^ 64) : host.Admits credit where
  side := by
    rw [h.bytes]
    exact bytesOf_filter_add_lt hroom _
  protocol := by
    rw [h.bytesOver]
    exact bytesOf_filter_add_lt hroom _

end HostTraffic

/-! ### Processes -/

namespace ProcessTraffic

/-- The counters of the process and of its hosts hold what is credited, and the sums of two of
them do not wrap. -/
structure Holds (process : ProcessTraffic) (credits : List Credit) : Prop where
  bytes : ∀ side, (process.bytes side).toNat = bytesOf (credits.filter (·.side = side))
  total : process.total.toNat = process.recv.toNat + process.sent.toNat
  hosts : ∀ host ∈ process.hosts.entries, host.2.Holds (credits.filter (·.remote = host.1))

/-- No addition wraps when the credit is counted for the process and its remote host. -/
structure Admits (process : ProcessTraffic) (credit : Credit) : Prop where
  total : (process.bytes credit.side).toNat + credit.bytes < 2 ^ 64
  host : ((process.hosts.find? credit.remote).getD {}).Admits credit

variable {credits : List Credit}

theorem holds_addAll (owner : Int × String) (hroom : bytesOf credits < 2 ^ 64) :
    ((idle owner).addAll credits).Holds credits := by
  have hbytes (side : Side) : (((idle owner).addAll credits).bytes side).toNat =
      bytesOf (credits.filter (·.side = side)) := by
    cases side with
    | received => exact toNat_recv_addAll owner hroom
    | sent => exact toNat_sent_addAll owner hroom
  have hvolume : ((idle owner).addAll credits).volume = bytesOf credits := by
    rw [← bytesOf_sides, ← hbytes, ← hbytes]
    rfl
  exact {
    bytes := hbytes
    total := toNat_total (hvolume ▸ hroom)
    hosts := fun host hhost => by
      rw [find?_idle_addAll owner (OrderedMap.mem_entries_iff.1 hhost)]
      exact HostTraffic.holds_addAll (bytesOf_filter_lt hroom _) }

theorem Holds.admits {process : ProcessTraffic} {credit : Credit} (h : process.Holds credits)
    (hroom : bytesOf credits + credit.bytes < 2 ^ 64) : process.Admits credit where
  total := by
    rw [h.bytes]
    exact bytesOf_filter_add_lt hroom _
  host := by
    cases hhost : process.hosts.find? credit.remote with
    | none =>
      have hnone : HostTraffic.Holds {} [] := @HostTraffic.holds_addAll [] (by decide)
      exact hnone.admits (Nat.lt_of_le_of_lt (Nat.add_le_add_right (Nat.zero_le _) _) hroom)
    | some host =>
      have hown := h.hosts (credit.remote, host) (OrderedMap.mem_entries_iff.2 hhost)
      exact hown.admits (bytesOf_filter_add_lt hroom _)

end ProcessTraffic

/-! ### The header -/

/-- A sum that has room does not wrap. -/
theorem Display.toNat_sum {count : ProcessTraffic → UInt64} {processes : List ProcessTraffic}
    (hroom : (processes.map (count · |>.toNat)).sum < 2 ^ 64) :
    (sum count processes).toNat = (processes.map (count · |>.toNat)).sum := by
  have hfold (processes : List ProcessTraffic) (start : UInt64) :
      (processes.foldl (fun total process => total + count process) start).toNat =
        (start.toNat + (processes.map (count · |>.toNat)).sum) % 2 ^ 64 := by
    induction processes generalizing start with
    | nil => exact (Nat.mod_eq_of_lt start.toNat_lt).symm
    | cons process rest ih =>
      rw [List.foldl_cons, ih, UInt64.toNat_add, Nat.mod_add_mod, List.map_cons, List.sum_cons,
        Nat.add_assoc]
  rw [sum, hfold, UInt64.toNat_zero, Nat.zero_add, Nat.mod_eq_of_lt hroom]

namespace Attribution

/-! ### A batch -/

section Batch
variable (machine : LocalAddresses) (index : EndpointIndex) (direction : Direction)
variable {packets : List Packet}

/-- When a packet is credited, its bytes are not among those credited before. -/
theorem bytesOf_before_le (front back : List Packet) {packet : Packet} {credit : Credit}
    (hcredit : credit? machine index direction packet = some credit) :
    bytesOf (credits machine index direction front) + credit.bytes ≤
      bytesOf (credits machine index direction (front ++ packet :: back)) := by
  rw [credits_of_some machine index direction front back hcredit, bytesOf_append, bytesOf_cons]
  exact Nat.add_le_add_left (Nat.le_add_right _ _) _

theorem holds_ofPackets (hroom : bytesOf (credits machine index direction packets) < 2 ^ 64)
    (cycle : CycleStats) {slot : Nat} {process : ProcessTraffic}
    (hprocess : (ofPackets packets machine index direction cycle).processes[slot]? =
      some process) : process.Holds (creditsOf machine index direction slot packets) := by
  rw [processes_ofPackets, List.getElem?_mapIdx] at hprocess
  obtain ⟨owner, -, rfl⟩ := Option.map_eq_some_iff.1 hprocess
  exact ProcessTraffic.holds_addAll owner (bytesOf_filter_lt hroom _)

/-- The sum of a side's bytes over the first entries does not wrap. -/
theorem toNat_sum_ofPackets
    (hroom : bytesOf (credits machine index direction packets) < 2 ^ 64) (cycle : CycleStats)
    (side : Side) {front : List ProcessTraffic}
    (hfront : front <+: (ofPackets packets machine index direction cycle).processes) :
    (Display.sum (·.bytes side) front).toNat = (front.map (·.bytes side |>.toNat)).sum := by
  have hentries := map_entries machine index direction packets (·.bytes side |>.toNat)
    (·.side = side) cycle fun owner slot =>
      (ProcessTraffic.holds_addAll owner (bytesOf_filter_lt hroom _)).bytes side
  obtain ⟨back, hback⟩ := hfront
  rw [← hback, List.map_append] at hentries
  have hfibers := sum_fibers_le ((credits machine index direction packets).filter (·.side = side))
    Credit.slot (List.nodup_range (n := index.owners.length))
  rw [← hentries, List.sum_append] at hfibers
  have hside := bytesOf_filter_le (credits machine index direction packets) (·.side = side)
  exact Display.toNat_sum (by omega)

/-- 64 bits have room for the bytes of 2³² + 1 packets. -/
theorem bytesOf_credits_fit (hfew : packets.length ≤ 2 ^ 32 + 1) :
    bytesOf (credits machine index direction packets) < 2 ^ 64 := by
  have hbytes := bytesOf_credits_le machine direction index packets
  omega

/-- **No byte sum of a batch wraps** if it has at most 2³² + 1 packets. Wherever a packet is
credited, the totals of its process and the counters of its host have room for it. In the end
these hold just what is credited to them, and to add up the two sides of a process or a host, the
two protocols of a host, or a side of any number of the processes gives the sum of the natural
numbers. -/
theorem byte_sums_do_not_wrap (hfew : packets.length ≤ 2 ^ 32 + 1) (cycle : CycleStats) :
    (∀ front packet back credit (process : ProcessTraffic), packets = front ++ packet :: back →
      credit? machine index direction packet = some credit →
      (ofPackets front machine index direction cycle).processes[credit.slot]? = some process →
      process.Admits credit) ∧
    (∀ (slot : Nat) (process : ProcessTraffic),
      (ofPackets packets machine index direction cycle).processes[slot]? = some process →
      process.Holds (creditsOf machine index direction slot packets)) ∧
    ∀ front, front <+: (ofPackets packets machine index direction cycle).processes →
      (Display.sum (·.recv) front).toNat = (front.map (·.recv.toNat)).sum ∧
      (Display.sum (·.sent) front).toNat = (front.map (·.sent.toNat)).sum := by
  have hroom := bytesOf_credits_fit machine index direction hfew
  refine ⟨?_, fun slot process => holds_ofPackets machine index direction hroom cycle, ?_⟩
  · rintro front packet back credit process rfl hcredit hprocess
    have hbefore := bytesOf_before_le machine index direction front back hcredit
    have hfront : bytesOf (credits machine index direction front) < 2 ^ 64 := by omega
    exact (holds_ofPackets machine index direction hfront cycle hprocess).admits
      (bytesOf_filter_add_lt (Nat.lt_of_le_of_lt hbefore hroom) _)
  · intro front hfront
    exact ⟨toNat_sum_ofPackets machine index direction hroom cycle .received hfront,
      toNat_sum_ofPackets machine index direction hroom cycle .sent hfront⟩

end Batch

section Question

/-- Attributes packets of the machine with the server. -/
def served (packets : List Packet) : Attribution :=
  ofPackets packets (.ofList [.quad 192 168 0 8]) server.endpointIndex .both {}

theorem byte_sums_of_question_do_not_wrap :
    question.length ≤ 2 ^ 32 + 1 ∧
    (∃ process, (served (question.take 1)).processes[1]? = some process ∧
      process.Admits ⟨1, .sent, question[1]⟩) ∧
    (∃ process, (served question).processes[1]? = some process ∧
      process.total.toNat = process.recv.toNat + process.sent.toNat) ∧
    (Display.sum (·.recv) (served question).processes).toNat = 60 + 40 ∧
    (Display.sum (·.sent) (served question).processes).toNat = 1500 := by
  have hfew : question.length ≤ 2 ^ 32 + 1 := by decide
  obtain ⟨hadmits, hholds, hsums⟩ := byte_sums_do_not_wrap (.ofList [.quad 192 168 0 8])
    server.endpointIndex .both hfew {}
  obtain ⟨hrecv, hsent⟩ := hsums (served question).processes List.prefix_rfl
  refine ⟨hfew, ⟨_, rfl, ?_⟩, ⟨_, rfl, (hholds 1 _ rfl).total⟩, ?_, ?_⟩
  · exact hadmits (question.take 1) question[1] (question.drop 2) ⟨1, .sent, question[1]⟩ _
      rfl (by decide) rfl
  · rw [hrecv]
    decide
  · rw [hsent]
    decide

end Question

end Attribution

end Flowmeter
