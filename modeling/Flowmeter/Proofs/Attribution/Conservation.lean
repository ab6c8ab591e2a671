import Flowmeter.Proofs.Attribution.Accounting
import Flowmeter.Proofs.Attribution.Bytes

/-! Bytes are conserved.

A packet's bytes are written to three places: the total of a process, the direction and the
protocol of a host. `ProcessTraffic.Balanced` says that the three agree, and every entry of a
batch is balanced as long as 64 bits have room for its bytes (`balanced_addAll`). Over the
entries the bytes are those of all credits, and the kernel's are those of the packets that
raise the counters of what belongs to nobody. -/
namespace Flowmeter

/-- The totals are those of the hosts, and a host has the same bytes by direction and by
protocol. -/
structure ProcessTraffic.Balanced (process : ProcessTraffic) : Prop where
  recv : process.recv.toNat = (process.hosts.entries.map (·.2.recv.toNat)).sum
  sent : process.sent.toNat = (process.hosts.entries.map (·.2.sent.toNat)).sum
  hosts : ∀ entry ∈ process.hosts.entries,
    entry.2.recv.toNat + entry.2.sent.toNat = entry.2.tcp.toNat + entry.2.udp.toNat

theorem OrderedMap.nodup_keys {κ ν : Type} [Ranked κ] (map : OrderedMap κ ν) :
    (map.entries.map Prod.fst).Nodup :=
  List.pairwise_map.2 (map.ascending.imp fun hlt heq => absurd (heq ▸ hlt) (Nat.lt_irrefl _))

namespace ProcessTraffic

/-! ### One entry -/

section Entry
variable (owner : Int × String) {credits : List Credit}

/-- A host's counters hold what is credited for it. -/
theorem find?_idle_addAll {address : Address} {host : HostTraffic}
    (h : ((idle owner).addAll credits).hosts.find? address = some host) :
    host = HostTraffic.addAll {} (credits.filter (·.remote = address)) := by
  rw [find?_hosts_addAll] at h
  split at h
  · cases h
  · exact (Option.some.inj h).symm

/-- The hosts are those that something is credited for. -/
theorem contains_idle_addAll (address : Address) :
    ((idle owner).addAll credits).hosts.contains address = true ↔
      ∃ credit ∈ credits, credit.remote = address := by
  rw [OrderedMap.contains, find?_hosts_addAll]
  split
  · rename_i hnone
    simpa [idle] using hnone
  · rename_i hsome
    simpa using hsome

/-- A counter over all hosts, if it counts some credits by host, counts them all. -/
theorem sum_hosts (counter : HostTraffic → Nat) (counted : Credit → Bool)
    (hcounter : ∀ own : List Credit, bytesOf own ≤ bytesOf credits →
      counter (HostTraffic.addAll {} own) = bytesOf (own.filter counted)) :
    (((idle owner).addAll credits).hosts.entries.map (counter ·.2)).sum =
      bytesOf (credits.filter counted) := by
  have hhost : ∀ entry ∈ ((idle owner).addAll credits).hosts.entries,
      counter entry.2 = bytesOf ((credits.filter counted).filter (·.remote = entry.1)) := by
    intro entry hentry
    have hfind := OrderedMap.mem_entries_iff.1 hentry
    rw [find?_idle_addAll owner hfind, hcounter _ (bytesOf_filter_le credits _), List.filter_comm]
  have hcover : ∀ credit ∈ credits.filter counted,
      credit.remote ∈ ((idle owner).addAll credits).hosts.entries.map Prod.fst := by
    intro credit hcredit
    have hcontains := (contains_idle_addAll owner credit.remote).2
      ⟨credit, List.mem_of_mem_filter hcredit, rfl⟩
    obtain ⟨host, hhost⟩ := Option.isSome_iff_exists.1 hcontains
    exact List.mem_map.2 ⟨(credit.remote, host), OrderedMap.mem_entries_iff.2 hhost, rfl⟩
  rw [List.map_congr_left hhost, ← sum_fibers _ Credit.remote (OrderedMap.nodup_keys _) hcover,
    List.map_map]
  rfl

theorem toNat_recv_addAll (hroom : bytesOf credits < 2 ^ 64) :
    ((idle owner).addAll credits).recv.toNat = bytesOf (credits.filter (·.side = .received)) := by
  rw [addAll_recv, show (idle owner).recv = 0 from rfl, toNat_zero_add (bytesOf_filter_lt hroom _)]

theorem toNat_sent_addAll (hroom : bytesOf credits < 2 ^ 64) :
    ((idle owner).addAll credits).sent.toNat = bytesOf (credits.filter (·.side = .sent)) := by
  rw [addAll_sent, show (idle owner).sent = 0 from rfl, toNat_zero_add (bytesOf_filter_lt hroom _)]

/-- **Every entry is balanced** if 64 bits have room for its bytes. -/
theorem balanced_addAll (hroom : bytesOf credits < 2 ^ 64) :
    ((idle owner).addAll credits).Balanced where
  recv := by
    rw [toNat_recv_addAll owner hroom]
    refine (sum_hosts owner (·.recv.toNat) _ fun own hown => ?_).symm
    have hown' : bytesOf own < 2 ^ 64 := Nat.lt_of_le_of_lt hown hroom
    rw [HostTraffic.addAll_recv, toNat_zero_add (bytesOf_filter_lt hown' _)]
  sent := by
    rw [toNat_sent_addAll owner hroom]
    refine (sum_hosts owner (·.sent.toNat) _ fun own hown => ?_).symm
    have hown' : bytesOf own < 2 ^ 64 := Nat.lt_of_le_of_lt hown hroom
    rw [HostTraffic.addAll_sent, toNat_zero_add (bytesOf_filter_lt hown' _)]
  hosts := by
    intro entry hentry
    have hown : bytesOf (credits.filter (·.remote = entry.1)) < 2 ^ 64 :=
      bytesOf_filter_lt hroom _
    have hcounter (p : Credit → Bool) :
        ((0 : UInt64) + .ofNat (bytesOf ((credits.filter (·.remote = entry.1)).filter p))).toNat =
          bytesOf ((credits.filter (·.remote = entry.1)).filter p) :=
      toNat_zero_add (bytesOf_filter_lt hown p)
    rw [find?_idle_addAll owner (OrderedMap.mem_entries_iff.1 hentry), HostTraffic.addAll_recv,
      HostTraffic.addAll_sent, HostTraffic.addAll_tcp, HostTraffic.addAll_udp, hcounter, hcounter,
      hcounter, hcounter, bytesOf_sides, bytesOf_protocols]

end Entry

end ProcessTraffic

namespace Attribution

section Batch
variable (machine : LocalAddresses) (index : EndpointIndex) (direction : Direction)
variable (packets : List Packet)

/-! ### All entries -/

/-- The hosts of an entry are those that a packet credited to it is exchanged with. -/
theorem contains_ofPackets_iff (cycle : CycleStats) {slot : Nat} {process : ProcessTraffic}
    (hprocess : (ofPackets packets machine index direction cycle).processes[slot]? = some process)
    (address : Address) :
    process.hosts.contains address = true ↔ ∃ packet ∈ packets, ∃ side,
      credit? machine index direction packet = some ⟨slot, side, packet⟩ ∧
        packet.remote side = address := by
  rw [processes_ofPackets, List.getElem?_mapIdx] at hprocess
  obtain ⟨owner, -, rfl⟩ := Option.map_eq_some_iff.1 hprocess
  rw [ProcessTraffic.contains_idle_addAll]
  constructor
  · rintro ⟨credit, hmem, rfl⟩
    obtain ⟨packet, hpacket, hcredit, rfl⟩ := (mem_creditsOf_iff _ _ _).1 hmem
    obtain ⟨rfl, -⟩ := (credit?_eq_some_iff _ _ _).1 hcredit
    exact ⟨credit.packet, hpacket, credit.side, hcredit, rfl⟩
  · rintro ⟨packet, hpacket, side, hcredit, rfl⟩
    exact ⟨⟨slot, side, packet⟩, (mem_creditsOf_iff _ _ _).2 ⟨packet, hpacket, hcredit, rfl⟩, rfl⟩

/-- A counter that counts some credits has in each entry those of its slot. -/
theorem map_entries (counter : ProcessTraffic → Nat) (counted : Credit → Bool)
    (cycle : CycleStats)
    (hcounter : ∀ owner slot, counter ((ProcessTraffic.idle owner).addAll
      (creditsOf machine index direction slot packets)) =
        bytesOf ((creditsOf machine index direction slot packets).filter counted)) :
    (ofPackets packets machine index direction cycle).processes.map counter =
      (List.range index.owners.length).map fun slot => bytesOf
        (((credits machine index direction packets).filter counted).filter (·.slot = slot)) := by
  rw [processes_ofPackets]
  refine List.ext_getElem (by simp) fun slot _ _ => ?_
  simp only [List.getElem_map, List.getElem_mapIdx, List.getElem_range]
  rw [hcounter, creditsOf, List.filter_comm]

/-- A counter over all entries, if it counts some credits by slot, counts them all. -/
theorem sum_entries (counter : ProcessTraffic → Nat) (counted : Credit → Bool)
    (cycle : CycleStats)
    (hslots : ∀ credit ∈ credits machine index direction packets,
      credit.slot < index.owners.length)
    (hcounter : ∀ owner slot, counter ((ProcessTraffic.idle owner).addAll
      (creditsOf machine index direction slot packets)) =
        bytesOf ((creditsOf machine index direction slot packets).filter counted)) :
    ((ofPackets packets machine index direction cycle).processes.map counter).sum =
      bytesOf ((credits machine index direction packets).filter counted) := by
  have hcover : ∀ credit ∈ (credits machine index direction packets).filter counted,
      credit.slot ∈ List.range index.owners.length := fun credit hcredit =>
    List.mem_range.2 (hslots credit (List.mem_of_mem_filter hcredit))
  rw [map_entries machine index direction packets counter counted cycle hcounter,
    sum_fibers _ Credit.slot List.nodup_range hcover]

/-! ### The kernel's entry -/

/-- The packets of a batch that raise a counter, when they come after `state`. -/
def raising (counter : CycleStats → UInt64) : Attribution → List Packet → List Packet
  | _, [] => []
  | state, packet :: rest =>
    let next := step machine index direction state packet
    if counter next.cycle = counter state.cycle then raising counter next rest
    else packet :: raising counter next rest

/-- A counter that one packet raises by one, if it is counted, is raised by the packets
counted. -/
theorem raising_eq_filter {counter : CycleStats → UInt64} (counted : Packet → Bool)
    (hstep : ∀ state packet, counter (step machine index direction state packet).cycle =
      counter state.cycle + if counted packet then 1 else 0) (state : Attribution) :
    raising machine index direction counter state packets = packets.filter counted := by
  induction packets generalizing state with
  | nil => rfl
  | cons packet rest ih =>
    rw [raising, hstep, ih]
    cases h : counted packet
    · simp [h]
    · simp [h]

end Batch

section Kernel
variable (machine : LocalAddresses) (inventory : Inventory) (direction : Direction)

/-- What the kernel is credited with is what belongs to nobody. -/
theorem classOf_eq_unmapped_iff (packet : Packet) (side : Side) :
    classOf machine inventory.endpointIndex direction packet = .unmapped side ↔
      credit? machine inventory.endpointIndex direction packet =
        some ⟨EndpointIndex.kernelSlot, side, packet⟩ := by
  rw [classOf_eq_iff, credit?_eq_some_iff, Inventory.slot_eq_kernelSlot_iff,
    EndpointIndex.owner?_eq, Option.or_eq_none_iff]
  exact ⟨fun h => ⟨rfl, h⟩, And.right⟩

theorem kernel_credits (side : Side) (packets : List Packet) :
    (creditsOf machine inventory.endpointIndex direction EndpointIndex.kernelSlot packets).filter
        (·.side = side) =
      (packets.filter (classOf machine inventory.endpointIndex direction · = .unmapped side)).map
        (⟨EndpointIndex.kernelSlot, side, ·⟩) := by
  induction packets with
  | nil => rfl
  | cons packet rest ih =>
    rw [creditsOf_cons, List.filter_append, ih, List.filter_cons]
    by_cases h : classOf machine inventory.endpointIndex direction packet = .unmapped side
    · rw [(classOf_eq_unmapped_iff machine inventory direction packet side).1 h]
      simp [h]
    · have hnone : ((credit? machine inventory.endpointIndex direction packet).toList.filter
          (·.slot = EndpointIndex.kernelSlot)).filter (·.side = side) = [] := by
        simp only [List.filter_eq_nil_iff, List.mem_filter, Option.mem_toList, decide_eq_true_eq]
        rintro ⟨slot, side', packet'⟩ ⟨hcredit, rfl⟩ rfl
        obtain ⟨rfl, -⟩ := (credit?_eq_some_iff machine inventory.endpointIndex direction).1 hcredit
        exact h ((classOf_eq_unmapped_iff machine inventory direction packet' side').2 hcredit)
      rw [hnone]
      simp [h]

/-- The kernel's bytes of a side are those of the packets of that side that belong to nobody. -/
theorem bytesOf_kernel (side : Side) (packets : List Packet) :
    bytesOf ((creditsOf machine inventory.endpointIndex direction EndpointIndex.kernelSlot
        packets).filter (·.side = side)) =
      ((packets.filter (classOf machine inventory.endpointIndex direction · =
        .unmapped side)).map (·.len.toNat)).sum := by
  rw [kernel_credits, bytesOf, List.map_map]
  rfl

end Kernel

/-- The entries of a batch keep its bytes: each agrees with itself, and together they hold what
the batch is credited with. -/
structure Conserved (machine : LocalAddresses) (inventory : Inventory) (direction : Direction)
    (packets : List Packet) (cycle : CycleStats) (processes : List ProcessTraffic) : Prop where
  /-- There is one entry for the kernel and one for every process, in order. -/
  owners : processes.map (fun process => (process.pid, process.command)) =
    (SocketHolder.kernel.pid, SocketHolder.kernel.command) ::
      inventory.processes.map fun process => (process.pid, process.command)
  balanced : ∀ process ∈ processes, process.Balanced
  /-- A host is there if a packet exchanged with it is credited to the entry. -/
  hosts : ∀ slot process, processes[slot]? = some process → ∀ address,
    process.hosts.contains address = true ↔ ∃ packet ∈ packets, ∃ side,
      credit? machine inventory.endpointIndex direction packet = some ⟨slot, side, packet⟩ ∧
        packet.remote side = address
  recv : (processes.map (·.recv.toNat)).sum = bytesOf
    ((credits machine inventory.endpointIndex direction packets).filter (·.side = .received))
  sent : (processes.map (·.sent.toNat)).sum = bytesOf
    ((credits machine inventory.endpointIndex direction packets).filter (·.side = .sent))
  /-- The kernel has the bytes of the packets that raise the counters of what is unmapped. -/
  kernel : ∃ process, processes[EndpointIndex.kernelSlot]? = some process ∧
    process.recv.toNat = ((raising machine inventory.endpointIndex direction (·.unmappedRecv)
      (start inventory.endpointIndex cycle) packets).map (·.len.toNat)).sum ∧
    process.sent.toNat = ((raising machine inventory.endpointIndex direction (·.unmappedSend)
      (start inventory.endpointIndex cycle) packets).map (·.len.toNat)).sum

section Conservation
variable (machine : LocalAddresses) (inventory : Inventory) (direction : Direction)
variable {packets : List Packet}

theorem bytesOf_credits_le (index : EndpointIndex) (packets : List Packet) :
    bytesOf (credits machine index direction packets) ≤ packets.length * (2 ^ 32 - 1) :=
  Nat.le_trans (bytesOf_le _) (Nat.mul_le_mul_right _ (List.length_filterMap_le _ _))

/-- 64 bits have room for the bytes of 2³² packets. -/
theorem bytesOf_credits_lt (index : EndpointIndex) (hfew : packets.length ≤ 2 ^ 32) :
    bytesOf (credits machine index direction packets) < 2 ^ 64 := by
  have hbytes := bytesOf_credits_le machine direction index packets
  omega

theorem credits_slot_lt {credit : Credit}
    (h : credit ∈ credits machine inventory.endpointIndex direction packets) :
    credit.slot < inventory.endpointIndex.owners.length := by
  obtain ⟨packet, -, hcredit⟩ := List.mem_filterMap.1 h
  obtain ⟨-, -, -, hslot⟩ :=
    (credit?_eq_some_iff machine inventory.endpointIndex direction).1 hcredit
  exact hslot ▸ Inventory.slot_lt inventory _

/-- **Bytes are conserved** in a batch of at most 2³² packets. -/
theorem bytes_are_conserved (hfew : packets.length ≤ 2 ^ 32) (cycle : CycleStats) :
    Conserved machine inventory direction packets cycle
      (ofPackets packets machine inventory.endpointIndex direction cycle).processes := by
  have hroom (slot : Nat) :
      bytesOf (creditsOf machine inventory.endpointIndex direction slot packets) < 2 ^ 64 :=
    bytesOf_filter_lt
      (bytesOf_credits_lt machine direction inventory.endpointIndex hfew) _
  exact {
    owners := owners_ofPackets machine inventory.endpointIndex direction packets cycle
    balanced := by
      intro process hprocess
      rw [processes_ofPackets, List.mem_mapIdx] at hprocess
      obtain ⟨slot, _, rfl⟩ := hprocess
      exact ProcessTraffic.balanced_addAll _ (hroom slot)
    hosts := fun _ _ hprocess =>
      contains_ofPackets_iff machine inventory.endpointIndex direction packets cycle hprocess
    recv := sum_entries machine inventory.endpointIndex direction packets (·.recv.toNat) _ cycle
      (fun _ hcredit => credits_slot_lt machine inventory direction hcredit)
      fun owner slot => ProcessTraffic.toNat_recv_addAll owner (hroom slot)
    sent := sum_entries machine inventory.endpointIndex direction packets (·.sent.toNat) _ cycle
      (fun _ hcredit => credits_slot_lt machine inventory direction hcredit)
      fun owner slot => ProcessTraffic.toNat_sent_addAll owner (hroom slot)
    kernel := by
      rw [processes_ofPackets, List.getElem?_mapIdx]
      refine ⟨_, rfl, ?_, ?_⟩
      · rw [ProcessTraffic.toNat_recv_addAll _ (hroom _), bytesOf_kernel,
          raising_eq_filter machine inventory.endpointIndex direction packets
            (classOf machine inventory.endpointIndex direction · = .unmapped .received)
            (by simpa using step_unmappedRecv machine inventory.endpointIndex direction)]
      · rw [ProcessTraffic.toNat_sent_addAll _ (hroom _), bytesOf_kernel,
          raising_eq_filter machine inventory.endpointIndex direction packets
            (classOf machine inventory.endpointIndex direction · = .unmapped .sent)
            (by simpa using step_unmappedSend machine inventory.endpointIndex direction)] }

/-- A process with one socket. -/
def server : Inventory where
  processes := [⟨42, "server", [⟨.v4 #v[192, 168, 0, 8], 5000, .tcp⟩]⟩]

/-- A question to the socket, its answer, and a packet to a port that nobody holds. -/
def question : List Packet := [
  ⟨.v4 #v[1, 1, 1, 1], .v4 #v[192, 168, 0, 8], 443, 5000, 60, .tcp, 0⟩,
  ⟨.v4 #v[192, 168, 0, 8], .v4 #v[1, 1, 1, 1], 5000, 443, 1500, .tcp, 1⟩,
  ⟨.v4 #v[1, 1, 1, 1], .v4 #v[192, 168, 0, 8], 443, 5001, 40, .udp, 2⟩]

theorem bytes_of_question_are_conserved :
    question.length ≤ 2 ^ 32 ∧
      Conserved (.ofList [.v4 #v[192, 168, 0, 8]]) server .both question {}
        (ofPackets question (.ofList [.v4 #v[192, 168, 0, 8]]) server.endpointIndex .both
          {}).processes :=
  ⟨by decide, bytes_are_conserved _ server .both (by decide) {}⟩

end Conservation

end Attribution

end Flowmeter
