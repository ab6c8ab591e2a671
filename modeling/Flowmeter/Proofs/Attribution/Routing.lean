import Mathlib.Data.List.Permutation
import Flowmeter.Proofs.Attribution.Bytes
import Flowmeter.Proofs.Inventory.Holders

/-! Packets reach their owners.

From what the source says of tables and processes to the entry that a packet counts for:
the process with the lowest pid that holds the packet's local end, else the one with the
lowest pid that holds its wildcard, else the kernel. What a packet counts is told by leaving it
out: with it, the entry has its bytes and its remote host has them (`CountsFor`), and every other
entry is as without it. `packets_reach_their_owners` says this for every packet of a batch,
wherever it stands in it, under the index of the inventory built from the source. -/
namespace Flowmeter

/-- The slot of the entry that answers for an endpoint, said of the source. -/
inductive Answers (source : Source) (processes : List ProcessTraffic) (endpoint : Endpoint) :
    Nat → Prop where
  | exact {slot : Nat} {process : ProcessTraffic} :
      slot ≠ EndpointIndex.kernelSlot → processes[slot]? = some process →
      IsLeast (source.holders endpoint) process.pid → Answers source processes endpoint slot
  | wildcard {slot : Nat} {process : ProcessTraffic} :
      slot ≠ EndpointIndex.kernelSlot → processes[slot]? = some process →
      source.holders endpoint = ∅ → IsLeast (source.holders endpoint.wildcard) process.pid →
      Answers source processes endpoint slot
  | kernel :
      source.holders endpoint = ∅ → source.holders endpoint.wildcard = ∅ →
      Answers source processes endpoint EndpointIndex.kernelSlot

/-- Traffic of a process without a packet and with it: with it, its bytes are in the total of its
side and in the counters of its remote host, those of its side and of its protocol. Nothing else
differs. -/
structure CountsFor (packet : Packet) (side : Side) (without counted : ProcessTraffic) : Prop where
  owner : counted.pid = without.pid ∧ counted.command = without.command
  recv : counted.recv = without.recv + if side = .received then packet.len.toUInt64 else 0
  sent : counted.sent = without.sent + if side = .sent then packet.len.toUInt64 else 0
  host : ∃ host, host = (without.hosts.find? (packet.remote side)).getD {} ∧
    counted.hosts.find? (packet.remote side) = some {
      recv := host.recv + if side = .received then packet.len.toUInt64 else 0
      sent := host.sent + if side = .sent then packet.len.toUInt64 else 0
      tcp := host.tcp + if packet.protocol = .tcp then packet.len.toUInt64 else 0
      udp := host.udp + if packet.protocol = .udp then packet.len.toUInt64 else 0 }
  others : ∀ address, address ≠ packet.remote side →
    counted.hosts.find? address = without.hosts.find? address

/-- Of all entries, the packet counts for the one in the slot. -/
structure CountsIn (packet : Packet) (side : Side) (slot : Nat)
    (without counted : List ProcessTraffic) : Prop where
  entry : ∃ before after, without[slot]? = some before ∧ counted[slot]? = some after ∧
    CountsFor packet side before after
  others : ∀ other, other ≠ slot → counted[other]? = without[other]?

/-- A batch is credited as the source says it should be. The entries of any batch are given by
`tally`. -/
structure Routed (source : Source) (machine : LocalAddresses) (index : EndpointIndex)
    (direction : Direction) (tally : List Packet → List ProcessTraffic) (packets : List Packet) :
    Prop where
  /-- The kernel has the first entry. -/
  kernel : ∃ process, (tally packets)[EndpointIndex.kernelSlot]? = some process ∧
    process.pid = SocketHolder.kernel.pid ∧ process.command = SocketHolder.kernel.command
  /-- No process has two entries. -/
  distinct : ((tally packets).tail.map (·.pid)).Pairwise (· < ·)
  /-- Without packets there is no traffic. -/
  idle : ∀ process ∈ tally [], process.recv = 0 ∧ process.sent = 0 ∧
    ∀ address, process.hosts.find? address = none
  /-- Every entry is what the batch is credited with in its slot. -/
  entries : tally packets = index.owners.mapIdx fun slot owner =>
    (ProcessTraffic.idle owner).addAll
      ((packets.filterMap (Attribution.credit? machine index direction)).filter (·.slot = slot))
  /-- A captured packet counts for one entry, the one that answers for its local end. -/
  captured : ∀ front packet back, packets = front ++ packet :: back →
    ∀ side, packet.Crosses machine side → direction.captures side = true →
      ∃ slot, Attribution.credit? machine index direction packet = some ⟨slot, side, packet⟩ ∧
        slot < (tally packets).length ∧
        Answers source (tally packets) (packet.localEnd side) slot ∧
        CountsIn packet side slot (tally (front ++ back)) (tally packets)
  /-- No other packet counts for anybody. -/
  others : ∀ front packet back, packets = front ++ packet :: back →
    (∀ side, packet.Crosses machine side → direction.captures side = false) →
      Attribution.credit? machine index direction packet = none ∧
        tally packets = tally (front ++ back)

/-- With one credit more, wherever it stands, an entry has what its packet counts. -/
theorem ProcessTraffic.countsFor_insert (traffic : ProcessTraffic) (credit : Credit)
    (front back : List Credit) :
    CountsFor credit.packet credit.side (traffic.addAll (front ++ back))
      (traffic.addAll (front ++ credit :: back)) where
  owner := by
    obtain ⟨hpid, hcommand⟩ := traffic.addAll_owner (front ++ credit :: back)
    obtain ⟨hpid', hcommand'⟩ := traffic.addAll_owner (front ++ back)
    exact ⟨hpid.trans hpid'.symm, hcommand.trans hcommand'.symm⟩
  recv := by rw [addAll_recv, addAll_recv, ofNat_bytesOf_insert, UInt64.add_assoc]
  sent := by rw [addAll_sent, addAll_sent, ofNat_bytesOf_insert, UInt64.add_assoc]
  host := by
    have hinsert : (front ++ credit :: back).filter (·.remote = credit.remote) =
        front.filter (·.remote = credit.remote) ++
          credit :: back.filter (·.remote = credit.remote) := by
      simp
    refine ⟨_, rfl, ?_⟩
    rw [getD_find?_hosts_addAll, List.filter_append]
    refine (find?_hosts_addAll traffic _ credit.remote).trans ?_
    have hsome := List.append_ne_nil_of_right_ne_nil
      (front.filter (·.remote = credit.remote))
      (List.cons_ne_nil credit (back.filter (·.remote = credit.remote)))
    rw [hinsert, if_neg hsome, HostTraffic.addAll_insert]
    rfl
  others address hne := by
    have hother : (front ++ credit :: back).filter (·.remote = address) =
        (front ++ back).filter (·.remote = address) := by
      simp [Credit.remote, Ne.symm hne]
    rw [find?_hosts_addAll, find?_hosts_addAll, hother]

namespace Attribution

variable {source : Source} {inventory : Inventory}

/-- An owned endpoint is answered for by the entry in its owner's slot. -/
theorem lowest_of_lookup (hbuild : Inventory.build source = .ok inventory)
    (machine : LocalAddresses) (direction : Direction) (packets : List Packet)
    (cycle : CycleStats) {endpoint : Endpoint} {slot : Nat}
    (h : inventory.endpointIndex.lookup endpoint = some slot) :
    ∃ process, (ofPackets packets machine inventory.endpointIndex direction
        cycle).processes[slot]? = some process ∧
      IsLeast (source.holders endpoint) process.pid := by
  obtain ⟨pid, command, hlowest, howner⟩ := Inventory.exists_isLeast_of_lookup hbuild h
  obtain ⟨process, hprocess, rfl, -⟩ :=
    entry_ofPackets machine inventory.endpointIndex direction packets cycle howner
  exact ⟨process, hprocess, hlowest⟩

/-- The owner that an inventory's index names is the one that answers. -/
theorem answers_owner? (hbuild : Inventory.build source = .ok inventory)
    (machine : LocalAddresses) (direction : Direction) (packets : List Packet)
    (cycle : CycleStats) (endpoint : Endpoint) :
    Answers source
      (ofPackets packets machine inventory.endpointIndex direction cycle).processes endpoint
      ((inventory.endpointIndex.owner? endpoint).getD EndpointIndex.kernelSlot) := by
  rw [EndpointIndex.owner?_eq]
  cases hexact : inventory.endpointIndex.lookup endpoint with
  | some slot =>
    obtain ⟨process, hprocess, hlowest⟩ :=
      lowest_of_lookup hbuild machine direction packets cycle hexact
    exact .exact (Inventory.lookup_bounds hexact).1 hprocess hlowest
  | none =>
    have hnobody := (Inventory.lookup_eq_none_iff_holders hbuild).1 hexact
    cases hwild : inventory.endpointIndex.lookup endpoint.wildcard with
    | some slot =>
      obtain ⟨process, hprocess, hlowest⟩ :=
        lowest_of_lookup hbuild machine direction packets cycle hwild
      exact .wildcard (Inventory.lookup_bounds hwild).1 hprocess hnobody hlowest
    | none => exact .kernel hnobody ((Inventory.lookup_eq_none_iff_holders hbuild).1 hwild)

section Place
variable (machine : LocalAddresses) (index : EndpointIndex) (direction : Direction)
  {front back : List Packet} {packet : Packet}

/-- A packet that is credited counts in the slot of its credit. -/
theorem countsIn_of_credit? {credit : Credit}
    (hcredit : credit? machine index direction packet = some credit)
    (hslot : credit.slot < index.owners.length) (cycle : CycleStats) :
    CountsIn packet credit.side credit.slot
      (ofPackets (front ++ back) machine index direction cycle).processes
      (ofPackets (front ++ packet :: back) machine index direction cycle).processes := by
  obtain ⟨rfl, -⟩ := (credit?_eq_some_iff machine index direction).1 hcredit
  have hcredits := credits_of_some machine index direction front back hcredit
  constructor
  · rw [processes_ofPackets, processes_ofPackets, List.getElem?_mapIdx, List.getElem?_mapIdx,
      List.getElem?_eq_getElem hslot]
    refine ⟨_, _, rfl, rfl, ?_⟩
    have hmine : creditsOf machine index direction credit.slot
        (front ++ credit.packet :: back) =
          creditsOf machine index direction credit.slot front ++
            credit :: creditsOf machine index direction credit.slot back := by
      simp [creditsOf, hcredits]
    rw [hmine, creditsOf_append]
    exact ProcessTraffic.countsFor_insert ..
  · intro other hother
    have hothers : creditsOf machine index direction other (front ++ credit.packet :: back) =
        creditsOf machine index direction other (front ++ back) := by
      simp [creditsOf, hcredits, credits_append, hother.symm]
    rw [processes_ofPackets, processes_ofPackets, List.getElem?_mapIdx, List.getElem?_mapIdx,
      hothers]

/-- A packet that is not credited might as well not be there. -/
theorem processes_of_credit?_none (hcredit : credit? machine index direction packet = none)
    (cycle : CycleStats) :
    (ofPackets (front ++ packet :: back) machine index direction cycle).processes =
      (ofPackets (front ++ back) machine index direction cycle).processes := by
  simp only [processes_ofPackets, creditsOf,
    credits_of_none machine index direction front back hcredit]

end Place

/-- **Packets reach their owners.** Under the index of an inventory built from a source, a
captured packet counts for one entry: that of the process with the lowest pid that holds its
local end, else of the one with the lowest pid that holds the wildcard, else the kernel's. Its
bytes are added there and to its remote host. No other packet counts for anybody. -/
theorem packets_reach_their_owners (hbuild : Inventory.build source = .ok inventory)
    (machine : LocalAddresses) (direction : Direction) (packets : List Packet)
    (cycle : CycleStats) :
    Routed source machine inventory.endpointIndex direction
      (fun packets =>
        (ofPackets packets machine inventory.endpointIndex direction cycle).processes)
      packets where
  kernel := entry_ofPackets machine inventory.endpointIndex direction packets cycle rfl
  distinct := by
    have howners := owners_ofPackets machine inventory.endpointIndex direction packets cycle
    have hpids := congrArg (fun owners => (owners.map Prod.fst).tail)
      (howners.trans (Inventory.owners_endpointIndex inventory))
    simp only [List.map_map, Function.comp_def, List.map_cons, List.tail_cons] at hpids
    rw [List.map_tail, hpids]
    exact List.pairwise_map.2 (Inventory.pairwise_pids hbuild)
  idle := by
    intro process hprocess
    obtain ⟨owner, -, rfl⟩ := List.mem_map.1 hprocess
    exact ⟨rfl, rfl, fun _ => rfl⟩
  entries := processes_ofPackets machine inventory.endpointIndex direction packets cycle
  captured := by
    rintro front packet back rfl side hcross hcapture
    have hcredit :=
      credit?_of_crosses machine inventory.endpointIndex direction hcross hcapture
    have hslot := Inventory.slot_lt inventory (packet.localEnd side)
    refine ⟨_, hcredit, ?_, answers_owner? hbuild machine direction _ cycle _,
      countsIn_of_credit? machine _ direction hcredit hslot cycle⟩
    rw [length_ofPackets]
    exact hslot
  others := by
    rintro front packet back rfl h
    have hcredit := credit?_eq_none machine inventory.endpointIndex direction h
    exact ⟨hcredit, processes_of_credit?_none machine _ direction hcredit cycle⟩

section Forked

/-- Two processes hold one socket, and the second holds another on the wildcard address. -/
def forked : Source where
  table
    | .tcp => some (
        "0: 0800A8C0:1388 00000000:0000 0 0 0 0 0 0 7\n" ++
        "1: 00000000:0050 00000000:0000 0 0 0 0 0 0 8\n")
    | _ => none
  pids := .ok [77, 42]
  inodes pid := if pid = 42 then some [7] else some [8, 7]
  command _ := none

/-- What is known of the two processes, the one with the lower pid first. -/
def forkedInventory : Inventory where
  processes := [
    ⟨42, "(no cmd line)", [⟨.quad 192 168 0 8, 5000, .tcp⟩]⟩,
    ⟨77, "(no cmd line)", [⟨.quad 0 0 0 0, 80, .tcp⟩, ⟨.quad 192 168 0 8, 5000, .tcp⟩]⟩]

/-- Packets to the shared socket, to the wildcard one, and to a port that nobody holds. -/
def toForked : List Packet :=
  [5000, 80, 81].map fun port =>
    ⟨.quad 1 1 1 1, .quad 192 168 0 8, 443, port, 60, .tcp, 0⟩

/-- What comes in for the two processes and for the kernel. -/
def forkedTally (packets : List Packet) : List ProcessTraffic :=
  (ofPackets packets (.ofList [.quad 192 168 0 8]) forkedInventory.endpointIndex .both
    {}).processes

theorem packets_reach_forked_processes :
    Inventory.build forked = .ok forkedInventory ∧
      Routed forked (.ofList [.quad 192 168 0 8]) forkedInventory.endpointIndex .both
        forkedTally toForked ∧
      (forkedTally toForked).map (fun process => (process.pid, process.recv)) =
        [(-1, 60), (42, 60), (77, 60)] :=
  have hbuild : Inventory.build forked = .ok forkedInventory := by cbv
  ⟨hbuild, packets_reach_their_owners hbuild _ .both toForked {}, by decide +kernel⟩

end Forked

end Attribution

end Flowmeter
