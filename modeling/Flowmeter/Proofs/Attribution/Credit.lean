import Flowmeter.Attribution

/-! What a batch of packets is credited with.

A packet that crosses between the machine and elsewhere has one local end, and it counts
for the owner of that end. `Verdict.credit?` is what a verdict counts and for which slot,
and `credits` lists this for a batch. `processes_ofPackets` says that the traffic of a
slot is what the batch is credited with there and nothing else, whatever the index. -/
namespace Flowmeter

/-- Which way a packet goes, seen from the machine. -/
inductive Side
  | received
  | sent
  deriving DecidableEq, Repr

/-- Whether packets of a side are attributed. -/
def Direction.captures (direction : Direction) : Side → Bool
  | .received => direction.capturesRecv
  | .sent => direction.capturesSend

namespace Packet

/-- The end of a packet that is the machine's, if it goes this way. -/
def localEnd (packet : Packet) : Side → Endpoint
  | .received => ⟨packet.dst, packet.dstPort, packet.protocol⟩
  | .sent => ⟨packet.src, packet.srcPort, packet.protocol⟩

/-- The address of the other end. -/
def remote (packet : Packet) : Side → Address
  | .received => packet.src
  | .sent => packet.dst

/-- The packet goes this way: of its two ends, which differ, the one is local and the other
is not. -/
structure Crosses (machine : LocalAddresses) (packet : Packet) (side : Side) : Prop where
  distinct : packet.src ≠ packet.dst
  near : machine.contains (packet.localEnd side).address = true
  far : machine.contains (packet.remote side) = false

end Packet

/-- A packet that counts for a slot, as received or as sent. -/
structure Credit where
  slot : Nat
  side : Side
  packet : Packet
  deriving DecidableEq

/-- The host that the bytes are exchanged with. -/
def Credit.remote (credit : Credit) : Address := credit.packet.remote credit.side

namespace Verdict

/-- The verdict on a captured packet of a side, given the owner of its local end. -/
def toward : Side → Option Nat → Verdict
  | .received, owner => received owner
  | .sent, owner => sent owner

/-- What a verdict counts a packet for. Packets without an owner count for the kernel. -/
def credit? (packet : Packet) : Verdict → Option Credit
  | received owner => some ⟨owner.getD EndpointIndex.kernelSlot, .received, packet⟩
  | sent owner => some ⟨owner.getD EndpointIndex.kernelSlot, .sent, packet⟩
  | self | undetermined | masked => none

@[simp] theorem credit?_toward (packet : Packet) (side : Side) (owner : Option Nat) :
    (toward side owner).credit? packet =
      some ⟨owner.getD EndpointIndex.kernelSlot, side, packet⟩ := by
  cases side <;> rfl

variable {machine : LocalAddresses} {packet : Packet}

theorem of_self (index : EndpointIndex) (direction : Direction) (h : packet.src = packet.dst) :
    Verdict.of machine index direction packet = self := by
  rw [Verdict.of, if_pos h]

theorem of_undetermined (index : EndpointIndex) (direction : Direction)
    (hne : packet.src ≠ packet.dst)
    (h : machine.contains packet.src = machine.contains packet.dst) :
    Verdict.of machine index direction packet = undetermined := by
  rw [Verdict.of, if_neg hne, h]
  cases machine.contains packet.dst <;> rfl

theorem of_crosses (index : EndpointIndex) (direction : Direction) {side : Side}
    (h : packet.Crosses machine side) :
    Verdict.of machine index direction packet =
      if direction.captures side then toward side (index.owner? (packet.localEnd side))
      else masked := by
  obtain ⟨hne, hnear, hfar⟩ := h
  cases side with
  | received =>
    simp only [Packet.localEnd, Packet.remote] at hnear hfar
    simp only [Verdict.of, if_neg hne, hnear, hfar]
    rfl
  | sent =>
    simp only [Packet.localEnd, Packet.remote] at hnear hfar
    simp only [Verdict.of, if_neg hne, hnear, hfar]
    rfl

end Verdict

/-- A packet stays on the machine, has two ends of one kind, or crosses. -/
theorem Packet.cases (machine : LocalAddresses) (packet : Packet) :
    packet.src = packet.dst ∨
      (packet.src ≠ packet.dst ∧ machine.contains packet.src = machine.contains packet.dst) ∨
      ∃ side, packet.Crosses machine side := by
  by_cases hne : packet.src = packet.dst
  · exact .inl hne
  · cases hs : machine.contains packet.src <;> cases hd : machine.contains packet.dst
    · exact .inr (.inl ⟨hne, rfl⟩)
    · exact .inr (.inr ⟨.received, hne, hd, hs⟩)
    · exact .inr (.inr ⟨.sent, hne, hs, hd⟩)
    · exact .inr (.inl ⟨hne, rfl⟩)

namespace ProcessTraffic

/-- No traffic yet. -/
def idle (owner : Int × String) : ProcessTraffic := { pid := owner.1, command := owner.2 }

/-- Counts what is credited. -/
def add (traffic : ProcessTraffic) (credit : Credit) : ProcessTraffic :=
  match credit.side with
  | .received => traffic.addReceived credit.packet
  | .sent => traffic.addSent credit.packet

def addAll (traffic : ProcessTraffic) (credits : List Credit) : ProcessTraffic :=
  credits.foldl add traffic

/-- Counting does not change whose traffic it is. -/
theorem addAll_owner (traffic : ProcessTraffic) (credits : List Credit) :
    (traffic.addAll credits).pid = traffic.pid ∧
      (traffic.addAll credits).command = traffic.command := by
  induction credits generalizing traffic with
  | nil => exact ⟨rfl, rfl⟩
  | cons credit rest ih =>
    obtain ⟨hpid, hcommand⟩ := ih (traffic.add credit)
    have hadd : (traffic.add credit).pid = traffic.pid ∧
        (traffic.add credit).command = traffic.command := by
      unfold add
      cases credit.side <;> exact ⟨rfl, rfl⟩
    exact ⟨hpid.trans hadd.1, hcommand.trans hadd.2⟩

end ProcessTraffic

namespace Attribution

theorem record_processes (state : Attribution) (packet : Packet) (verdict : Verdict) :
    (state.record packet verdict).processes =
      match verdict.credit? packet with
      | none => state.processes
      | some credit => state.processes.modify credit.slot (·.add credit) := by
  rcases verdict with _ | _ | _ | (_ | slot) | (_ | slot) <;> rfl

section Run
variable (machine : LocalAddresses) (index : EndpointIndex) (direction : Direction)

/-- One packet. -/
def step (state : Attribution) (packet : Packet) : Attribution :=
  state.record packet (Verdict.of machine index direction packet)

/-- The packets one after the other. -/
def run (state : Attribution) (packets : List Packet) : Attribution :=
  packets.foldl (step machine index direction) state

theorem ofPackets_eq_run (packets : List Packet) (cycle : CycleStats) :
    ofPackets packets machine index direction cycle =
      run machine index direction (start index cycle) packets := rfl

/-- What a packet counts for. -/
def credit? (packet : Packet) : Option Credit :=
  (Verdict.of machine index direction packet).credit? packet

section Packet
variable {packet : Packet}

/-- What is captured is credited to the owner of its local end. -/
theorem credit?_of_crosses {side : Side} (hcross : packet.Crosses machine side)
    (hcapture : direction.captures side = true) :
    credit? machine index direction packet =
      some ⟨(index.owner? (packet.localEnd side)).getD EndpointIndex.kernelSlot, side, packet⟩ := by
  rw [credit?, Verdict.of_crosses index direction hcross, if_pos hcapture, Verdict.credit?_toward]

/-- What is not captured is not credited. -/
theorem credit?_eq_none
    (h : ∀ side, packet.Crosses machine side → direction.captures side = false) :
    credit? machine index direction packet = none := by
  unfold credit?
  rcases packet.cases machine with hself | ⟨hne, hends⟩ | ⟨side, hcross⟩
  · rw [Verdict.of_self index direction hself]
    rfl
  · rw [Verdict.of_undetermined index direction hne hends]
    rfl
  · rw [Verdict.of_crosses index direction hcross, h side hcross]
    rfl

theorem credit?_eq_some_iff {credit : Credit} :
    credit? machine index direction packet = some credit ↔
      credit.packet = packet ∧ packet.Crosses machine credit.side ∧
        direction.captures credit.side = true ∧
        (index.owner? (packet.localEnd credit.side)).getD EndpointIndex.kernelSlot =
          credit.slot := by
  constructor
  · intro h
    by_cases hcaptured : ∃ side, packet.Crosses machine side ∧ direction.captures side = true
    · obtain ⟨side, hcross, hcapture⟩ := hcaptured
      rw [credit?_of_crosses machine index direction hcross hcapture] at h
      obtain rfl := Option.some.inj h
      exact ⟨rfl, hcross, hcapture, rfl⟩
    · rw [credit?_eq_none machine index direction fun side hcross =>
        Bool.eq_false_iff.2 fun hcapture => hcaptured ⟨side, hcross, hcapture⟩] at h
      cases h
  · rintro ⟨rfl, hcross, hcapture, hslot⟩
    rw [credit?_of_crosses machine index direction hcross hcapture, hslot]

end Packet

/-- What a batch counts for, in order. -/
def credits (packets : List Packet) : List Credit :=
  packets.filterMap (credit? machine index direction)

theorem credits_append (packets more : List Packet) :
    credits machine index direction (packets ++ more) =
      credits machine index direction packets ++ credits machine index direction more :=
  List.filterMap_append

/-- A packet's credit stands between those of the packets before and after it. -/
theorem credits_of_some (front back : List Packet) {packet : Packet} {credit : Credit}
    (h : credit? machine index direction packet = some credit) :
    credits machine index direction (front ++ packet :: back) =
      credits machine index direction front ++
        credit :: credits machine index direction back := by
  rw [credits_append, credits, credits, credits, List.filterMap_cons_some h]

theorem credits_of_none (front back : List Packet) {packet : Packet}
    (h : credit? machine index direction packet = none) :
    credits machine index direction (front ++ packet :: back) =
      credits machine index direction (front ++ back) := by
  rw [credits_append, credits_append, credits, credits, credits, List.filterMap_cons_none h]

/-- What a batch counts for one slot. -/
def creditsOf (slot : Nat) (packets : List Packet) : List Credit :=
  (credits machine index direction packets).filter (·.slot = slot)

theorem creditsOf_append (slot : Nat) (packets more : List Packet) :
    creditsOf machine index direction slot (packets ++ more) =
      creditsOf machine index direction slot packets ++
        creditsOf machine index direction slot more := by
  rw [creditsOf, credits_append, List.filter_append]
  rfl

theorem creditsOf_cons (slot : Nat) (packet : Packet) (rest : List Packet) :
    creditsOf machine index direction slot (packet :: rest) =
      ((credit? machine index direction packet).toList.filter (·.slot = slot)) ++
        creditsOf machine index direction slot rest := by
  unfold creditsOf credits
  cases h : credit? machine index direction packet with
  | none => simp [h]
  | some credit => by_cases hs : credit.slot = slot <;> simp [h, hs]

theorem mem_creditsOf_iff {slot : Nat} {packets : List Packet} {credit : Credit} :
    credit ∈ creditsOf machine index direction slot packets ↔
      ∃ packet ∈ packets, credit? machine index direction packet = some credit ∧
        credit.slot = slot := by
  simp only [creditsOf, credits, List.mem_filter, List.mem_filterMap, decide_eq_true_eq]
  constructor
  · rintro ⟨⟨packet, hpacket, hcredit⟩, hslot⟩
    exact ⟨packet, hpacket, hcredit, hslot⟩
  · rintro ⟨packet, hpacket, hcredit, hslot⟩
    exact ⟨⟨packet, hpacket, hcredit⟩, hslot⟩

/-- One packet changes a slot by what it counts for there. -/
theorem step_processes (state : Attribution) (packet : Packet) (slot : Nat) :
    (step machine index direction state packet).processes[slot]? =
      state.processes[slot]?.map fun traffic =>
        traffic.addAll ((credit? machine index direction packet).toList.filter (·.slot = slot)) := by
  rw [step, record_processes]
  cases h : (Verdict.of machine index direction packet).credit? packet with
  | none => simp [credit?, h, ProcessTraffic.addAll]
  | some credit =>
    simp only [credit?, h, List.getElem?_modify]
    by_cases hs : credit.slot = slot
    · simp [hs, ProcessTraffic.addAll]
    · simp [hs, ProcessTraffic.addAll]

theorem run_processes (state : Attribution) (packets : List Packet) (slot : Nat) :
    (run machine index direction state packets).processes[slot]? =
      state.processes[slot]?.map (·.addAll (creditsOf machine index direction slot packets)) := by
  induction packets generalizing state with
  | nil => simp [run, creditsOf, credits, ProcessTraffic.addAll]
  | cons packet rest ih =>
    have hrun : run machine index direction state (packet :: rest) =
        run machine index direction (step machine index direction state packet) rest := rfl
    rw [hrun, ih, step_processes, Option.map_map, creditsOf_cons]
    simp only [Function.comp_def, ProcessTraffic.addAll, List.foldl_append]

/-- **The traffic of a slot is what the batch is credited with there**, added to nothing. -/
theorem processes_ofPackets (packets : List Packet) (cycle : CycleStats) :
    (ofPackets packets machine index direction cycle).processes =
      index.owners.mapIdx fun slot owner =>
        (ProcessTraffic.idle owner).addAll (creditsOf machine index direction slot packets) := by
  apply List.ext_getElem?
  intro slot
  rw [ofPackets_eq_run, run_processes, List.getElem?_mapIdx]
  simp only [start, List.getElem?_map, Option.map_map]
  rfl

/-- There is an entry for every owner, in order. -/
theorem owners_ofPackets (packets : List Packet) (cycle : CycleStats) :
    (ofPackets packets machine index direction cycle).processes.map
      (fun process => (process.pid, process.command)) = index.owners := by
  apply List.ext_getElem?
  intro slot
  rw [processes_ofPackets, List.getElem?_map, List.getElem?_mapIdx, Option.map_map]
  cases h : index.owners[slot]? with
  | none => rfl
  | some owner =>
    obtain ⟨hpid, hcommand⟩ := ProcessTraffic.addAll_owner (.idle owner)
      (creditsOf machine index direction slot packets)
    simp only [Option.map_some, Function.comp_apply, hpid, hcommand]
    rfl

theorem length_ofPackets (packets : List Packet) (cycle : CycleStats) :
    (ofPackets packets machine index direction cycle).processes.length = index.owners.length := by
  rw [← owners_ofPackets machine index direction packets cycle, List.length_map]

/-- The entry in an owner's slot is that owner's. -/
theorem entry_ofPackets (packets : List Packet) (cycle : CycleStats) {slot : Nat}
    {pid : Int} {command : String} (h : index.owners[slot]? = some (pid, command)) :
    ∃ process,
      (ofPackets packets machine index direction cycle).processes[slot]? = some process ∧
      process.pid = pid ∧ process.command = command := by
  rw [← owners_ofPackets machine index direction packets cycle, List.getElem?_map,
    Option.map_eq_some_iff] at h
  obtain ⟨process, hprocess, howner⟩ := h
  exact ⟨process, hprocess, congrArg Prod.fst howner, congrArg Prod.snd howner⟩

end Run

end Attribution

end Flowmeter
