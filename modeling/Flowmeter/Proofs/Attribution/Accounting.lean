import Mathlib.Algebra.GroupWithZero.Nat
import Flowmeter.Proofs.Attribution.Credit
import Flowmeter.Proofs.Inventory.Lookup

/-! Every packet is counted once.

A packet is of one class, told from its addresses, the direction and the index
(`PacketClass.Holds`). A batch is `Accounted` for if the counters rise by the sizes of
classes, the classes make up the batch, and the events are those of the packets that are
undetermined or belong to nobody, in order. `each_packet_counted_once` says that
attribution accounts for every batch so. -/
namespace Flowmeter

/-- What becomes of a packet. -/
inductive PacketClass
  | self
  | undetermined
  | masked
  | mapped (side : Side)
  | unmapped (side : Side)
  deriving DecidableEq, Repr

namespace PacketClass

/-- When a packet is of a class. -/
def Holds (machine : LocalAddresses) (index : EndpointIndex) (direction : Direction)
    (packet : Packet) : PacketClass → Prop
  | self => packet.src = packet.dst
  | undetermined =>
    packet.src ≠ packet.dst ∧ (machine.contains packet.src ↔ machine.contains packet.dst)
  | masked => ∃ side, packet.Crosses machine side ∧ direction.captures side = false
  | mapped side =>
    packet.Crosses machine side ∧ direction.captures side = true ∧
      (index.lookup (packet.localEnd side) ≠ none ∨
        index.lookup (packet.localEnd side).wildcard ≠ none)
  | unmapped side =>
    packet.Crosses machine side ∧ direction.captures side = true ∧
      index.lookup (packet.localEnd side) = none ∧
      index.lookup (packet.localEnd side).wildcard = none

/-- The kind of event that a packet of a class gives rise to. -/
def eventKind? : PacketClass → Option EventKind
  | undetermined => some .undetermined
  | unmapped .received => some .unmappedRecv
  | unmapped .sent => some .unmappedSend
  | self | masked | mapped _ => none

/-- Whether packets of a class are counted for a process or the kernel. -/
def isAttributed : PacketClass → Bool
  | mapped _ | unmapped _ => true
  | self | undetermined | masked => false

section Sizes
variable (classOf : Packet → PacketClass) (packets : List Packet)

/-- How many packets are of a class. -/
def size (c : PacketClass) : Nat := packets.countP (classOf · = c)

/-- How many packets are counted for a process. -/
def mappedSize : Nat :=
  size classOf packets (mapped .received) + size classOf packets (mapped .sent)

/-- How many packets are counted for the kernel. -/
def unmappedSize : Nat :=
  size classOf packets (unmapped .received) + size classOf packets (unmapped .sent)

/-- The classes make up a batch. -/
theorem sizes_eq_length :
    mappedSize classOf packets + unmappedSize classOf packets + size classOf packets undetermined +
      size classOf packets self + size classOf packets masked = packets.length := by
  unfold mappedSize unmappedSize size
  induction packets with
  | nil => rfl
  | cons packet rest ih =>
    rcases h : classOf packet with _ | _ | _ | side | side
    · simp [h]; omega
    · simp [h]; omega
    · simp [h]; omega
    · cases side <;> simp [h] <;> omega
    · cases side <;> simp [h] <;> omega

/-- What is attributed is mapped or unmapped. -/
theorem countP_isAttributed :
    packets.countP (isAttributed ∘ classOf) =
      mappedSize classOf packets + unmappedSize classOf packets := by
  unfold mappedSize unmappedSize size
  induction packets with
  | nil => rfl
  | cons packet rest ih =>
    rcases h : classOf packet with _ | _ | _ | side | side
    · simp [h, isAttributed, ih]
    · simp [h, isAttributed, ih]
    · simp [h, isAttributed, ih]
    · cases side <;> simp [h, isAttributed, ih] <;> omega
    · cases side <;> simp [h, isAttributed, ih] <;> omega

end Sizes

end PacketClass

open PacketClass in
/-- The counters and events after a batch, given those before and the classes of packets.
Counters have 64 bits. -/
structure Accounted (classOf : Packet → PacketClass) (packets : List Packet) (before : CycleStats)
    (after : Attribution) : Prop where
  undetermined : after.cycle.undetermined =
    before.undetermined + .ofNat (size classOf packets .undetermined)
  unmappedRecv : after.cycle.unmappedRecv =
    before.unmappedRecv + .ofNat (size classOf packets (.unmapped .received))
  unmappedSend : after.cycle.unmappedSend =
    before.unmappedSend + .ofNat (size classOf packets (.unmapped .sent))
  attributed : after.cycle.attributed =
    before.attributed + .ofNat (mappedSize classOf packets + unmappedSize classOf packets)
  total : after.cycle.total = before.total
  parts : mappedSize classOf packets + unmappedSize classOf packets +
    size classOf packets .undetermined + size classOf packets .self +
    size classOf packets .masked = packets.length
  /-- Without overflow the rises and the packets that raise nothing make up the batch. -/
  rises :
    before.attributed.toNat + (mappedSize classOf packets + unmappedSize classOf packets) < 2 ^ 64 →
    before.undetermined.toNat + size classOf packets .undetermined < 2 ^ 64 →
    (after.cycle.attributed.toNat - before.attributed.toNat) +
      (after.cycle.undetermined.toNat - before.undetermined.toNat) +
      size classOf packets .self + size classOf packets .masked = packets.length
  events : after.events = packets.filterMap fun packet =>
    (classOf packet).eventKind?.map fun kind => ⟨kind, packet⟩

/-- The class of packets with a verdict. -/
def Verdict.class : Verdict → PacketClass
  | self => .self
  | undetermined => .undetermined
  | masked => .masked
  | received owner => if owner.isSome then .mapped .received else .unmapped .received
  | sent owner => if owner.isSome then .mapped .sent else .unmapped .sent

namespace Attribution

section Classes
variable (machine : LocalAddresses) (index : EndpointIndex) (direction : Direction)

/-- The class a packet is put in. -/
def classOf (packet : Packet) : PacketClass := (Verdict.of machine index direction packet).class

variable {machine index direction} in
theorem classOf_of_holds {packet : Packet} {c : PacketClass}
    (h : c.Holds machine index direction packet) : classOf machine index direction packet = c := by
  unfold classOf
  cases c with
  | self => rw [Verdict.of_self index direction h]; rfl
  | undetermined =>
    rw [Verdict.of_undetermined index direction h.1 (Bool.eq_iff_iff.2 h.2)]
    rfl
  | masked =>
    obtain ⟨side, hcross, hcapture⟩ := h
    rw [Verdict.of_crosses index direction hcross, hcapture]
    rfl
  | mapped side =>
    obtain ⟨hcross, hcapture, howner⟩ := h
    have hsome : (index.owner? (packet.localEnd side)).isSome = true := by
      rw [EndpointIndex.owner?_eq, Option.isSome_or, Bool.or_eq_true]
      exact howner.imp Option.isSome_iff_ne_none.2 Option.isSome_iff_ne_none.2
    rw [Verdict.of_crosses index direction hcross, if_pos hcapture]
    cases side <;> simp [Verdict.toward, Verdict.class, hsome]
  | unmapped side =>
    obtain ⟨hcross, hcapture, hexact, hwild⟩ := h
    have hnone : index.owner? (packet.localEnd side) = none := by
      rw [EndpointIndex.owner?_eq, hexact, hwild]
      rfl
    rw [Verdict.of_crosses index direction hcross, if_pos hcapture, hnone]
    cases side <;> rfl

theorem exists_class (packet : Packet) :
    ∃ c : PacketClass, c.Holds machine index direction packet := by
  rcases packet.cases machine with h | h | ⟨side, h⟩
  · exact ⟨.self, h⟩
  · exact ⟨.undetermined, h.1, by rw [h.2]⟩
  · cases hcapture : direction.captures side with
    | false => exact ⟨.masked, side, h, hcapture⟩
    | true =>
      by_cases hexact : index.lookup (packet.localEnd side) = none
      · by_cases hwild : index.lookup (packet.localEnd side).wildcard = none
        · exact ⟨.unmapped side, h, hcapture, hexact, hwild⟩
        · exact ⟨.mapped side, h, hcapture, .inr hwild⟩
      · exact ⟨.mapped side, h, hcapture, .inl hexact⟩

/-- A packet is of exactly one class. -/
theorem classOf_eq_iff {packet : Packet} {c : PacketClass} :
    classOf machine index direction packet = c ↔ c.Holds machine index direction packet := by
  refine ⟨fun h => ?_, classOf_of_holds⟩
  obtain ⟨c', hc'⟩ := exists_class machine index direction packet
  rw [← h, classOf_of_holds hc']
  exact hc'

/-- The event that a packet gives rise to. -/
def event? (packet : Packet) : Option Event :=
  (classOf machine index direction packet).eventKind?.map fun kind => ⟨kind, packet⟩

/-! ### One packet -/

section Step
variable (state : Attribution) (packet : Packet)

/-- What one packet does to the counters. -/
theorem step_cycle :
    (step machine index direction state packet).cycle = {
      state.cycle.observe packet.time with
      attributed := state.cycle.attributed +
        if (classOf machine index direction packet).isAttributed then 1 else 0
      undetermined := state.cycle.undetermined +
        if classOf machine index direction packet = .undetermined then 1 else 0
      unmappedRecv := state.cycle.unmappedRecv +
        if classOf machine index direction packet = .unmapped .received then 1 else 0
      unmappedSend := state.cycle.unmappedSend +
        if classOf machine index direction packet = .unmapped .sent then 1 else 0 } := by
  unfold step classOf
  rcases Verdict.of machine index direction packet with _ | _ | _ | (_ | _) | (_ | _) <;>
    simp [record, credit, note, CycleStats.observe, Verdict.class, PacketClass.isAttributed]

theorem step_attributed :
    (step machine index direction state packet).cycle.attributed =
      state.cycle.attributed +
        if (classOf machine index direction packet).isAttributed then 1 else 0 := by
  rw [step_cycle]

theorem step_undetermined :
    (step machine index direction state packet).cycle.undetermined =
      state.cycle.undetermined +
        if classOf machine index direction packet = .undetermined then 1 else 0 := by
  rw [step_cycle]

theorem step_unmappedRecv :
    (step machine index direction state packet).cycle.unmappedRecv =
      state.cycle.unmappedRecv +
        if classOf machine index direction packet = .unmapped .received then 1 else 0 := by
  rw [step_cycle]

theorem step_unmappedSend :
    (step machine index direction state packet).cycle.unmappedSend =
      state.cycle.unmappedSend +
        if classOf machine index direction packet = .unmapped .sent then 1 else 0 := by
  rw [step_cycle]

theorem step_total :
    (step machine index direction state packet).cycle.total = state.cycle.total := by
  rw [step_cycle]
  rfl

theorem step_events :
    (step machine index direction state packet).events =
      state.events ++ (event? machine index direction packet).toList := by
  unfold step event? classOf
  rcases Verdict.of machine index direction packet with _ | _ | _ | (_ | _) | (_ | _) <;>
    simp [record, credit, note, Verdict.class, PacketClass.eventKind?]

end Step

/-! ### A batch -/

section Batch
variable (packets : List Packet)

/-- A counter that one packet raises by one, if it is counted, rises by the number of
packets counted. -/
theorem run_counter {counter : CycleStats → UInt64} (counted : Packet → Bool)
    (hstep : ∀ state packet, counter (step machine index direction state packet).cycle =
      counter state.cycle + if counted packet then 1 else 0) (state : Attribution) :
    counter (run machine index direction state packets).cycle =
      counter state.cycle + .ofNat (packets.countP counted) := by
  induction packets generalizing state with
  | nil => exact (UInt64.add_zero _).symm
  | cons packet rest ih =>
    have hrun : run machine index direction state (packet :: rest) =
        run machine index direction (step machine index direction state packet) rest := rfl
    rw [hrun, ih, hstep, List.countP_cons]
    cases counted packet
    · simp
    · simp only [if_true, UInt64.ofNat_add, UInt64.add_assoc]
      rw [UInt64.add_comm 1]
      rfl

theorem run_total (state : Attribution) :
    (run machine index direction state packets).cycle.total = state.cycle.total := by
  induction packets generalizing state with
  | nil => rfl
  | cons packet rest ih => exact (ih _).trans (step_total machine index direction state packet)

theorem run_events (state : Attribution) :
    (run machine index direction state packets).events =
      state.events ++ packets.filterMap (event? machine index direction) := by
  induction packets generalizing state with
  | nil => exact (List.append_nil _).symm
  | cons packet rest ih =>
    refine (ih _).trans ?_
    rw [step_events, List.append_assoc]
    cases h : event? machine index direction packet <;> simp [h]

theorem events_ofPackets (cycle : CycleStats) :
    (ofPackets packets machine index direction cycle).events =
      packets.filterMap (event? machine index direction) :=
  (run_events machine index direction packets (start index cycle)).trans (List.nil_append _)

theorem toNat_counter {counter : UInt64} {count : Nat} (h : counter.toNat + count < 2 ^ 64) :
    (counter + .ofNat count).toNat = counter.toNat + count := by
  rw [UInt64.toNat_add, UInt64.toNat_ofNat', Nat.add_mod_mod, Nat.mod_eq_of_lt h]

/-- **Every packet is counted once.** It is of exactly one class, and by these classes
attribution accounts for every batch, whatever the counters are before. -/
theorem each_packet_counted_once (cycle : CycleStats) :
    (∀ packet c,
      classOf machine index direction packet = c ↔ c.Holds machine index direction packet) ∧
    Accounted (classOf machine index direction) packets cycle
      (ofPackets packets machine index direction cycle) := by
  have hattributed : (ofPackets packets machine index direction cycle).cycle.attributed =
      cycle.attributed + .ofNat
        (PacketClass.mappedSize (classOf machine index direction) packets +
          PacketClass.unmappedSize (classOf machine index direction) packets) := by
    rw [← PacketClass.countP_isAttributed]
    exact run_counter machine index direction packets _
      (step_attributed machine index direction) (start index cycle)
  have hundetermined : (ofPackets packets machine index direction cycle).cycle.undetermined =
      cycle.undetermined + .ofNat
        (PacketClass.size (classOf machine index direction) packets .undetermined) :=
    run_counter machine index direction packets (classOf machine index direction · = .undetermined)
      (by simpa using step_undetermined machine index direction) (start index cycle)
  refine ⟨fun packet c => classOf_eq_iff machine index direction, ?_⟩
  exact {
    undetermined := hundetermined
    unmappedRecv := run_counter machine index direction packets
      (classOf machine index direction · = .unmapped .received)
      (by simpa using step_unmappedRecv machine index direction) (start index cycle)
    unmappedSend := run_counter machine index direction packets
      (classOf machine index direction · = .unmapped .sent)
      (by simpa using step_unmappedSend machine index direction) (start index cycle)
    attributed := hattributed
    total := run_total machine index direction packets (start index cycle)
    parts := PacketClass.sizes_eq_length _ packets
    rises := by
      intro hroom hroom'
      have hparts := PacketClass.sizes_eq_length (classOf machine index direction) packets
      rw [hattributed, hundetermined, toNat_counter hroom, toNat_counter hroom']
      omega
    events := (run_events machine index direction packets (start index cycle)).trans
      (List.nil_append _) }

end Batch

end Classes

end Attribution

end Flowmeter
