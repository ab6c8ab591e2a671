import Flowmeter.Address.Local
import Flowmeter.EventLog.Event
import Flowmeter.Inventory.EndpointIndex
import Flowmeter.Traffic.Cycle
import Flowmeter.Traffic.Direction
import Flowmeter.Traffic.Host

/-! Attribution of packets to processes.

A packet belongs to the process that owns its local end. `Verdict.of` says what is
to be done with a packet, `Attribution.record` does it, and `Attribution.ofPackets`
does so for a batch, in order. -/
namespace Flowmeter

/-- What is to be done with a packet. -/
inductive Verdict
  /-- It goes from an address to itself and never leaves the machine. -/
  | self
  /-- No or both ends are local. -/
  | undetermined
  /-- Its direction is not captured. -/
  | masked
  /-- It counts as received by the owner of its receiving end, if there is one. -/
  | received (owner : Option Nat)
  /-- It counts as sent by the owner of its sending end, if there is one. -/
  | sent (owner : Option Nat)
  deriving DecidableEq, Repr

/-- What is to be done with a packet, given the machine's addresses, the owners of
endpoints and the direction that is captured. -/
def Verdict.of (machine : LocalAddresses) (index : EndpointIndex) (direction : Direction)
    (packet : Packet) : Verdict :=
  if packet.src = packet.dst then self
  else match machine.contains packet.src, machine.contains packet.dst with
    | false, true =>
      if direction.capturesRecv
      then received (index.owner? ⟨packet.dst, packet.dstPort, packet.protocol⟩)
      else masked
    | true, false =>
      if direction.capturesSend
      then sent (index.owner? ⟨packet.src, packet.srcPort, packet.protocol⟩)
      else masked
    | _, _ => undetermined

/-- The traffic by slot, the counters and the events so far. -/
structure Attribution where
  processes : List ProcessTraffic
  cycle : CycleStats
  events : List Event := []

namespace Attribution

/-- No traffic for any owner. -/
def start (index : EndpointIndex) (cycle : CycleStats) : Attribution where
  processes := index.owners.map fun owner => { pid := owner.1, command := owner.2 }
  cycle

/-- Counts a packet for a slot, as `add` does for one owner. -/
def credit (state : Attribution) (slot : Nat)
    (add : ProcessTraffic → Packet → ProcessTraffic) (packet : Packet) : Attribution :=
  { state with
    processes := state.processes.modify slot (add · packet)
    cycle := { state.cycle with attributed := state.cycle.attributed + 1 } }

/-- Adds an event. -/
def note (state : Attribution) (kind : EventKind) (packet : Packet) : Attribution :=
  { state with events := state.events ++ [⟨kind, packet⟩] }

/-- Does with a packet what its verdict says. -/
def record (state : Attribution) (packet : Packet) (verdict : Verdict) : Attribution :=
  let state := { state with cycle := state.cycle.observe packet.time }
  match verdict with
  | .self | .masked => state
  | .undetermined =>
    let cycle := { state.cycle with undetermined := state.cycle.undetermined + 1 }
    { state with cycle }.note .undetermined packet
  | .received (some slot) => state.credit slot .addReceived packet
  | .received none =>
    let cycle := { state.cycle with unmappedRecv := state.cycle.unmappedRecv + 1 }
    ({ state with cycle }.note .unmappedRecv packet).credit EndpointIndex.kernelSlot
      .addReceived packet
  | .sent (some slot) => state.credit slot .addSent packet
  | .sent none =>
    let cycle := { state.cycle with unmappedSend := state.cycle.unmappedSend + 1 }
    ({ state with cycle }.note .unmappedSend packet).credit EndpointIndex.kernelSlot
      .addSent packet

/-- Attributes a batch of packets in order. The traffic has an entry for every owner, idle
ones included. -/
def ofPackets (packets : List Packet) (machine : LocalAddresses) (index : EndpointIndex)
    (direction : Direction) (cycle : CycleStats) : Attribution :=
  packets.foldl
    (fun state packet => state.record packet (Verdict.of machine index direction packet))
    (start index cycle)

end Attribution

end Flowmeter
