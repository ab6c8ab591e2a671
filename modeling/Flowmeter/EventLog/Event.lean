import Flowmeter.Address.Written
import Flowmeter.Packet.Basic

/-! Packets that could not be attributed to a process. -/
namespace Flowmeter

/-- What an address is called. -/
abbrev Names := Address → String

/-- Calls every address by its written form. -/
def Names.numeric : Names := Address.text

/-- Why a packet could not be attributed to a process. -/
inductive EventKind
  /-- No or both ends are local. -/
  | undetermined
  /-- Received by a local endpoint that no process holds. -/
  | unmappedRecv
  /-- Sent from a local endpoint that no process holds. -/
  | unmappedSend
  deriving DecidableEq, Repr

def EventKind.tag : EventKind → String
  | undetermined => "UNDET  "
  | unmappedRecv => "UNMAP_R"
  | unmappedSend => "UNMAP_S"

/-- A packet worth logging. -/
structure Event where
  kind : EventKind
  packet : Packet
  deriving DecidableEq

/-- The flow of an event: its kind, and the addresses and ports of both ends. -/
def Event.describe (event : Event) (names : Names) : String :=
  event.kind.tag ++ ":" ++ names event.packet.src ++ ":" ++
    toString event.packet.srcPort.toNat ++ " --> " ++ names event.packet.dst ++ ":" ++
    toString event.packet.dstPort.toNat

end Flowmeter
