import Flowmeter.Address.Basic

/-! Packets: what the program knows of one captured frame. -/
namespace Flowmeter

/-- Transport protocol of a packet or socket. -/
inductive Protocol
  | tcp
  | udp
  deriving DecidableEq, Repr

namespace Protocol

def name : Protocol → String
  | tcp => "tcp"
  | udp => "udp"

instance : Ranked Protocol where
  rank
    | tcp => 0
    | udp => 1
  rank_injective a b h := by cases a <;> cases b <;> first | rfl | simp at h

end Protocol

/-- One observed frame of a transport protocol. -/
structure Packet where
  src : Address
  dst : Address
  srcPort : UInt16
  dstPort : UInt16
  /-- Length of the frame on the wire, not of its captured part. -/
  len : UInt32
  protocol : Protocol
  /-- Capture time in seconds since the epoch. -/
  time : Float
  deriving DecidableEq

end Flowmeter
