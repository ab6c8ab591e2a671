import Flowmeter.Packet.Basic

/-! Decoding of captured frames.

A frame starts with the sixteen octets of a cooked link header, the last two of
which tell the network protocol. Its packet is read from fixed offsets of the
network header and, behind it, of the transport header. Only lengths and the
fields that are read matter: a frame decodes if the fixed parts of the headers
it announces are there. -/
namespace Flowmeter

/-- A captured frame: the octets kept of it, its length on the wire, its time. -/
structure Frame where
  data : List UInt8
  wireLength : UInt32
  time : Float
  deriving DecidableEq

namespace Frame

/-- Length of the link header. -/
def linkLength : Nat := 16

/-- Length of the network header of the newer family. -/
def header6Length : Nat := 40

/-- Octets `start` up to `start + length`, if they are all there. -/
def slice? (data : List UInt8) (start length : Nat) : Option (List UInt8) :=
  if start + length ≤ data.length then some ((data.drop start).take length) else none

/-- The 16 bit number at `start`, most significant octet first. -/
def word? (data : List UInt8) (start : Nat) : Option UInt16 := do
  let octets ← slice? data start 2
  return UInt16.ofNat (octetNumber octets)

/-- The transport protocol of a protocol number. -/
def protocol? : UInt8 → Option Protocol
  | 6 => some .tcp
  | 17 => some .udp
  | _ => none

/-- Length of the fixed part of a transport header. -/
def transportLength : Protocol → Nat
  | .tcp => 20
  | .udp => 8

/-- What the network header says: the addresses, the transport protocol and where its
header starts. -/
structure Route where
  src : Address
  dst : Address
  protocol : Protocol
  transport : Nat
  deriving DecidableEq

/-- The route of a network header of the older family. Its length is the low half of its
first octet, in units of four octets, and at least twenty octets. -/
def route4? (data : List UInt8) : Option Route := do
  let header ← slice? data linkLength 20
  let length := 4 * ((header.headD 0).toNat % 16)
  if length < 20 then none else
  let protocol ← protocol? (header.getD 9 0)
  let src ← Address.ofOctets? ((header.drop 12).take 4)
  let dst ← Address.ofOctets? ((header.drop 16).take 4)
  return ⟨src, dst, protocol, linkLength + length⟩

/-- The route of a network header of the newer family. -/
def route6? (data : List UInt8) : Option Route := do
  let header ← slice? data linkLength header6Length
  let protocol ← protocol? (header.getD 6 0)
  let src ← Address.ofOctets? ((header.drop 8).take 16)
  let dst ← Address.ofOctets? ((header.drop 24).take 16)
  return ⟨src, dst, protocol, linkLength + header6Length⟩

/-- The route of a frame of either family. -/
def route? (data : List UInt8) : Option Route := do
  match ← word? data 14 with
  | 0x0800 => route4? data
  | 0x86DD => route6? data
  | _ => none

/-- The packet of a frame; none if it carries no TCP or UDP, or too little of it was kept. -/
def packet? (frame : Frame) : Option Packet := do
  let route ← route? frame.data
  let header ← slice? frame.data route.transport (transportLength route.protocol)
  let srcPort ← word? header 0
  let dstPort ← word? header 2
  return {
    src := route.src
    dst := route.dst
    srcPort
    dstPort
    len := frame.wireLength
    protocol := route.protocol
    time := frame.time }

end Frame

end Flowmeter
