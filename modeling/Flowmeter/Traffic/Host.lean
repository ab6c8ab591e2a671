import Flowmeter.OrderedMap
import Flowmeter.Packet.Basic

/-! Traffic by remote host and by process.

Byte counters wrap at 2⁶⁴, which the bytes of 2³² packets do not reach. Shares are worked out on
checked numbers, since a hundredfold gets there sooner: what has no room in 64 bits stops the
program. -/
namespace Flowmeter

/-- Why a number has no room in 64 bits. -/
inductive Overflow
  | add
  | multiply
  deriving DecidableEq, Repr

/-- What the program says as it stops. -/
def Overflow.message : Overflow → String
  | add => "attempt to add with overflow"
  | multiply => "attempt to multiply with overflow"

namespace Checked

/-- The sum, if it has room. -/
def add (a b : UInt64) : Except Overflow UInt64 :=
  if a.toNat + b.toNat < UInt64.size then .ok (a + b) else .error .add

/-- The product, if it has room. -/
def mul (a b : UInt64) : Except Overflow UInt64 :=
  if a.toNat * b.toNat < UInt64.size then .ok (a * b) else .error .multiply

end Checked

/-- Bytes exchanged with one remote host, by direction and by transport protocol. -/
structure HostTraffic where
  recv : UInt64 := 0
  sent : UInt64 := 0
  tcp : UInt64 := 0
  udp : UInt64 := 0
  deriving DecidableEq, Repr

namespace HostTraffic

def total (traffic : HostTraffic) : UInt64 := traffic.recv + traffic.sent

/-- Counts bytes for a transport protocol. -/
def addProtocol (traffic : HostTraffic) (protocol : Protocol) (bytes : UInt64) : HostTraffic :=
  match protocol with
  | .tcp => { traffic with tcp := traffic.tcp + bytes }
  | .udp => { traffic with udp := traffic.udp + bytes }

/-- Counts received bytes. -/
def addReceived (traffic : HostTraffic) (protocol : Protocol) (bytes : UInt64) : HostTraffic :=
  { traffic with recv := traffic.recv + bytes }.addProtocol protocol bytes

/-- Counts sent bytes. -/
def addSent (traffic : HostTraffic) (protocol : Protocol) (bytes : UInt64) : HostTraffic :=
  { traffic with sent := traffic.sent + bytes }.addProtocol protocol bytes

/-- The shares of TCP and UDP in percent, the second rounded down; none without traffic. -/
def split? (traffic : HostTraffic) : Except Overflow (Option (UInt8 × UInt8)) := do
  let total ← Checked.add traffic.tcp traffic.udp
  if total = 0 then return none
  else
    let hundredfold ← Checked.mul 100 traffic.udp
    let udp := (hundredfold / total).toUInt8
    return some (100 - udp, udp)

end HostTraffic

/-- Traffic of one process in one cycle. -/
structure ProcessTraffic where
  pid : Int
  command : String
  recv : UInt64 := 0
  sent : UInt64 := 0
  hosts : OrderedMap Address HostTraffic := .empty

namespace ProcessTraffic

def total (traffic : ProcessTraffic) : UInt64 := traffic.recv + traffic.sent

/-- Counts a packet as received from its sender. -/
def addReceived (traffic : ProcessTraffic) (packet : Packet) : ProcessTraffic :=
  { traffic with
    recv := traffic.recv + packet.len.toUInt64
    hosts := traffic.hosts.update packet.src fun host =>
      (host.getD {}).addReceived packet.protocol packet.len.toUInt64 }

/-- Counts a packet as sent to its receiver. -/
def addSent (traffic : ProcessTraffic) (packet : Packet) : ProcessTraffic :=
  { traffic with
    sent := traffic.sent + packet.len.toUInt64
    hosts := traffic.hosts.update packet.dst fun host =>
      (host.getD {}).addSent packet.protocol packet.len.toUInt64 }

end ProcessTraffic

end Flowmeter
