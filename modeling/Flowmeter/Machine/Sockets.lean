import Flowmeter.Attribution
import Flowmeter.Packet.Batch

/-! A machine on which one process has bound sockets.

Its kernel lists the sockets in the socket tables, the last one bound first, and says of
the process that it holds them. -/
namespace Flowmeter.Machine

/-- Addresses to which sockets of one port are bound. -/
structure SocketGroup where
  protocol : Protocol
  port : UInt16
  addresses : List Address
  deriving DecidableEq, Repr

/-- The process that has bound the sockets. -/
def ownPid : Int := 1000

/-- The ends of all sockets, in the order in which they were bound. -/
def endpoints (groups : List SocketGroup) : List Endpoint :=
  groups.flatMap fun group => group.addresses.map fun address =>
    ⟨address, group.port, group.protocol⟩

/-- The rows of all sockets with the tables they stand in. A socket that waits for packets is
connected to nobody; its inode is its number from 1 on. -/
def rows (groups : List SocketGroup) : List (SocketTable × SocketRow) :=
  (endpoints groups).mapIdx fun number endpoint =>
    (.ofProtocol endpoint.protocol endpoint.address.family,
      { localAddress := endpoint.address
        localPort := endpoint.port
        remoteAddress := .wildcard endpoint.address.family
        remotePort := 0
        inode := UInt64.ofNat (number + 1) })

/-- The text of a table. -/
def tableText (groups : List SocketGroup) (table : SocketTable) : String :=
  let own := (rows groups).filterMap fun row => if row.1 = table then some row.2 else none
  String.join ((SocketRow.heading :: own.reverse.mapIdx SocketRow.kernelLine).map (· ++ "\n"))

/-- What the kernel says of the tables and of the process. -/
def snapshot (groups : List SocketGroup) : Snapshot where
  tables := SocketTable.all.map fun table => (table, tableText groups table)
  processes := [{
    pid := ownPid
    inodes := some ((rows groups).map fun row => row.2.inode)
    command := some "./self" }]

/-- A packet from elsewhere to an address and port. -/
def probe (protocol : Protocol) (address : Address) (port : UInt16) : Packet where
  src := .v4 #v[192, 0, 2, 1]
  dst := address
  srcPort := 9
  dstPort := port
  len := 100
  protocol
  time := 0

/-- The pid of the owner that received traffic, if there is one. -/
def receiver? (attribution : Attribution) : Option Int :=
  (attribution.processes.find? fun process => process.recv != 0).map (·.pid)

/-- Whom a probe of a group's port is attributed to. -/
def owner? (inventory : Inventory) (machine : LocalAddresses) (group : SocketGroup)
    (address : Address) : Option Int :=
  receiver? (.ofPackets [probe group.protocol address group.port] machine
    inventory.endpointIndex .both {})

/-- The endpoints of a group that the process has in an inventory. -/
def known (inventory : Inventory) (group : SocketGroup) : List Endpoint :=
  ((inventory.processes.filter (·.pid == ownPid)).flatMap (·.endpoints)).filter fun endpoint =>
    endpoint.port == group.port && endpoint.protocol == group.protocol

end Flowmeter.Machine
