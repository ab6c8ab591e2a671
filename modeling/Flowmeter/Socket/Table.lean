import Flowmeter.Inventory.Error
import Flowmeter.Packet.Basic

/-! Where processes and sockets are read from.

The kernel keeps one socket table per transport protocol and address family. A
`Source` answers the questions an inventory asks: the text of a table, the
processes there are, and for each the sockets it holds and its command line. -/
namespace Flowmeter

/-- A socket table of the kernel. -/
inductive SocketTable
  | tcp
  | udp
  | tcp6
  | udp6
  deriving DecidableEq, Repr

namespace SocketTable

/-- The tables in the order they are scanned. -/
def all : List SocketTable := [tcp, udp, tcp6, udp6]

def protocol : SocketTable → Protocol
  | tcp | tcp6 => .tcp
  | udp | udp6 => .udp

/-- The transport protocol and address family of a table's sockets. -/
def ofProtocol : Protocol → Family → SocketTable
  | .tcp, .v4 => tcp
  | .udp, .v4 => udp
  | .tcp, .v6 => tcp6
  | .udp, .v6 => udp6

def path : SocketTable → String
  | tcp => "/proc/net/tcp"
  | udp => "/proc/net/udp"
  | tcp6 => "/proc/net/tcp6"
  | udp6 => "/proc/net/udp6"

/-- What notes call the table. -/
def name : SocketTable → String
  | tcp => "Tcp"
  | udp => "Udp"
  | tcp6 => "Tcp6"
  | udp6 => "Udp6"

end SocketTable

/-- Answers about processes and sockets. -/
structure Source where
  /-- The text of a table; none if it cannot be read. -/
  table : SocketTable → Option String
  /-- All process ids, in any order. -/
  pids : Except InventoryError (List Int)
  /-- The inodes of the sockets a process holds; none if they cannot be read. -/
  inodes : Int → Option (List UInt64)
  /-- The command line of a process; none if it cannot be read. -/
  command : Int → Option String

/-- A described process. -/
structure DescribedProcess where
  pid : Int
  inodes : Option (List UInt64)
  command : Option String
  deriving DecidableEq, Repr

/-- A fixed description of tables and processes. -/
structure Snapshot where
  tables : List (SocketTable × String) := []
  processes : List DescribedProcess := []
  pidsError : Option String := none

/-- The source that answers from a description. The first process with a pid counts. -/
def Snapshot.source (snapshot : Snapshot) : Source where
  table table := snapshot.tables.lookup table
  pids := match snapshot.pidsError with
    | some reason => .error (.processTable reason)
    | none => .ok (snapshot.processes.map (·.pid))
  inodes pid := snapshot.processes.find? (·.pid == pid) >>= (·.inodes)
  command pid := snapshot.processes.find? (·.pid == pid) >>= (·.command)

end Flowmeter
