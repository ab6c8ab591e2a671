import Flowmeter.Diagnostics
import Flowmeter.OrderedMap
import Flowmeter.Socket.Endpoint
import Flowmeter.Socket.Row
import Flowmeter.Socket.Table

/-! The inventory of processes and the local endpoints they hold.

Socket tables say which endpoint an inode is bound to, processes say which inodes
they hold. Within a table only the first row of each local port counts; of several
rows with one inode the last one does. An inventory has the processes that hold
at least one known endpoint, in pid order. -/
namespace Flowmeter

/-- The rows of a table that count, as endpoints by inode; an unreadable table has none. -/
def Source.bindings (source : Source) (table : SocketTable) :
    Except InventoryError (List (UInt64 × Endpoint)) :=
  match source.table table with
  | none => .ok []
  | some text => do
    let rows ← SocketRow.readAll text
    return (SocketRow.firstPerPort [] rows).map fun row =>
      (row.inode, ⟨row.localAddress, row.localPort, table.protocol⟩)

/-- The endpoint of each inode in the socket tables. -/
def Source.endpoints (source : Source) : Except InventoryError (OrderedMap UInt64 Endpoint) := do
  let bindings ← SocketTable.all.mapM source.bindings
  return OrderedMap.ofList bindings.flatten

/-- A process and the endpoints it holds. -/
structure SocketHolder where
  pid : Int
  command : String
  endpoints : List Endpoint
  deriving DecidableEq, Repr

namespace SocketHolder

/-- The process that packets without a process are counted for. -/
def kernel : SocketHolder := ⟨-1, "(kernel)", []⟩

/-- Whether two descriptions are of the same process: the pid alone decides. -/
def same (a b : SocketHolder) : Bool := a.pid == b.pid

/-- How two processes compare: by pid. -/
def order (a b : SocketHolder) : Ordering := compare a.pid b.pid

/-- The processes in ascending order; equal ones keep their order. -/
def sorted (processes : List SocketHolder) : List SocketHolder :=
  processes.mergeSort fun a b => a.pid ≤ b.pid

/-- The processes in ascending order, of equal ones the first. -/
def distinct (processes : List SocketHolder) : List SocketHolder :=
  (sorted processes).eraseRepsBy same

/-- A command line as it is shown: a space for each zero octet, no blanks at the end. -/
def shownCommand (raw : String) : String :=
  String.ofList (Text.trimEnd (raw.toList.map fun c => if c = '\x00' then ' ' else c))

/-- What is shown for an unreadable command line. -/
def noCommand : String := "(no cmd line)"

end SocketHolder

/-- Processes with at least one known endpoint, in pid order. -/
structure Inventory where
  processes : List SocketHolder := []
  deriving DecidableEq, Repr

namespace Inventory

/-- The pids in ascending order, each once. -/
def distinctPids (pids : List Int) : List Int := (pids.mergeSort fun a b => a ≤ b).eraseReps

/-- The process with a pid; none if its inodes cannot be read or none of them is known. -/
def process? (source : Source) (known : OrderedMap UInt64 Endpoint) (pid : Int) :
    Option SocketHolder := do
  let inodes ← source.inodes pid
  let endpoints := inodes.filterMap known.find?
  if endpoints.isEmpty then none
  else some {
    pid
    command := ((source.command pid).map SocketHolder.shownCommand).getD SocketHolder.noCommand
    endpoints := Ranked.sorted endpoints }

def build (source : Source) : Except InventoryError Inventory := do
  let known ← source.endpoints
  let pids ← source.pids
  return ⟨(distinctPids pids).filterMap (process? source known)⟩

/-- Whether two inventories have the same processes. -/
def same (a b : Inventory) : Bool :=
  a.processes.map (·.pid) == b.processes.map (·.pid)

/-! ### Notes -/

/-- What is noted of the tables, in scan order, up to a malformed one. -/
def tableNotes (source : Source) : List SocketTable → List Note
  | [] => []
  | table :: rest =>
    match source.table table, source.bindings table with
    | none, _ => ⟨.debug, "Skipping " ++ table.name ++ " socket table: no table"⟩ ::
        tableNotes source rest
    | some _, .ok _ => tableNotes source rest
    | some _, .error _ => []

/-- What the building of an inventory notes. -/
def buildNotes (source : Source) : List Note :=
  tableNotes source SocketTable.all ++
    match build source, source.endpoints with
    | .ok inventory, .ok known =>
      [⟨.debug, "Inventory: " ++ toString inventory.processes.length ++ " processes, " ++
        toString known.size ++ " socket endpoints"⟩]
    | _, _ => []

end Inventory

end Flowmeter
