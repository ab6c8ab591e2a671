import Flowmeter.Traffic.Direction
import Flowmeter.Traffic.Host

/-! What is shown of a cycle: processes and their hosts, ordered by traffic. -/
namespace Flowmeter

/-- Which processes and hosts are shown, and in which order. -/
structure ViewOptions where
  order : SortOrder := .descending
  /-- Hides processes without traffic. -/
  hideIdle : Bool := false
  /-- The largest number of hosts shown for a process; 0 for all. -/
  hostLimit : UInt64 := 0
  deriving DecidableEq, Repr

/-- A process with the hosts that are shown of it. -/
structure ProcessView where
  process : ProcessTraffic
  hosts : List (Address × HostTraffic)
  /-- How many hosts the limit leaves out. -/
  hidden : Nat

namespace ViewOptions

/-- Values in the order of their traffic; those of equal traffic keep their order. -/
def sorted {α : Type} (options : ViewOptions) (traffic : α → UInt64) (values : List α) : List α :=
  values.mergeSort fun a b => options.order.compare (traffic a) (traffic b) ≠ .gt

/-- What is shown of a process. -/
def view (options : ViewOptions) (process : ProcessTraffic) : ProcessView :=
  let hosts := options.sorted (fun host => host.2.total) process.hosts.entries
  let limit := options.hostLimit.toNat
  let shown := if limit = 0 then hosts else hosts.take limit
  { process, hosts := shown, hidden := hosts.length - shown.length }

/-- What is shown of a cycle. -/
def views (options : ViewOptions) (processes : List ProcessTraffic) : List ProcessView :=
  let kept := processes.filter fun process => !options.hideIdle || 0 < process.total
  options.sorted (fun view => view.process.total) (kept.map options.view)

end ViewOptions

end Flowmeter
