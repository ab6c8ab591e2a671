import Flowmeter.Attribution
import Flowmeter.Capture.Thread
import Flowmeter.Monitor.Report

/-! The monitor.

The monitor owns the capture thread and, on each refresh, attributes what was captured
since the refresh before. It collects packets by swapping its own buffer with the
queue's items, so the buffer is emptied before each swap. While it is paused it
collects packets and drops them. -/
namespace Flowmeter

/-- The capture thread, what it shares with the monitor, and what attribution needs. -/
structure Monitor where
  direction : Direction
  machine : LocalAddresses
  source : Source
  exchange : Exchange := {}
  thread : CaptureThread := .running
  /-- Packets collected last. -/
  buffer : List Packet := []
  /-- When the refresh before was, in nanoseconds. -/
  lastRefresh : Nat := 0
  paused : Bool := false

/-- What a refresh leads to. -/
structure Refresh where
  monitor : Monitor
  result : Except MonitorError CycleReport
  /-- Events for the log. -/
  events : List Event := []

namespace Monitor

/-- One dispatch of the capture backend. -/
def dispatch (monitor : Monitor) (step : Dispatch) : Monitor :=
  let (thread, exchange) := monitor.thread.dispatch step monitor.exchange
  { monitor with thread, exchange }

def togglePause (monitor : Monitor) : Monitor := { monitor with paused := !monitor.paused }

/-- Stops the capture thread. -/
def shutdown (monitor : Monitor) : Monitor × Ending :=
  let (thread, ending) := monitor.thread.stop
  ({ monitor with thread }, ending)

def clearBuffer (monitor : Monitor) : Monitor := { monitor with buffer := [] }

/-- Swaps the buffer with the queue's items. -/
def swapBuffer (monitor : Monitor) : Monitor :=
  let (buffer, packets) := monitor.exchange.packets.swap monitor.buffer
  { monitor with buffer, exchange := { monitor.exchange with packets } }

/-- Takes the count of frames. -/
def takeFrames (monitor : Monitor) : UInt64 × Monitor :=
  let (frames, counter) := monitor.exchange.counter.take
  (frames, { monitor with exchange := { monitor.exchange with counter } })

/-- Attributes the buffer's packets, or drops them while paused. -/
def conclude (monitor : Monitor) (frames : UInt64) (elapsed : Elapsed) : Refresh :=
  let cycle : CycleStats := { total := frames }
  if monitor.paused then
    { monitor := monitor.clearBuffer
      result := .ok { processes := [], cycle, elapsed, paused := true } }
  else
    match Inventory.build monitor.source with
    | .error error => { monitor, result := .error (.inventory error) }
    | .ok inventory =>
      let attribution := Attribution.ofPackets monitor.buffer monitor.machine
        inventory.endpointIndex monitor.direction cycle
      { monitor := monitor.clearBuffer
        result := .ok {
          processes := attribution.processes
          cycle := attribution.cycle
          elapsed
          paused := false }
        events := attribution.events }

/-- Why a refresh fails once the capture thread has ended so. -/
def endingError : Ending → MonitorError
  | .ok () => .captureStopped
  | .error failure => .captureFailed failure

/-- The first half of a refresh: what is queued is collected. -/
def collect (monitor : Monitor) (now : Nat) : Monitor :=
  { monitor with lastRefresh := now }.clearBuffer.swapBuffer

/-- The second half of a refresh: the count of frames is taken, and what is collected is dealt
with. -/
def settle (monitor : Monitor) (elapsed : Elapsed) : Refresh :=
  let (frames, monitor) := monitor.takeFrames
  monitor.conclude frames elapsed

/-- Attributes what was captured since the refresh before. First the packets are collected,
then the count of frames is taken; a batch that is published in between is counted now and
attributed next time. -/
def refresh (monitor : Monitor) (now : Nat) : Refresh :=
  if monitor.thread.isFinished then
    let (monitor, ending) := monitor.shutdown
    { monitor, result := .error (endingError ending) }
  else (monitor.collect now).settle (.between monitor.lastRefresh now)

/-! ### Notes -/

/-- What the start of a monitor notes. -/
def startNotes (monitor : Monitor) (backend source : String) : List Note :=
  [⟨.info, "Starting capture backend " ++ backend ++ " with " ++ toString monitor.machine.size ++
    " local address(es), process source " ++ source⟩]

/-- What `togglePause` notes. -/
def toggleNotes (monitor : Monitor) : List Note :=
  [⟨.debug, "Monitor " ++ if monitor.togglePause.paused then "paused" else "resumed"⟩]

/-- The note of an attributed cycle. -/
def cycleNote (cycle : CycleStats) (processes : Nat) : Note :=
  ⟨.debug, "Cycle: " ++ toString cycle.total.toNat ++ " frames, " ++
    toString cycle.attributed.toNat ++ " attributed, " ++ toString cycle.undetermined.toNat ++
    " undetermined, " ++ toString cycle.unmappedRecv.toNat ++ "/" ++
    toString cycle.unmappedSend.toNat ++ " unmapped recv/send, " ++ toString processes ++
    " processes"⟩

/-- What `refresh` notes. -/
def refreshNotes (monitor : Monitor) (now : Nat) : List Note :=
  if monitor.thread.isFinished then []
  else if monitor.paused then
    [⟨.debug, "Paused, discarding " ++ toString monitor.exchange.packets.items.length ++
      " packet(s)"⟩]
  else
    Inventory.buildNotes monitor.source ++
      match (monitor.refresh now).result with
      | .ok report => [cycleNote report.cycle (report.processes.length - 1)]
      | .error _ => []

end Monitor

end Flowmeter
