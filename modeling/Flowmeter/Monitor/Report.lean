import Flowmeter.Capture.Error
import Flowmeter.Inventory.Error
import Flowmeter.Traffic.Cycle
import Flowmeter.Traffic.Host
import Flowmeter.Traffic.Rate

/-! What a refresh tells. -/
namespace Flowmeter

/-- The outcome of a refresh cycle. -/
structure CycleReport where
  /-- The traffic of each owner, the kernel first. -/
  processes : List ProcessTraffic
  cycle : CycleStats
  /-- The time since the refresh before. -/
  elapsed : Elapsed
  /-- Whether packets were dropped instead of attributed. -/
  paused : Bool

/-- Why a refresh failed. -/
inductive MonitorError
  /-- The capture thread has ended badly. -/
  | captureFailed (failure : CaptureFailure)
  /-- The capture thread has ended, and how is already known. -/
  | captureStopped
  | inventory (error : InventoryError)
  deriving DecidableEq, Repr

def MonitorError.message : MonitorError → String
  | captureFailed failure => "Packet capture stopped: " ++ failure.message
  | captureStopped => "Packet capture stopped"
  | inventory error => "Failed to build process inventory: " ++ error.message

end Flowmeter
