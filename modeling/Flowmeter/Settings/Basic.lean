import Flowmeter.Text.Raw
import Flowmeter.Traffic.Direction
import Flowmeter.View

/-! Settings of the program. -/
namespace Flowmeter

structure Settings where
  /-- Seconds between refreshes. -/
  refreshSecs : UInt64 := 3
  /-- Which traffic is attributed. -/
  capture : Direction := .both
  order : SortOrder := .descending
  /-- Hides processes without traffic. -/
  hideIdle : Bool := false
  /-- Shows the shares of TCP and UDP of each host. -/
  showSplit : Bool := false
  /-- Leaves addresses as numbers. -/
  numericNames : Bool := false
  /-- Where packets that could not be attributed are logged. -/
  logFile : Option Text.Raw := none
  /-- The largest number of hosts shown for a process; 0 for all. -/
  hostLimit : UInt64 := 0
  /-- The capture device; `any` stands for all. -/
  device : String := "any"
  deriving DecidableEq, Repr

namespace Settings

def minRefreshSecs : UInt64 := 1

def maxRefreshSecs : UInt64 := 60

/-- The settings with the time between refreshes brought into its range. -/
def clamp (settings : Settings) : Settings :=
  { settings with
    refreshSecs :=
      if settings.refreshSecs < minRefreshSecs then minRefreshSecs
      else if maxRefreshSecs < settings.refreshSecs then maxRefreshSecs
      else settings.refreshSecs }

/-- What of the settings concerns the view. -/
def viewOptions (settings : Settings) : ViewOptions where
  order := settings.order
  hideIdle := settings.hideIdle
  hostLimit := settings.hostLimit

end Settings

end Flowmeter
