import Flowmeter.EventLog.Event
import Flowmeter.Monitor.Report
import Flowmeter.Settings.Basic

/-! What the screen shows, apart from its size. -/
namespace Flowmeter

/-- What the screen shows. -/
structure Display where
  /-- The last report of a cycle that was attributed. -/
  report : Option CycleReport := none
  paused : Bool := false
  helpShown : Bool := false
  status : String := "Waiting for the first refresh..."
  options : ViewOptions := {}
  /-- Shows the shares of TCP and UDP of each host. -/
  showSplit : Bool := false
  names : Names := .numeric

namespace Display

/-- What is shown before the first refresh. -/
def start (settings : Settings) (names : Names) : Display where
  options := settings.viewOptions
  showSplit := settings.showSplit
  names

/-- Shows a report. That of a paused cycle leaves the traffic on screen as it is. -/
def update (display : Display) (report : CycleReport) : Display :=
  if report.paused then { display with paused := true }
  else
    { display with
      paused := false
      status := toString (report.processes.length - 1) ++ " process(es) with open sockets"
      report := some report }

/-- What is shown of the report. -/
def views (display : Display) (report : CycleReport) : List ProcessView :=
  display.options.views report.processes

end Display

end Flowmeter
