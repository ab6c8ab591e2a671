import Flowmeter.Keys
import Flowmeter.Monitor.Basic
import Flowmeter.Screen.Page

/-! The main loop.

One iteration draws the screen, waits a moment for a terminal event and refreshes if a
refresh is due. A key that arrives while help is shown closes it and ends the iteration,
so a refresh that is due waits for the next one. -/
namespace Flowmeter

/-- What the terminal reports. -/
inductive TerminalEvent
  | key (press : KeyPress)
  /-- Anything but a key. -/
  | other
  deriving DecidableEq, Repr

/-- What an iteration meets. -/
structure Iteration where
  /-- Why the screen cannot be drawn, if so. -/
  drawFault : Option String := none
  /-- The event that arrives, if any, or why none can be read. -/
  event : Except String (Option TerminalEvent) := .ok none
  /-- The time if a refresh is due, in nanoseconds. -/
  due : Option Nat := none

/-- Why the loop failed. -/
inductive SessionError
  | draw (fault : String)
  | readEvent (fault : String)
  | refresh (error : MonitorError)
  deriving DecidableEq, Repr

/-- How the loop goes on. -/
inductive Progress
  | running
  | quit
  | failed (error : SessionError)
  deriving DecidableEq, Repr

/-- The display and the monitor behind it. -/
structure Session where
  display : Display
  monitor : Monitor
  progress : Progress := .running

namespace Session

/-- Does what a key asks for. -/
def act (session : Session) : KeyAction → Session
  | .quit => { session with progress := .quit }
  | .togglePause =>
    let monitor := session.monitor.togglePause
    { session with monitor, display := { session.display with paused := monitor.paused } }
  | .showHelp => { session with display := { session.display with helpShown := true } }

/-- Whether an event only closes help. -/
def closesHelp (session : Session) : Option TerminalEvent → Bool
  | some (.key _) => session.display.helpShown
  | _ => false

/-- Takes an event that closes no help. -/
def handle (session : Session) : Option TerminalEvent → Session
  | some (.key press) => (press.action?.map session.act).getD session
  | _ => session

/-- Refreshes, and shows what the refresh tells. -/
def refresh (session : Session) (now : Nat) : Session :=
  let refreshed := session.monitor.refresh now
  match refreshed.result with
  | .ok report =>
    { session with monitor := refreshed.monitor, display := session.display.update report }
  | .error error =>
    { session with monitor := refreshed.monitor, progress := .failed (.refresh error) }

/-- Refreshes if the loop goes on and a refresh is due. -/
def refreshIfDue (session : Session) (due : Option Nat) : Session :=
  match session.progress, due with
  | .running, some now => session.refresh now
  | _, _ => session

/-- One iteration. A loop that has ended stays as it is. -/
def iterate (session : Session) (iteration : Iteration) : Session :=
  match session.progress with
  | .running =>
    match iteration.drawFault, iteration.event with
    | some fault, _ => { session with progress := .failed (.draw fault) }
    | none, .error fault => { session with progress := .failed (.readEvent fault) }
    | none, .ok event =>
      if session.closesHelp event then
        { session with display := { session.display with helpShown := false } }
      else (session.handle event).refreshIfDue iteration.due
  | _ => session

/-- The iterations one after the other. -/
def run (session : Session) (iterations : List Iteration) : Session :=
  iterations.foldl iterate session

end Session

end Flowmeter
