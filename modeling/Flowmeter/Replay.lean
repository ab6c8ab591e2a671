import Flowmeter.Session

/-! Sessions replayed from a script.

A script says what happens around the main loop: events of the terminal, ticks of the
clock, changes of the monitor's world. An event and the tick right after it meet in one
iteration. A screen that cannot be drawn stops the program where it stands. -/
namespace Flowmeter

/-- A step of a script. -/
inductive ScriptStep
  | event (event : TerminalEvent)
  /-- A refresh becomes due. -/
  | tick
  /-- One dispatch of the capture backend. -/
  | dispatch (step : Dispatch)
  /-- Processes and sockets change. -/
  | source (source : Source)

/-- A session, the screens it has drawn and what it has noted. -/
structure Replay where
  session : Session
  size : ScreenSize
  /-- The screens drawn, oldest first, each different from the one before. -/
  screens : List (List String) := []
  notes : List Note := []
  /-- Why the program stopped while it drew, if so. -/
  stopped : Option Overflow := none

namespace Replay

/-- The time between two ticks, in nanoseconds. -/
def tickLength : Nat := 1000000000

/-- Whether the session goes on. -/
def goesOn (replay : Replay) : Bool :=
  replay.session.progress = .running && replay.stopped.isNone

/-- Draws the screen. -/
def draw (replay : Replay) : Replay :=
  match replay.session.display.screen replay.size with
  | .error overflow => { replay with stopped := some overflow }
  | .ok screen =>
    if replay.screens.getLast? == some screen then replay
    else { replay with screens := replay.screens ++ [screen] }

/-- What an iteration notes. -/
def iterationNotes (session : Session) (iteration : Iteration) : List Note :=
  match iteration.event with
  | .error _ => []
  | .ok event =>
    let toggled := match event with
      | some (.key press) =>
        if press.action? = some .togglePause then session.monitor.toggleNotes else []
      | _ => []
    let handled := session.handle event
    if session.closesHelp event then []
    else toggled ++ match handled.progress, iteration.due with
      | .running, some now => handled.monitor.refreshNotes now
      | _, _ => []

/-- One iteration of a session that goes on, with the drawing at its start. -/
def iterate (replay : Replay) (iteration : Iteration) : Replay :=
  let drawn := if replay.goesOn then replay.draw else replay
  if drawn.goesOn then
    { drawn with
      session := drawn.session.iterate iteration
      notes := drawn.notes ++ iterationNotes drawn.session iteration }
  else drawn

/-- The iteration of a refresh at the next tick. -/
def due (replay : Replay) : Option Nat := some (replay.session.monitor.lastRefresh + tickLength)

/-- A change of the monitor, if the session goes on. -/
def change (replay : Replay) (change : Monitor → Monitor) : Replay :=
  if replay.goesOn then
    { replay with session := { replay.session with monitor := change replay.session.monitor } }
  else replay

/-- Carries a script out. -/
def run (replay : Replay) : List ScriptStep → Replay
  | [] => if replay.goesOn then replay.draw else replay
  | .event event :: .tick :: rest =>
    let waiting := replay.session.closesHelp (some event)
    let after := replay.iterate { event := .ok (some event), due := replay.due }
    (if waiting then after.iterate { due := replay.due } else after).run rest
  | .event event :: rest => (replay.iterate { event := .ok (some event) }).run rest
  | .tick :: rest => (replay.iterate { due := replay.due }).run rest
  | .dispatch step :: rest => (replay.change (·.dispatch step)).run rest
  | .source source :: rest => (replay.change fun monitor => { monitor with source }).run rest

end Replay

end Flowmeter
