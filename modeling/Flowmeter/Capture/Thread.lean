import Flowmeter.Capture.Error
import Flowmeter.Diagnostics
import Flowmeter.Packet.Batch

/-! The capture thread.

The thread dispatches its backend until it is told to stop or the backend fails.
What a dispatch does is a `Dispatch`; `run` carries out a script of them. A
`CaptureThread` is the thread seen from outside: it runs, it has ended and its
result waits to be fetched, or it has been joined. A result is fetched once. -/
namespace Flowmeter

/-- What one dispatch of a backend does. -/
inductive Dispatch
  | frames (frames : List Frame)
  | fail (error : CaptureError)
  | panic
  /-- The stop flag is set while the backend waits for frames. -/
  | stop
  deriving DecidableEq

/-- How a capture thread ends. -/
abbrev Ending := Except CaptureFailure Unit

namespace Capture

/-- Dispatches until the stop flag is set or the backend fails. Without an ending the
script is used up and the loop goes on. -/
def run (stopped : Bool) (script : List Dispatch) (exchange : Exchange) :
    Exchange × Option Ending :=
  if stopped then (exchange, some (.ok ()))
  else match script with
    | [] => (exchange, none)
    | .frames frames :: rest => run false rest (exchange.publish (.ofFrames frames))
    | .fail error :: _ => (exchange, some (.error (.failed error)))
    | .panic :: _ => (exchange, some (.error .panicked))
    | .stop :: rest => run true rest exchange

/-- What the thread of the named backend notes when it ends. -/
def endNotes (backend : String) : Ending → List Note
  | .ok () => [⟨.debug, "Capture backend " ++ backend ++ " stopped"⟩]
  | .error (.failed error) => [⟨.error, "Capture thread failed: " ++ error.message⟩]
  | .error .panicked => []

end Capture

/-- A capture thread seen from outside. -/
inductive CaptureThread
  | running
  | ended (ending : Ending)
  | joined

namespace CaptureThread

def isRunning : CaptureThread → Bool
  | running => true
  | _ => false

/-- Whether the thread no longer runs. -/
def isFinished (thread : CaptureThread) : Bool := !thread.isRunning

/-- One dispatch, if the thread still runs. -/
def dispatch (thread : CaptureThread) (step : Dispatch) (exchange : Exchange) :
    CaptureThread × Exchange :=
  match thread with
  | running =>
    match Capture.run false [step] exchange with
    | (exchange, none) => (running, exchange)
    | (exchange, some ending) => (ended ending, exchange)
  | other => (other, exchange)

/-- Sets the stop flag, waits for the thread and fetches its result. -/
def stop : CaptureThread → CaptureThread × Ending
  | running => (joined, .ok ())
  | ended ending => (joined, ending)
  | joined => (joined, .ok ())

/-- What the thread of the named backend notes between two moments. -/
def notes (backend : String) : CaptureThread → CaptureThread → List Note
  | running, running => []
  | running, ended ending => Capture.endNotes backend ending
  | running, joined => Capture.endNotes backend (.ok ())
  | _, _ => []

end CaptureThread

end Flowmeter
