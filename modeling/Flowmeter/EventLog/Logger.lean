import Flowmeter.Diagnostics
import Flowmeter.EventLog.Writer
import Flowmeter.Files.Tree
import Flowmeter.Text.Quoted

/-! The background log.

A thread of its own takes the queued events from time to time and appends a line for
each to a file. Before it takes them it reads the stop flag, and it leaves after a
round that saw the flag set; so whatever was queued before the flag was set is taken.
`Logger.step` is one step of the thread or of those that use it. -/
namespace Flowmeter

/-- The line that a log starts with each time it is opened. -/
def openingLine : String := "Log opened/appended"

/-- Where the thread is in its round. -/
inductive LoggerPhase
  /-- About to read the stop flag. -/
  | idle
  /-- About to take the events; it has read whether it is to stop. -/
  | taking (stopping : Bool)
  /-- About to leave, or to begin the next round. -/
  | leaving (stopping : Bool)
  /-- Gone. -/
  | left
  deriving DecidableEq, Repr

/-- A log, its queue and its thread. -/
structure Logger where
  queue : Handoff LogEntry := {}
  stopFlag : Bool := false
  phase : LoggerPhase := .idle
  /-- The lines written since the log was opened. -/
  lines : List String := [openingLine]
  /-- Whether a write has failed. -/
  failed : Bool := false

/-- A step of the thread or of those that use it. -/
inductive LoggerStep
  | push (entry : LogEntry)
  /-- Sets the stop flag. -/
  | stop
  /-- The thread reads the stop flag. -/
  | check
  /-- The thread takes the events and writes their lines. With a limit only so many of them
  are written, and the write fails. -/
  | write (names : Names) (limit : Option Nat)
  /-- The thread leaves if it is to stop. -/
  | leave

namespace Logger

/-- The lines of a batch that are written. -/
def writtenOf (names : Names) (limit : Option Nat) (entries : List LogEntry) : List String :=
  (entries.take (limit.getD entries.length)).map (·.line names)

/-- One step; what the thread cannot do now changes nothing. -/
def step (logger : Logger) : LoggerStep → Logger
  | .push entry => { logger with queue := logger.queue.push entry }
  | .stop => { logger with stopFlag := true }
  | .check =>
    if logger.phase = .idle then { logger with phase := .taking logger.stopFlag } else logger
  | .write names limit =>
    match logger.phase with
    | .taking stopping =>
      let (entries, queue) := logger.queue.drain
      { logger with
        queue
        phase := .leaving stopping
        lines := logger.lines ++ writtenOf names limit entries
        failed := logger.failed || (limit.isSome && !entries.isEmpty) }
    | _ => logger
  | .leave =>
    match logger.phase with
    | .leaving stopping => { logger with phase := if stopping then .left else .idle }
    | _ => logger

/-- The steps one after the other. -/
def run (logger : Logger) (steps : List LoggerStep) : Logger := steps.foldl step logger

/-- One round of the thread. -/
def round (names : Names) (limit : Option Nat) : List LoggerStep :=
  [.check, .write names limit, .leave]

/-- A log that is opened, given entries, and stopped; each write is cut after `limit`
lines. -/
def session (names : Names) (limit : Option Nat) (entries : List LogEntry) : Logger :=
  run {} (entries.map .push ++ [.stop] ++ round names limit)

/-- What the file gains. -/
def text (logger : Logger) : String := String.join (logger.lines.map (· ++ "\n"))

/-- What the thread notes of the first failed write. -/
def failureNotes (logger : Logger) (fault : WriteFault) : List Note :=
  if logger.failed then [⟨.warn, "Async log write failed: " ++ fault.message⟩] else []

/-- What the opening of a log notes. -/
def openNotes (path : String) : List Note :=
  [⟨.info, "Logging unattributed packets to " ++ Text.quoted path⟩]

/-- What is said when a log cannot be opened. -/
def openMessage (path : String) : String :=
  "Can't open file " ++ Text.quoted path ++ " to write async log"

/-- Logs on one file, opened, given entries and stopped one after the other: the files
afterwards, or why the log cannot be opened. -/
def record (names : Names) (path : String) (files : FileTree) (logs : List (List LogEntry)) :
    Except FileFault FileTree :=
  logs.foldlM (fun files entries =>
    files.append path (session names none entries).text.toUTF8.toList) files

end Logger

end Flowmeter
