import Flowmeter.EventLog.Event
import Flowmeter.EventLog.Stamp
import Flowmeter.Handoff

/-! Writing events to a log.

Each event becomes a line: its stamp and its description. Writing empties the queue
of events first, so events that cannot be written are lost, not written later. -/
namespace Flowmeter

/-- An event and when it happened. -/
structure LogEntry where
  event : Event
  instant : Instant
  deriving DecidableEq

/-- The line of an entry, without its end. -/
def LogEntry.line (entry : LogEntry) (names : Names) : String :=
  entry.instant.stamp ++ " " ++ entry.event.describe names

/-- What can go wrong when a log is written. -/
inductive WriteFault
  | full
  | flush
  | brokenPipe
  deriving DecidableEq, Repr

def WriteFault.message : WriteFault → String
  | full => "disk full"
  | flush => "flush failed"
  | brokenPipe => "Broken pipe (os error 32)"

/-- Something that takes bytes. -/
structure Medium where
  /-- How many bytes it takes; none for no limit. -/
  room : Option Nat := none
  /-- Whether it fails to flush what it took. -/
  failsFlush : Bool := false

/-- The bytes of lines, each with its end. -/
def lineBytes (lines : List String) : List UInt8 :=
  lines.flatMap fun line => line.toUTF8.toList ++ [10]

/-- Writes lines as far as they fit and flushes them: the bytes that were taken, and what
went wrong. -/
def Medium.writeLines (medium : Medium) (lines : List String) : List UInt8 × Option WriteFault :=
  let bytes := lineBytes lines
  let room := medium.room.getD bytes.length
  if room < bytes.length then (bytes.take room, some .full)
  else (bytes, if medium.failsFlush then some .flush else none)

/-- Takes all queued entries and writes them: the bytes that were taken, what went wrong, and
the queue afterwards. Without entries the medium is left alone. -/
def writePending (medium : Medium) (names : Names) (queue : Handoff LogEntry) :
    List UInt8 × Option WriteFault × Handoff LogEntry :=
  let (entries, queue) := queue.drain
  if entries.isEmpty then ([], none, queue)
  else
    let (bytes, fault) := medium.writeLines (entries.map (·.line names))
    (bytes, fault, queue)

end Flowmeter
