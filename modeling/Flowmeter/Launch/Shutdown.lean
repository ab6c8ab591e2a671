import Flowmeter.Diagnostics

/-! Two things that run side by side: the program, and the wait for a signal to end it. -/
namespace Flowmeter

/-- How something that runs ends; none if it never does. -/
abbrev Run (ε : Type) := Option (Except ε Unit)

namespace Run

variable {ε : Type}

/-- The program runs until it ends or the wait for the signal does. -/
def untilShutdown (program shutdown : Run ε) : Run ε := program.or shutdown

/-- What the end of the wait notes. -/
def shutdownNotes (program shutdown : Run ε) : List Note :=
  if program.isNone && shutdown.isSome then [⟨.info, "Shutdown signal received"⟩] else []

end Run

end Flowmeter
