import Flowmeter.EventLog.Calendar
import Flowmeter.Text.Numeral

/-! Time stamps of log lines.

A stamp is the local date and time of an instant, down to the millisecond:
`2024-06-10 06:13:20.123`. What is left of a millisecond is dropped. A leap second counts
as a longer second of the clock; its later part is stamped with one second more. -/
namespace Flowmeter

/-- An instant, and how far local time is ahead of universal time then. -/
structure Instant where
  /-- Whole seconds since the start of 1970, universal time. -/
  secs : Int
  /-- Nanoseconds after the whole second; in a leap second up to two billion. -/
  nanos : Nat
  /-- Seconds that local time is ahead. -/
  offset : Int
  deriving DecidableEq, Repr

namespace Instant

/-- Local seconds since the start of 1970. -/
def localSecs (instant : Instant) : Int := instant.secs + instant.offset

/-- The local date. -/
def date (instant : Instant) : Calendar.Date :=
  .ofDay (instant.localSecs / 86400 + Calendar.epoch)

/-- The second of the local day. -/
def secondOfDay (instant : Instant) : Nat := (instant.localSecs % 86400).toNat

/-- The second of the minute; 60 in the later part of a leap second. -/
def secondOfMinute (instant : Instant) : Nat :=
  instant.secondOfDay % 60 + instant.nanos / 1000000000

/-- The millisecond of the second. -/
def millis (instant : Instant) : Nat := instant.nanos % 1000000000 / 1000000

/-- A year with four digits at least; one that needs more, or is negative, has a sign. -/
def yearText (year : Int) : String :=
  if year < 0 then "-" ++ Text.Numeral.padded 4 year.natAbs
  else if 9999 < year then "+" ++ Text.Numeral.padded 4 year.natAbs
  else Text.Numeral.padded 4 year.natAbs

def stamp (instant : Instant) : String :=
  let date := instant.date
  let second := instant.secondOfDay
  let two := Text.Numeral.padded 2
  yearText date.year ++ "-" ++ two date.month ++ "-" ++ two date.day ++ " " ++
    two (second / 3600) ++ ":" ++ two (second / 60 % 60) ++ ":" ++ two instant.secondOfMinute ++ "." ++
    Text.Numeral.padded 3 instant.millis

end Instant

end Flowmeter
