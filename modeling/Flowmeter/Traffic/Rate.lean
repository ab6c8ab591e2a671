import Flowmeter.Decimal.Fixed
import Flowmeter.Traffic.Cycle

/-! Transfer rates.

Two byte counts over a time become two rates in one unit, the largest unit that the
larger rate fills. -/
namespace Flowmeter

/-- A stretch of time. -/
structure Elapsed where
  secs : UInt64
  nanos : UInt32
  deriving DecidableEq, Repr

namespace Elapsed

/-- Between two moments, given in nanoseconds; none if the second is not later. -/
def between (start stop : Nat) : Elapsed :=
  let nanos := stop - start
  ⟨UInt64.ofNat (nanos / 1000000000), UInt32.ofNat (nanos % 1000000000)⟩

def toSeconds (elapsed : Elapsed) : Float :=
  elapsed.secs.toFloat + elapsed.nanos.toUInt64.toFloat / 1000000000.0

end Elapsed

/-- Units of transfer rates. -/
inductive RateUnit
  | bytes
  | kib
  | mib
  | gib
  deriving DecidableEq, Repr

namespace RateUnit

def label : RateUnit → String
  | bytes => "Byte/s"
  | kib => "KiB/s"
  | mib => "MiB/s"
  | gib => "GiB/s"

/-- Bytes per second of one unit. -/
def size : RateUnit → Float
  | bytes => 1.0
  | kib => 1024.0
  | mib => 1048576.0
  | gib => 1073741824.0

/-- The largest unit that a rate in bytes per second fills. -/
def forRate (rate : Float) : RateUnit :=
  if gib.size ≤ rate then gib
  else if mib.size ≤ rate then mib
  else if kib.size ≤ rate then kib
  else bytes

end RateUnit

/-- Rates of received and sent bytes in one unit. -/
structure Rates where
  recv : Float
  sent : Float
  unit : RateUnit

namespace Rates

/-- The rates of byte counts over a time; zero over no time. -/
def during (recv sent : UInt64) (elapsed : Elapsed) : Rates :=
  let secs := elapsed.toSeconds
  let factor := if 0.0 < secs then 1.0 / secs else 0.0
  let recvRate := recv.toFloat * factor
  let sentRate := sent.toFloat * factor
  let unit := RateUnit.forRate (greater recvRate sentRate)
  { recv := recvRate / unit.size, sent := sentRate / unit.size, unit }

def recvText (rates : Rates) : String := Decimal.fixed 2 rates.recv

def sentText (rates : Rates) : String := Decimal.fixed 2 rates.sent

end Rates

end Flowmeter
