/-! Counters of one refresh cycle. -/
namespace Flowmeter

/-- The smaller of two doubles; a number wins against a value that is none. -/
def lesser (a b : Float) : Float := if a.isNaN then b else if b < a then b else a

/-- The larger of two doubles; a number wins against a value that is none. -/
def greater (a b : Float) : Float := if a.isNaN then b else if a < b then b else a

/-- Counters of one refresh cycle. -/
structure CycleStats where
  /-- Frames counted by the capture thread. -/
  total : UInt64 := 0
  /-- Packets counted for a process or the kernel. -/
  attributed : UInt64 := 0
  /-- Packets with no or two local ends. -/
  undetermined : UInt64 := 0
  unmappedRecv : UInt64 := 0
  unmappedSend : UInt64 := 0
  /-- The earliest capture time. -/
  earliest : Option Float := none
  /-- The latest capture time. -/
  latest : Option Float := none
  deriving DecidableEq

namespace CycleStats

/-- Takes a capture time into account. -/
def observe (cycle : CycleStats) (time : Float) : CycleStats :=
  { cycle with
    earliest := some ((cycle.earliest.map (lesser · time)).getD time)
    latest := some ((cycle.latest.map (greater · time)).getD time) }

/-- Frames that no packet was attributed for; none if fewer frames than packets were counted. -/
def unattributed (cycle : CycleStats) : UInt64 :=
  if cycle.attributed ≤ cycle.total then cycle.total - cycle.attributed else 0

end CycleStats

end Flowmeter
