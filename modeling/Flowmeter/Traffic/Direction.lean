/-! Which direction of traffic is attributed, and in which order it is shown. -/
namespace Flowmeter

/-- Which direction of traffic is attributed. -/
inductive Direction
  | send
  | recv
  | both
  deriving DecidableEq, Repr

namespace Direction

def capturesSend : Direction → Bool
  | send | both => true
  | recv => false

def capturesRecv : Direction → Bool
  | recv | both => true
  | send => false

end Direction

/-- How processes and hosts are ordered by their traffic. -/
inductive SortOrder
  | ascending
  | descending
  deriving DecidableEq, Repr

/-- How two amounts of traffic compare. -/
def SortOrder.compare (order : SortOrder) (a b : UInt64) : Ordering :=
  match order with
  | ascending => Ord.compare a b
  | descending => Ord.compare b a

end Flowmeter
