/-! Sets of characters as tables of ranges.

A table lists the first and the last code point of each range, in ascending order and
with a gap between any two (`Ascending`). -/
namespace Flowmeter.Text

/-- The first and last code points of ranges. -/
abbrev Ranges := List (Nat × Nat)

namespace Ranges

def holds (ranges : Ranges) (c : Char) : Bool :=
  ranges.any fun (first, last) => first ≤ c.toNat && c.toNat ≤ last

/-- Whether the ranges ascend from a code point on, with gaps between them. -/
def ascend (start : Nat) : Ranges → Bool
  | [] => true
  | (first, last) :: rest => start ≤ first && first ≤ last && ascend (last + 2) rest

end Ranges

end Flowmeter.Text
