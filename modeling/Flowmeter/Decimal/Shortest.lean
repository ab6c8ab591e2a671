import Flowmeter.Decimal.Double

/-! The shortest decimals of doubles.

A decimal reads back as a double if it lies nearer to it than to any other double. Among
the decimals that do, `shortest` takes one of the fewest digits, and of those the one
nearest to the double itself. All is decided in whole numbers, so nothing is lost to
rounding. -/
namespace Flowmeter.Decimal

/-- The decimals that read back as a double, in units of a quarter of its last place. -/
structure Neighbourhood where
  low : Nat
  middle : Nat
  high : Nat
  /-- The power of two that a unit is. -/
  unit : Int
  /-- Whether the ends belong to it: half way between two doubles the even one is read. -/
  closed : Bool
  deriving DecidableEq, Repr

namespace Neighbourhood

/-- What reads back as `mantissa * 2 ^ exponent`. The doubles below a power of two lie twice
as close as those above it. -/
def of (mantissa : Nat) (exponent : Int) : Neighbourhood where
  low := 4 * mantissa - if mantissa = 0x10000000000000 ∧ -1074 < exponent then 1 else 2
  middle := 4 * mantissa
  high := 4 * mantissa + 2
  unit := exponent - 2
  closed := mantissa % 2 == 0

/-- A number of units as a fraction of `10 ^ power`: what both are multiplied by. -/
def scales (around : Neighbourhood) (power : Int) : Nat × Nat :=
  (Nat.pow 2 around.unit.toNat * Nat.pow 10 (-power).toNat,
    Nat.pow 2 (-around.unit).toNat * Nat.pow 10 power.toNat)

/-- Whether `digits * 10 ^ power` reads back. -/
def holds (around : Neighbourhood) (power : Int) (digits : Nat) : Bool :=
  let (units, tens) := around.scales power
  if around.closed then around.low * units ≤ digits * tens && digits * tens ≤ around.high * units
  else around.low * units < digits * tens && digits * tens < around.high * units

/-- The multiple of `10 ^ power` that reads back, the nearest one if both neighbours do. -/
def nearest? (around : Neighbourhood) (power : Int) : Option Nat :=
  let (units, tens) := around.scales power
  let below := around.middle * units / tens
  match around.holds power below, around.holds power (below + 1) with
  | true, true =>
    if 2 * (around.middle * units - below * tens) ≤ tens then some below else some (below + 1)
  | true, false => some below
  | false, true => some (below + 1)
  | false, false => none

/-- The first multiple of a power of ten that reads back, in so many steps down from `power`. -/
def firstFrom (around : Neighbourhood) : Nat → Int → Option (Nat × Int)
  | 0, _ => none
  | steps + 1, power =>
    match around.nearest? power with
    | some digits => some (digits, power)
    | none => around.firstFrom steps (power - 1)

end Neighbourhood

/-- The shortest decimal of a positive double: digits and a power of ten. No double is beyond
`10 ^ 309`, and none needs digits below `10 ^ (-324)`. -/
def shortest (mantissa : Nat) (exponent : Int) : Nat × Int :=
  ((Neighbourhood.of mantissa exponent).firstFrom 634 309).getD (0, 0)

/-- Digits with a decimal point behind the first `point` of them; zeros stand where there are
none. -/
def pointedDigits (digits : List Char) (point : Int) : List Char :=
  let zeros (count : Int) : List Char := List.replicate count.toNat '0'
  if point ≤ 0 then ['0', '.'] ++ zeros (-point) ++ digits
  else if digits.length ≤ point then digits ++ zeros (point - digits.length) ++ ['.', '0']
  else digits.take point.toNat ++ ['.'] ++ digits.drop point.toNat

/-- Digits with a decimal point behind the first of them, if there are more, and a power of
ten. -/
def scientific (digits : List Char) (power : Int) : List Char :=
  (match digits with
    | first :: second :: rest => first :: '.' :: second :: rest
    | digits => digits) ++ 'e' :: (toString power).toList

/-- The shortest text of a double. Numbers with up to sixteen digits before the point, or up to
five zeros at the start, are written without a power of ten. -/
def shortestText (x : Float) : String :=
  match Value.ofFloat x with
  | .nan => "NaN"
  | .infinite negative => if negative then "-inf" else "inf"
  | .finite negative mantissa exponent =>
    let magnitude :=
      if mantissa = 0 then ['0', '.', '0']
      else
        let (number, power) := shortest mantissa exponent
        let digits := Nat.toDigits 10 number
        let point := digits.length + power
        if -5 < point ∧ point ≤ 16 then pointedDigits digits point
        else scientific digits (point - 1)
    (if negative then "-" else "") ++ String.ofList magnitude

end Flowmeter.Decimal
