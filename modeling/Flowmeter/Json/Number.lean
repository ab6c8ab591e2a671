import Flowmeter.Decimal.Shortest
import Flowmeter.Json.Scan
import Flowmeter.Text.Numeral

/-! Numbers in JSON text.

A number has a whole part without needless zeros, and it may have a fraction and an
exponent. `Number.scan` takes one apart, `Number.word?` says which 64 bit number it is
a plain numeral of. All others are doubles; a number too large for one is refused. -/
namespace Flowmeter.Json

/-- A number taken apart. -/
structure Number where
  negative : Bool
  whole : List Char
  fraction : List Char := []
  /-- The exponent, if there is one. -/
  exponent : Option Int := none
  deriving DecidableEq, Repr

namespace Number

open Text.Numeral (isDigit)

def digitValue (c : Char) : Nat := c.toNat - 48

/-- The number that digits write. -/
def value (digits : List Char) : Nat := digits.foldl (fun n c => 10 * n + digitValue c) 0

/-- The digits in front and the rest; there is at least one. -/
def digits (text : List Char) : Except Fault (List Char × List Char) :=
  match text.takeWhile isDigit, text with
  | [], [] => .error (.before (.ended .value) [])
  | [], c :: rest => .error (.upon .badNumber (c :: rest))
  | digits, _ => .ok (digits, text.dropWhile isDigit)

/-- The whole part: a zero that no digit follows, or digits that start with another. -/
def wholePart (text : List Char) : Except Fault (List Char × List Char) :=
  match text with
  | '0' :: rest =>
    if (rest.takeWhile isDigit).isEmpty then .ok (['0'], rest) else .error (.upon .badNumber rest)
  | _ => digits text

/-- The fraction, if there is one. -/
def fractionPart (text : List Char) : Except Fault (List Char × List Char) :=
  match text with
  | '.' :: rest => digits rest
  | _ => .ok ([], text)

/-- The exponent, if there is one. -/
def exponentPart (text : List Char) : Except Fault (Option Int × List Char) :=
  match text with
  | mark :: rest =>
    if mark = 'e' ∨ mark = 'E' then do
      let (negative, rest) := match rest with
        | '+' :: rest => (false, rest)
        | '-' :: rest => (true, rest)
        | _ => (false, rest)
      let (power, rest) ← digits rest
      let power : Int := value power
      return (some (if negative then -power else power), rest)
    else .ok (none, text)
  | [] => .ok (none, text)

/-- Digits joined to a number as long as it keeps within 64 bits, and how many are left
over. -/
def significand (start : Nat) : List Char → Nat × Nat
  | [] => (start, 0)
  | c :: rest =>
    let next := 10 * start + digitValue c
    if Text.Numeral.maxWord < next then (start, rest.length + 1) else significand next rest

/-- The largest power of ten that is a double. -/
def maxPower : Nat := 308

/-- A power of ten that is a double. -/
def tenTo (power : Nat) : Float := Float.ofScientific 1 false power

/-- A double divided by `10 ^ power`, in steps of a power that is a double. -/
def divided (x : Float) (power : Nat) : Float :=
  if power ≤ maxPower then x / tenTo power
  else if x == 0.0 then x
  else divided (x / tenTo maxPower) (power - maxPower)
termination_by power
decreasing_by simp only [maxPower] at *; omega

/-- The double that is the number without its sign; none if no double is as large. What does
not fit the significand counts by its place only. -/
def magnitude? (number : Number) : Option Float :=
  let (whole, dropped) := significand 0 number.whole
  let (digits, unread) := significand whole number.fraction
  let power : Int := dropped - (number.fraction.length - unread : Nat) + number.exponent.getD 0
  let x := (UInt64.ofNat digits).toFloat
  if digits = 0 then some x
  else if power ≤ 0 then some (divided x power.natAbs)
  else if maxPower < power then none
  else
    let product := x * tenTo power.toNat
    if product.isInf then none else some product

/-- A number in front of the text. -/
def scan (text : List Char) : Except Fault (Number × List Char) := do
  let (negative, text) := match text with
    | '-' :: rest => (true, rest)
    | _ => (false, text)
  let (whole, text) ← wholePart text
  let (fraction, text) ← fractionPart text
  let (exponent, text) ← exponentPart text
  let number : Number := { negative, whole, fraction, exponent }
  if number.magnitude?.isNone then .error (.before .hugeNumber text) else .ok (number, text)

/-- The 64 bit number that a number without sign, fraction and exponent writes. -/
def word? (number : Number) : Option UInt64 :=
  if number.negative || !number.fraction.isEmpty || number.exponent.isSome then none
  else if value number.whole ≤ Text.Numeral.maxWord then some (UInt64.ofNat (value number.whole))
  else none

/-- The largest number whose opposite is of 64 bits with a sign. -/
def maxOpposite : Nat := Nat.pow 2 63

/-- What the number is where it is not wanted: an integer if it fits 64 bits, with or without
a sign, and else a double. -/
def found (number : Number) : Found :=
  let plain := number.fraction.isEmpty && number.exponent.isNone
  let whole := value number.whole
  if plain && !number.negative && whole ≤ Text.Numeral.maxWord then .integer whole
  else if plain && number.negative && 0 < whole && whole ≤ maxOpposite then .integer (-whole)
  else
    let x := number.magnitude?.getD 0.0
    .double (Decimal.shortestText (if number.negative then -x else x))

/-- Whether a number starts with `c`. -/
def startsWith (c : Char) : Bool := c == '-' || isDigit c

end Number

end Flowmeter.Json
