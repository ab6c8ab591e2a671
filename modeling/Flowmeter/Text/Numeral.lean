/-! Decimal numerals of bounded numbers.

A numeral is an optional plus sign and at least one ASCII digit; leading zeros
are allowed. `unsigned` finds the first thing wrong from the left. -/
namespace Flowmeter.Text.Numeral

/-- What is wrong with a numeral. -/
inductive Fault
  | empty
  | invalidDigit
  | tooLarge
  deriving DecidableEq, Repr

def Fault.message : Fault → String
  | .empty => "cannot parse integer from empty string"
  | .invalidDigit => "invalid digit found in string"
  | .tooLarge => "number too large to fit in target type"

def isDigit (c : Char) : Bool := '0' ≤ c && c ≤ '9'

/-- The value of the digits so far continued by `digits`, as long as it stays within `limit`. -/
def continued (limit value : Nat) : List Char → Except Fault Nat
  | [] => .ok value
  | c :: rest =>
    if !isDigit c then .error .invalidDigit
    else
      let next := 10 * value + (c.toNat - 48)
      if limit < next then .error .tooLarge else continued limit next rest

/-- The number a numeral stands for, at most `limit`. -/
def unsigned (limit : Nat) : List Char → Except Fault Nat
  | [] => .error .empty
  | ['+'] => .error .invalidDigit
  | '+' :: digits => continued limit 0 digits
  | digits => continued limit 0 digits

/-- The largest number of 64 bits. -/
def maxWord : Nat := UInt64.size - 1

/-- The 64 bit number a numeral stands for. -/
def word (text : List Char) : Except Fault UInt64 := (unsigned maxWord text).map UInt64.ofNat

/-- A number in decimal, with zeros in front up to `width` digits. -/
def padded (width value : Nat) : String :=
  let digits := Nat.toDigits 10 value
  String.ofList (List.replicate (width - digits.length) '0' ++ digits)

end Flowmeter.Text.Numeral
