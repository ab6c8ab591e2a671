/-! The exact value of a double.

A finite double is a sign, a whole number and a power of two. Printing works on
these, so what is printed depends on the value alone. -/
namespace Flowmeter.Decimal

/-- What a double stands for; a finite value is `mantissa * 2 ^ exponent`. -/
inductive Value
  | nan
  | infinite (negative : Bool)
  | finite (negative : Bool) (mantissa : Nat) (exponent : Int)
  deriving DecidableEq, Repr

/-- The value that the bits of a double encode. -/
def Value.ofBits (bits : UInt64) : Value :=
  let negative := bits >>> 63 == 1
  let exponent := ((bits >>> 52) &&& 0x7FF).toNat
  let fraction := (bits &&& 0xFFFFFFFFFFFFF).toNat
  if exponent = 0x7FF then
    if fraction = 0 then .infinite negative else .nan
  else if exponent = 0 then .finite negative fraction (-1074)
  else .finite negative (fraction + 0x10000000000000) (exponent - 1075)

def Value.ofFloat (x : Float) : Value := .ofBits x.toBits

end Flowmeter.Decimal
