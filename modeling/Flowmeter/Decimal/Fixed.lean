import Flowmeter.Decimal.Double
import Flowmeter.Text.Numeral

/-! Doubles with a fixed number of decimal places.

The exact value is rounded to the last place, a tie goes to the even neighbour.
`roundHalfEven_near` says that rounding stays within half a unit. -/
namespace Flowmeter.Decimal

/-- The whole number nearest to `num / den`; of two the even one. -/
def roundHalfEven (num den : Nat) : Nat :=
  let quotient := num / den
  let rest := num % den
  if 2 * rest < den then quotient
  else if den < 2 * rest then quotient + 1
  else if quotient % 2 = 0 then quotient
  else quotient + 1

theorem roundHalfEven_near (num den : Nat) (h : 0 < den) :
    2 * num ≤ 2 * (den * roundHalfEven num den) + den ∧
      2 * (den * roundHalfEven num den) ≤ 2 * num + den := by
  have hd := Nat.div_add_mod num den
  have hlt := Nat.mod_lt num h
  have hs : den * (num / den + 1) = den * (num / den) + den := by rw [Nat.mul_add, Nat.mul_one]
  unfold roundHalfEven
  simp only
  split
  · omega
  · split
    · omega
    · split <;> omega

/-- `mantissa * 2 ^ exponent` in units of the last of `places` decimal places. -/
def units (places mantissa : Nat) : Int → Nat
  | .ofNat up => mantissa * Nat.pow 2 up * Nat.pow 10 places
  | .negSucc down => roundHalfEven (mantissa * Nat.pow 10 places) (Nat.pow 2 (down + 1))

/-- A number of units of the last place, written with a point. -/
def pointed (places count : Nat) : String :=
  let whole := toString (count / Nat.pow 10 places)
  if places = 0 then whole
  else whole ++ "." ++ Text.Numeral.padded places (count % Nat.pow 10 places)

/-- A double with `places` decimal places. -/
def fixed (places : Nat) (x : Float) : String :=
  match Value.ofFloat x with
  | .nan => "NaN"
  | .infinite negative => if negative then "-inf" else "inf"
  | .finite negative mantissa exponent =>
    (if negative then "-" else "") ++ pointed places (units places mantissa exponent)

end Flowmeter.Decimal
