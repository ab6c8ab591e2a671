import Flowmeter.Text.Numeral

/-! Reading doubles from decimal text.

A text has a whole part, a fraction or both, maybe a sign in front and an exponent
behind. The double nearest to the number is read. -/
namespace Flowmeter.Decimal

/-- The exponent that a text behind the digits says; 0 without one. -/
def exponent? (text : List Char) : Option Int :=
  match text with
  | [] => some 0
  | mark :: rest =>
    if mark != 'e' && mark != 'E' then none
    else (String.ofList (if rest.head? == some '+' then rest.drop 1 else rest)).toInt?

/-- The double of a text without a sign. -/
def unsigned? (text : List Char) : Option Float :=
  let isDigit := Text.Numeral.isDigit
  let whole := text.takeWhile isDigit
  let (fraction, rest) := match text.dropWhile isDigit with
    | '.' :: rest => (rest.takeWhile isDigit, rest.dropWhile isDigit)
    | rest => ([], rest)
  if whole.isEmpty && fraction.isEmpty then none
  else (exponent? rest).map fun exponent =>
    let mantissa := (whole ++ fraction).foldl (fun n c => 10 * n + (c.toNat - 48)) 0
    match exponent - (fraction.length : Int) with
    | .ofNat up => Float.ofScientific mantissa false up
    | .negSucc down => Float.ofScientific mantissa true (down + 1)

/-- The double of a text, which may also be `nan` or `inf`. -/
def ofText? (text : String) : Option Float :=
  let (negative, text) := match text.toList with
    | '-' :: rest => (true, rest)
    | '+' :: rest => (false, rest)
    | rest => (false, rest)
  let magnitude? := match text with
    | ['n', 'a', 'n'] => some (0.0 / 0.0)
    | ['i', 'n', 'f'] => some (1.0 / 0.0)
    | text => unsigned? text
  magnitude?.map fun magnitude => if negative then -magnitude else magnitude

end Flowmeter.Decimal
