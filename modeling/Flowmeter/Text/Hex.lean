/-! Hexadecimal digits, alone and in pairs.

Reading takes letters of either case, `bytes?` reads back what `ofBytes` writes. -/
namespace Flowmeter.Text.Hex

/-- The value of a hexadecimal digit of either case. -/
def digitValue? (c : Char) : Option Nat :=
  if '0' ≤ c ∧ c ≤ '9' then some (c.toNat - 48)
  else if 'a' ≤ c ∧ c ≤ 'f' then some (c.toNat - 87)
  else if 'A' ≤ c ∧ c ≤ 'F' then some (c.toNat - 55)
  else none

def isDigit (c : Char) : Bool := (digitValue? c).isSome

/-- The upper case digit of a value below sixteen. -/
def upperDigit (value : Nat) : Char :=
  if value < 10 then Char.ofNat (48 + value) else Char.ofNat (55 + value)

/-- The two upper case digits of a byte. -/
def ofByte (byte : UInt8) : List Char := [upperDigit (byte.toNat / 16), upperDigit (byte.toNat % 16)]

def ofBytes (bytes : List UInt8) : List Char := bytes.flatMap ofByte

/-- The bytes that pairs of digits stand for; none for another character or an odd length. -/
def bytes? : List Char → Option (List UInt8)
  | [] => some []
  | [_] => none
  | high :: low :: rest => do
    let h ← digitValue? high
    let l ← digitValue? low
    let bytes ← bytes? rest
    return UInt8.ofNat (16 * h + l) :: bytes

/-- The number that digits stand for, most significant first; none without a digit
or with another character. -/
def number? : List Char → Option Nat
  | [] => none
  | digits => digits.foldlM (fun n c => (digitValue? c).map (16 * n + ·)) 0

/-- At least `width` upper case digits, most significant first. -/
def padded (width value : Nat) : String :=
  let digits := ((Nat.toDigits 16 value).map Char.toUpper)
  String.ofList (List.replicate (width - digits.length) '0' ++ digits)

theorem digitValue?_upperDigit : ∀ value < 16, digitValue? (upperDigit value) = some value := by
  decide

theorem bytes?_ofBytes (bytes : List UInt8) : bytes? (ofBytes bytes) = some bytes := by
  induction bytes with
  | nil => rfl
  | cons byte rest ih =>
    have hb : byte.toNat < 256 := byte.toNat_lt
    have high := digitValue?_upperDigit (byte.toNat / 16) (by omega)
    have low := digitValue?_upperDigit (byte.toNat % 16) (by omega)
    have hn : 16 * (byte.toNat / 16) + byte.toNat % 16 = byte.toNat := by omega
    have step : ofBytes (byte :: rest) =
        upperDigit (byte.toNat / 16) :: upperDigit (byte.toNat % 16) :: ofBytes rest := rfl
    simp only [step, bytes?, high, low, ih]
    show some (UInt8.ofNat (16 * (byte.toNat / 16) + byte.toNat % 16) :: rest) = _
    rw [hn, UInt8.ofNat_toNat]

end Flowmeter.Text.Hex
