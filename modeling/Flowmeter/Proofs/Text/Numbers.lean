import Mathlib.Data.Nat.Digits.Lemmas
import Flowmeter.Text.Hex
import Flowmeter.Text.Numeral

/-! Numbers in text.

What a string of digits stands for is said once for each base (`Hex.value`,
`Nat.ofDigitChars 10`), and of the readers it is said which texts they take and that the number
is the value (`number?_eq_some_iff`, `word_eq_ok_iff`). A written number has the value that it
was written for, however many zeros stand in front. -/
namespace Flowmeter.Text

namespace Hex

/-! ### Hexadecimal digits -/

/-- Digits are characters of ASCII. -/
theorem toNat_lt_of_isDigit {c : Char} (h : isDigit c = true) : c.toNat < 128 := by
  obtain ⟨value, hvalue⟩ := Option.isSome_iff_exists.1 h
  have hnine : '9'.val.toNat = 57 := rfl
  have hf : 'f'.val.toNat = 102 := rfl
  have hF : 'F'.val.toNat = 70 := rfl
  have hc : c.val.toNat = c.toNat := rfl
  simp only [digitValue?, Char.le_def, UInt32.le_iff_toNat_le] at hvalue
  split at hvalue
  · omega
  split at hvalue
  · omega
  split at hvalue
  · omega
  · cases hvalue

/-- A digit of either case is, in upper case, the one written for its value. -/
theorem digitValue?_eq_some_iff {c : Char} {value : Nat} :
    digitValue? c = some value ↔ value < 16 ∧ c.toUpper = upperDigit value := by
  have hread : ∀ n < 128, ∀ value ∈ digitValue? (Char.ofNat n),
      value < 16 ∧ (Char.ofNat n).toUpper = upperDigit value := by decide
  have hwritten : ∀ n < 128, ∀ value < 16, (Char.ofNat n).toUpper = upperDigit value →
      digitValue? (Char.ofNat n) = some value := by decide +kernel
  constructor
  · intro h
    have := hread c.toNat (toNat_lt_of_isDigit (Option.isSome_of_eq_some h)) value
    rw [Char.ofNat_toNat] at this
    exact this h
  · rintro ⟨hvalue, hupper⟩
    have hdigit : ∀ value < 16, (upperDigit value).toNat < 128 := by decide
    have hsmall : c.toNat < 128 := by
      by_cases hlower : 'a'.val ≤ c.val ∧ c.val ≤ 'z'.val
      · have hz : 'z'.val.toNat = 122 := rfl
        have hc : c.val.toNat = c.toNat := rfl
        have := UInt32.le_iff_toNat_le.1 hlower.2
        omega
      · have hsame : c.toUpper = c := dif_neg hlower
        rw [← hsame, hupper]
        exact hdigit value hvalue
    have := hwritten c.toNat hsmall value hvalue
    rw [Char.ofNat_toNat] at this
    exact this hupper

/-- The value of a digit. -/
def digitValue (c : Char) : Nat := (digitValue? c).getD 0

/-- The number that digits stand for, most significant first. -/
def value (digits : List Char) : Nat := Nat.ofDigits 16 (digits.reverse.map digitValue)

theorem digitValue?_of_isDigit {c : Char} (h : isDigit c = true) :
    digitValue? c = some (digitValue c) := by
  obtain ⟨value, hvalue⟩ := Option.isSome_iff_exists.1 h
  rw [digitValue, hvalue]
  rfl

theorem digitValue_upperDigit {value : Nat} (h : value < 16) :
    digitValue (upperDigit value) = value := by
  rw [digitValue, digitValue?_upperDigit value h]
  rfl

theorem isDigit_upperDigit {value : Nat} (h : value < 16) : isDigit (upperDigit value) = true := by
  rw [isDigit, digitValue?_upperDigit value h]
  rfl

theorem value_append (front back : List Char) :
    value (front ++ back) = value front * 16 ^ back.length + value back := by
  rw [value, List.reverse_append, List.map_append, Nat.ofDigits_append, List.length_map,
    List.length_reverse, Nat.add_comm, Nat.mul_comm]
  rfl

theorem value_singleton (c : Char) : value [c] = digitValue c := by
  simp [value]

theorem value_concat (digits : List Char) (c : Char) :
    value (digits ++ [c]) = value digits * 16 + digitValue c := by
  rw [value_append, value_singleton, List.length_singleton, Nat.pow_one]

theorem value_replicate_zero (count : Nat) : value (List.replicate count '0') = 0 := by
  induction count with
  | zero => rfl
  | succ count ih =>
    rw [List.replicate_succ', value_concat, ih]
    rfl

/-- Reading on from a number. -/
theorem foldlM_eq_some_iff {digits : List Char} {start n : Nat} :
    digits.foldlM (fun n c => (digitValue? c).map (16 * n + ·)) start = some n ↔
      (∀ c ∈ digits, isDigit c = true) ∧ n = start * 16 ^ digits.length + value digits := by
  induction digits generalizing start with
  | nil =>
    have hvalue : value [] = 0 := rfl
    rw [List.foldlM_nil, hvalue, List.length_nil, Nat.pow_zero, Nat.mul_one, Nat.add_zero]
    exact ⟨fun h => ⟨by simp, (Option.some.inj h).symm⟩, fun h => congrArg some h.2.symm⟩
  | cons c rest ih =>
    have hvalue : value (c :: rest) = digitValue c * 16 ^ rest.length + value rest := by
      rw [← List.singleton_append, value_append, value_singleton]
    rw [List.foldlM_cons, List.forall_mem_cons, hvalue, List.length_cons, Nat.pow_succ]
    cases hc : isDigit c with
    | true =>
      rw [digitValue?_of_isDigit hc]
      show rest.foldlM _ (16 * start + digitValue c) = some n ↔ _
      have hmul : 16 * start * 16 ^ rest.length = start * (16 ^ rest.length * 16) := by ring
      rw [ih, Nat.add_mul, hmul, Nat.add_assoc]
      simp
    | false =>
      have hnone : digitValue? c = none := by simpa [isDigit] using hc
      simp [hnone]

/-- **A hexadecimal number is one or more digits.** -/
theorem number?_eq_some_iff {digits : List Char} {n : Nat} :
    number? digits = some n ↔
      digits ≠ [] ∧ (∀ c ∈ digits, isDigit c = true) ∧ value digits = n := by
  cases digits with
  | nil => simp [number?]
  | cons c rest =>
    refine foldlM_eq_some_iff.trans ?_
    rw [Nat.zero_mul, Nat.zero_add, eq_comm (a := n)]
    simp

/-! ### Hexadecimal numbers written with zeros in front -/

theorem toUpper_digitChar : ∀ value < 16, (Nat.digitChar value).toUpper = upperDigit value := by
  decide

/-- The digits of a number, least significant behind. -/
theorem upperDigits_eq (n : Nat) :
    (Nat.toDigits 16 n).map Char.toUpper =
      if n < 16 then [upperDigit n]
      else (Nat.toDigits 16 (n / 16)).map Char.toUpper ++ [upperDigit (n % 16)] := by
  rw [Nat.toDigits_eq_if (by decide)]
  split
  · next h => rw [List.map_singleton, toUpper_digitChar n h]
  · rw [List.map_append, List.map_singleton, toUpper_digitChar (n % 16) (Nat.mod_lt n (by decide))]

theorem upperDigits_value (n : Nat) :
    (∀ c ∈ (Nat.toDigits 16 n).map Char.toUpper, isDigit c = true) ∧
      value ((Nat.toDigits 16 n).map Char.toUpper) = n := by
  induction n using Nat.strongRecOn with
  | _ n ih =>
    rw [upperDigits_eq]
    split
    · next h =>
      refine ⟨fun c hc => ?_, ?_⟩
      · obtain rfl := List.mem_singleton.1 hc
        exact isDigit_upperDigit h
      · rw [value_singleton, digitValue_upperDigit h]
    · next h =>
      have hlow : n % 16 < 16 := Nat.mod_lt n (by decide)
      obtain ⟨hdigits, hvalue⟩ := ih (n / 16) (by omega)
      refine ⟨fun c hc => ?_, ?_⟩
      · rcases List.mem_append.1 hc with hc | hc
        · exact hdigits c hc
        · obtain rfl := List.mem_singleton.1 hc
          exact isDigit_upperDigit hlow
      · rw [value_concat, hvalue, digitValue_upperDigit hlow]
        omega

theorem toList_padded (width n : Nat) :
    (padded width n).toList =
      List.replicate (width - ((Nat.toDigits 16 n).map Char.toUpper).length) '0' ++
        (Nat.toDigits 16 n).map Char.toUpper :=
  String.toList_ofList

/-- **A number is read from its digits**, whatever the width. -/
theorem number?_padded (width n : Nat) : number? (padded width n).toList = some n := by
  obtain ⟨hdigits, hvalue⟩ := upperDigits_value n
  rw [number?_eq_some_iff, toList_padded]
  refine ⟨?_, fun c hc => ?_, ?_⟩
  · simp [Nat.toDigits_ne_nil]
  · rcases List.mem_append.1 hc with hc | hc
    · rw [List.eq_of_mem_replicate hc]
      rfl
    · exact hdigits c hc
  · rw [value_append, value_replicate_zero, Nat.zero_mul, Nat.zero_add, hvalue]

/-- One place more is one digit more behind. -/
theorem toList_padded_succ {width : Nat} (h : 0 < width) (n : Nat) :
    (padded (width + 1) n).toList =
      (padded width (n / 16)).toList ++ [upperDigit (n % 16)] := by
  rw [toList_padded, toList_padded, upperDigits_eq n]
  split
  · next hsmall =>
    obtain ⟨width, rfl⟩ := Nat.exists_eq_succ_of_ne_zero (Nat.ne_of_gt h)
    rw [Nat.div_eq_of_lt hsmall, Nat.mod_eq_of_lt hsmall]
    show List.replicate (width + 1) '0' ++ _ = List.replicate width '0' ++ ['0'] ++ _
    rw [← List.replicate_succ']
  · rw [List.length_append, List.length_singleton, Nat.add_sub_add_right, List.append_assoc]

/-! ### Pairs of digits -/

theorem ofBytes_cons (byte : UInt8) (rest : List UInt8) :
    ofBytes (byte :: rest) =
      upperDigit (byte.toNat / 16) :: upperDigit (byte.toNat % 16) :: ofBytes rest := rfl

/-- What is read as octets is, in upper case, the octets written. -/
theorem bytes?_eq_some_iff {field : List Char} {bytes : List UInt8} :
    bytes? field = some bytes ↔ field.map Char.toUpper = ofBytes bytes := by
  fun_induction bytes? field generalizing bytes with
  | case1 => cases bytes <;> simp [ofBytes, ofByte]
  | case2 c => cases bytes <;> simp [ofBytes, ofByte]
  | case3 high low rest ih =>
    constructor
    · intro h
      obtain ⟨h', hhigh, h⟩ := Option.bind_eq_some_iff.1 h
      obtain ⟨l, hlow, h⟩ := Option.bind_eq_some_iff.1 h
      obtain ⟨tail, htail, h⟩ := Option.bind_eq_some_iff.1 h
      obtain rfl := Option.some.inj h
      obtain ⟨hh, hhigh⟩ := digitValue?_eq_some_iff.1 hhigh
      obtain ⟨hl, hlow⟩ := digitValue?_eq_some_iff.1 hlow
      have hnumber : (UInt8.ofNat (16 * h' + l)).toNat = 16 * h' + l :=
        UInt8.toNat_ofNat_of_lt' (show 16 * h' + l < 256 by omega)
      have hdiv : (16 * h' + l) / 16 = h' := by omega
      have hmod : (16 * h' + l) % 16 = l := by omega
      rw [List.map_cons, List.map_cons, hhigh, hlow, ih.1 htail, ofBytes_cons, hnumber, hdiv, hmod]
    · intro h
      cases bytes with
      | nil => cases h
      | cons byte tail =>
        have hbyte : byte.toNat < 256 := byte.toNat_lt
        obtain ⟨hhigh, h⟩ := List.cons.inj h
        obtain ⟨hlow, h⟩ := List.cons.inj h
        have hhigh := digitValue?_eq_some_iff.2 ⟨show byte.toNat / 16 < 16 by omega, hhigh⟩
        have hlow := digitValue?_eq_some_iff.2 ⟨show byte.toNat % 16 < 16 by omega, hlow⟩
        have hnumber : 16 * (byte.toNat / 16) + byte.toNat % 16 = byte.toNat := by omega
        rw [hhigh, hlow, ih.2 h]
        show some (UInt8.ofNat (16 * (byte.toNat / 16) + byte.toNat % 16) :: tail) = _
        rw [hnumber, UInt8.ofNat_toNat]

theorem isDigit_of_bytes? {field : List Char} {bytes : List UInt8} (h : bytes? field = some bytes) :
    field.length = 2 * bytes.length ∧ ∀ c ∈ field, isDigit c = true := by
  fun_induction bytes? field generalizing bytes with
  | case1 =>
    obtain rfl := Option.some.inj h
    exact ⟨rfl, by simp⟩
  | case2 => cases h
  | case3 high low rest ih =>
    obtain ⟨h', hhigh, h⟩ := Option.bind_eq_some_iff.1 h
    obtain ⟨l, hlow, h⟩ := Option.bind_eq_some_iff.1 h
    obtain ⟨tail, htail, h⟩ := Option.bind_eq_some_iff.1 h
    obtain rfl := Option.some.inj h
    obtain ⟨hlength, hdigits⟩ := ih htail
    refine ⟨by simp only [List.length_cons]; omega, ?_⟩
    rw [List.forall_mem_cons, List.forall_mem_cons]
    exact ⟨Option.isSome_of_eq_some hhigh, Option.isSome_of_eq_some hlow, hdigits⟩

/-- Digits in pairs are octets. -/
theorem exists_bytes? {field : List Char} (heven : field.length % 2 = 0)
    (hdigits : ∀ c ∈ field, isDigit c = true) : ∃ bytes, bytes? field = some bytes := by
  fun_induction bytes? field with
  | case1 => exact ⟨[], rfl⟩
  | case2 => cases heven
  | case3 high low rest ih =>
    rw [List.forall_mem_cons, List.forall_mem_cons] at hdigits
    obtain ⟨hhigh, hlow, hrest⟩ := hdigits
    obtain ⟨tail, htail⟩ := ih (by simp only [List.length_cons] at heven; omega) hrest
    rw [digitValue?_of_isDigit hhigh, digitValue?_of_isDigit hlow, htail]
    exact ⟨_, rfl⟩

theorem bytes?_append {front : List Char} {bytes : List UInt8} (h : bytes? front = some bytes)
    (back : List Char) : bytes? (front ++ back) = (bytes? back).map (bytes ++ ·) := by
  fun_induction bytes? front generalizing bytes with
  | case1 =>
    obtain rfl := Option.some.inj h
    simp
  | case2 => cases h
  | case3 high low rest ih =>
    obtain ⟨h', hhigh, h⟩ := Option.bind_eq_some_iff.1 h
    obtain ⟨l, hlow, h⟩ := Option.bind_eq_some_iff.1 h
    obtain ⟨tail, htail, h⟩ := Option.bind_eq_some_iff.1 h
    obtain rfl := Option.some.inj h
    rw [List.cons_append, List.cons_append, bytes?, hhigh, hlow, ih htail]
    cases bytes? back <;> rfl

/-- Digits have their value in either case. -/
theorem value_toUpper {digits : List Char} (h : ∀ c ∈ digits, isDigit c = true) :
    value (digits.map Char.toUpper) = value digits := by
  rw [value, value, ← List.map_reverse, List.map_map]
  refine congrArg _ (List.map_congr_left fun c hc => ?_)
  have hc := digitValue?_of_isDigit (h c (List.mem_reverse.1 hc))
  obtain ⟨hlt, hupper⟩ := digitValue?_eq_some_iff.1 hc
  rw [Function.comp_apply, hupper, digitValue_upperDigit hlt]

/-! ### Hexadecimal numbers in lower case -/

theorem isDigit_of_decimal {c : Char} (h : Numeral.isDigit c = true) : isDigit c = true := by
  have hrange : '0' ≤ c ∧ c ≤ '9' := by simpa [Numeral.isDigit] using h
  rw [isDigit, digitValue?, if_pos hrange]
  rfl

theorem isDigit_digitChar : ∀ value < 16, isDigit (Nat.digitChar value) = true := by
  decide

theorem isDigit_of_mem_toDigits {n : Nat} {c : Char} (h : c ∈ Nat.toDigits 16 n) :
    isDigit c = true := by
  induction n using Nat.strongRecOn with
  | _ n ih =>
    rw [Nat.toDigits_eq_if (by decide)] at h
    split at h
    · next hsmall =>
      obtain rfl := List.mem_singleton.1 h
      exact isDigit_digitChar n hsmall
    · rcases List.mem_append.1 h with h | h
      · exact ih (n / 16) (by omega) h
      · obtain rfl := List.mem_singleton.1 h
        exact isDigit_digitChar (n % 16) (Nat.mod_lt n (by decide))

theorem value_toDigits (n : Nat) : value (Nat.toDigits 16 n) = n := by
  rw [← value_toUpper fun c => isDigit_of_mem_toDigits]
  exact (upperDigits_value n).2

end Hex

namespace Numeral

/-! ### Decimal numerals -/

theorem toList_toString (n : Nat) : (toString n).toList = Nat.toDigits 10 n :=
  String.toList_ofList

theorem toDigits_inj {n m : Nat} (h : Nat.toDigits 10 n = Nat.toDigits 10 m) : n = m := by
  rw [← Nat.ofDigitChars_ten_toDigits (n := n), h, Nat.ofDigitChars_ten_toDigits]

theorem isDigit_of_mem_toDigits {n : Nat} {c : Char} (h : c ∈ Nat.toDigits 10 n) :
    isDigit c = true := by
  have hdigit := Nat.isDigit_of_mem_toDigits (by decide) (by decide) h
  simpa [isDigit, Char.isDigit, Char.le_def] using hdigit

/-- More digits make no smaller number. -/
theorem le_ofDigitChars (digits : List Char) (start : Nat) :
    start ≤ Nat.ofDigitChars 10 digits start := by
  rw [Nat.ofDigitChars_eq_ofDigitChars_zero]
  exact Nat.le_add_right_of_le (Nat.le_mul_of_pos_left start (Nat.pow_pos (by decide)))

theorem continued_eq_ok_iff {limit start n : Nat} {digits : List Char} (hstart : start ≤ limit) :
    continued limit start digits = .ok n ↔
      (∀ c ∈ digits, isDigit c = true) ∧ Nat.ofDigitChars 10 digits start = n ∧ n ≤ limit := by
  induction digits generalizing start with
  | nil =>
    rw [continued, Except.ok.injEq, Nat.ofDigitChars_nil]
    constructor
    · rintro rfl
      exact ⟨by simp, rfl, hstart⟩
    · rintro ⟨-, rfl, -⟩
      rfl
  | cons c rest ih =>
    rw [continued, List.forall_mem_cons, Nat.ofDigitChars_cons]
    cases hc : isDigit c with
    | false => simp
    | true =>
      show (if limit < 10 * start + (c.toNat - 48) then _ else _) = _ ↔ _
      split
      · next hlarge =>
        refine ⟨nofun, ?_⟩
        rintro ⟨-, rfl, hn⟩
        have := le_ofDigitChars rest (10 * start + (c.toNat - '0'.toNat))
        have hzero : '0'.toNat = 48 := rfl
        omega
      · next hsmall =>
        rw [ih (Nat.le_of_not_lt hsmall)]
        simp

/-- The digits of a numeral, and the plus sign that it may have. -/
def Signed (text digits : List Char) : Prop := text = digits ∨ text = '+' :: digits

theorem unsigned_eq_ok_iff {limit n : Nat} {text : List Char} :
    unsigned limit text = .ok n ↔
      ∃ digits, Signed text digits ∧ digits ≠ [] ∧ (∀ c ∈ digits, isDigit c = true) ∧
        Nat.ofDigitChars 10 digits 0 = n ∧ n ≤ limit := by
  have hplus : isDigit '+' = false := rfl
  fun_cases unsigned limit text with
  | case1 =>
    refine ⟨nofun, ?_⟩
    rintro ⟨digits, rfl | h, hne, -⟩
    · exact absurd rfl hne
    · cases h
  | case2 =>
    refine ⟨nofun, ?_⟩
    rintro ⟨digits, rfl | h, hne, hdigits, -⟩
    · rw [hdigits '+' (List.mem_singleton_self _)] at hplus
      cases hplus
    · exact absurd (List.cons.inj h).2.symm hne
  | case3 digits hne =>
    rw [continued_eq_ok_iff (Nat.zero_le limit)]
    constructor
    · rintro ⟨hdigits, hvalue⟩
      exact ⟨digits, .inr rfl, fun h => hne h, hdigits, hvalue⟩
    · rintro ⟨other, rfl | h, -, hdigits, hvalue⟩
      · rw [hdigits '+' (List.mem_cons_self ..)] at hplus
        cases hplus
      · obtain rfl := (List.cons.inj h).2
        exact ⟨hdigits, hvalue⟩
  | case4 _ hnil _ hsign =>
    rw [continued_eq_ok_iff (Nat.zero_le limit)]
    constructor
    · rintro ⟨hdigits, hvalue⟩
      exact ⟨text, .inl rfl, hnil, hdigits, hvalue⟩
    · rintro ⟨digits, rfl | rfl, -, hdigits, hvalue⟩
      · exact ⟨hdigits, hvalue⟩
      · exact (hsign digits rfl).elim

/-- **A numeral of 64 bits** is one or more digits, with or without a plus sign, of a value
below 2⁶⁴. -/
theorem word_eq_ok_iff {text : List Char} {number : UInt64} :
    word text = .ok number ↔
      ∃ digits, Signed text digits ∧ digits ≠ [] ∧ (∀ c ∈ digits, isDigit c = true) ∧
        Nat.ofDigitChars 10 digits 0 = number.toNat := by
  constructor
  · intro h
    cases hn : unsigned maxWord text with
    | error fault =>
      rw [word, hn] at h
      cases h
    | ok n =>
      rw [word, hn] at h
      obtain rfl : UInt64.ofNat n = number := Except.ok.inj h
      obtain ⟨digits, hsigned, hne, hdigits, hvalue, hlimit⟩ := unsigned_eq_ok_iff.1 hn
      have hlt : n < UInt64.size := Nat.lt_of_le_of_lt hlimit (by decide)
      refine ⟨digits, hsigned, hne, hdigits, ?_⟩
      rw [hvalue, UInt64.toNat_ofNat_of_lt' hlt]
  · rintro ⟨digits, hsigned, hne, hdigits, hvalue⟩
    have hlimit : number.toNat ≤ maxWord := Nat.le_sub_one_of_lt number.toNat_lt
    have hn : unsigned maxWord text = .ok number.toNat :=
      unsigned_eq_ok_iff.2 ⟨digits, hsigned, hne, hdigits, hvalue, hlimit⟩
    rw [word, hn]
    exact congrArg Except.ok UInt64.ofNat_toNat

end Numeral

end Flowmeter.Text
