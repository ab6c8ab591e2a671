import Flowmeter.Proofs.Text.Numbers

/-! Decimal numerals of a fixed width.

A number below `10 ^ width` is padded to exactly `width` digits (`length_padded`), which are read
back as it is (`field?_padded`). Numerals of one width stand in the order of their numbers, and so
do texts that begin with them: the text behind counts only where the numbers are equal
(`padded_append_lt`). -/
namespace Flowmeter.Text.Numeral

/-- The number that the first `width` characters are, all of them digits, and the text behind. -/
def field? (width : Nat) (text : List Char) : Option (Nat × List Char) :=
  if width ≤ text.length ∧ (text.take width).all isDigit then
    some (Nat.ofDigitChars 10 (text.take width) 0, text.drop width)
  else none

variable {width n m : Nat}

theorem toList_padded (width n : Nat) :
    (padded width n).toList =
      List.replicate (width - (Nat.toDigits 10 n).length) '0' ++ Nat.toDigits 10 n :=
  String.toList_ofList

theorem length_padded (hwidth : 0 < width) (h : n < 10 ^ width) :
    (padded width n).toList.length = width := by
  have hlength : (Nat.toDigits 10 n).length ≤ width := Nat.toDigits_length 10 n width hwidth h
  rw [toList_padded, List.length_append, List.length_replicate]
  omega

theorem isDigit_of_mem_padded {c : Char} (h : c ∈ (padded width n).toList) : isDigit c = true := by
  rw [toList_padded] at h
  rcases List.mem_append.1 h with h | h
  · rw [List.eq_of_mem_replicate h]
    rfl
  · exact isDigit_of_mem_toDigits h

theorem ofDigitChars_zeros (count : Nat) :
    Nat.ofDigitChars 10 (List.replicate count '0') 0 = 0 := by
  induction count with
  | zero => rfl
  | succ count ih =>
    rw [List.replicate_succ, Nat.ofDigitChars_cons]
    exact ih

/-- Zeros in front change nothing of a number. -/
theorem ofDigitChars_padded (width n : Nat) :
    Nat.ofDigitChars 10 (padded width n).toList 0 = n := by
  rw [toList_padded, Nat.ofDigitChars_append, ofDigitChars_zeros, Nat.ofDigitChars_ten_toDigits]

/-- **A number is read back from its field**, whatever stands behind. -/
theorem field?_padded (hwidth : 0 < width) (h : n < 10 ^ width) (rest : List Char) :
    field? width ((padded width n).toList ++ rest) = some (n, rest) := by
  have hlength := length_padded hwidth h
  have hfits : width ≤ ((padded width n).toList ++ rest).length := by
    rw [List.length_append, hlength]
    exact Nat.le_add_right ..
  have hdigits : (padded width n).toList.all isDigit = true :=
    List.all_eq_true.2 fun c => isDigit_of_mem_padded
  rw [field?, List.take_left' hlength, List.drop_left' hlength, ofDigitChars_padded,
    if_pos ⟨hfits, hdigits⟩]

/-! ### Order -/

/-- One place more is one digit more behind. -/
theorem toList_padded_succ (hwidth : 0 < width) (n : Nat) :
    (padded (width + 1) n).toList =
      (padded width (n / 10)).toList ++ [Nat.digitChar (n % 10)] := by
  rw [toList_padded, toList_padded, Nat.toDigits_eq_if (n := n) (by decide)]
  split
  · next hsmall =>
    obtain ⟨width, rfl⟩ := Nat.exists_eq_succ_of_ne_zero (Nat.ne_of_gt hwidth)
    rw [Nat.div_eq_of_lt hsmall, Nat.mod_eq_of_lt hsmall]
    show List.replicate (width + 1) '0' ++ _ = List.replicate width '0' ++ ['0'] ++ _
    rw [← List.replicate_succ']
  · rw [List.length_append, List.length_singleton, Nat.add_sub_add_right, List.append_assoc]

theorem toList_padded_one (h : n < 10) : (padded 1 n).toList = [Nat.digitChar n] := by
  rw [toList_padded, Nat.toDigits_of_lt_base h]
  rfl

theorem digitChar_lt : ∀ n < 10, ∀ m < 10, n < m → Nat.digitChar n < Nat.digitChar m := by
  decide

theorem digitChar_cons_lt {s t : List Char} (hn : n < 10) (hm : m < 10)
    (h : n < m ∨ n = m ∧ s < t) : Nat.digitChar n :: s < Nat.digitChar m :: t := by
  rw [List.cons_lt_cons_iff]
  rcases h with h | ⟨rfl, h⟩
  · exact .inl (digitChar_lt n hn m hm h)
  · exact .inr ⟨rfl, h⟩

/-- **Numerals of one width stand in the order of their numbers.** -/
theorem padded_append_lt {s t : List Char} (hwidth : 0 < width) (hn : n < 10 ^ width)
    (hm : m < 10 ^ width) (h : n < m ∨ n = m ∧ s < t) :
    (padded width n).toList ++ s < (padded width m).toList ++ t := by
  induction width, hwidth using Nat.le_induction generalizing n m s t with
  | base =>
    rw [toList_padded_one hn, toList_padded_one hm]
    exact digitChar_cons_lt hn hm h
  | succ width hwidth ih =>
    rw [toList_padded_succ hwidth, toList_padded_succ hwidth, List.append_assoc, List.append_assoc]
    rw [Nat.pow_succ] at hn hm
    refine ih (Nat.div_lt_of_lt_mul (by omega)) (Nat.div_lt_of_lt_mul (by omega)) ?_
    -- The last digit decides where the rest of both numbers is the same.
    rcases Nat.lt_or_ge (n / 10) (m / 10) with hlt | hge
    · exact .inl hlt
    · have hlast : n % 10 < m % 10 ∨ n % 10 = m % 10 ∧ s < t := by
        rcases h with h | ⟨rfl, h⟩
        · exact .inl (by omega)
        · exact .inr ⟨rfl, h⟩
      have hrest : n / 10 = m / 10 := by
        rcases h with h | ⟨rfl, -⟩ <;> omega
      exact .inr ⟨hrest,
        digitChar_cons_lt (Nat.mod_lt n (by decide)) (Nat.mod_lt m (by decide)) hlast⟩

theorem padded_lt (hwidth : 0 < width) (hn : n < 10 ^ width) (hm : m < 10 ^ width) (h : n < m) :
    (padded width n).toList < (padded width m).toList := by
  have hlt := padded_append_lt (s := []) (t := []) hwidth hn hm (.inl h)
  rwa [List.append_nil, List.append_nil] at hlt

end Flowmeter.Text.Numeral
