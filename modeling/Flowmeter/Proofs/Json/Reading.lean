import Mathlib.Data.Nat.Digits.Defs
import Flowmeter.Json.Value
import Flowmeter.Proofs.Text.Numbers

/-! Numbers and words read back.

They are read from what is written for them, whatever stands behind: a reader gives the value and
leaves the rest. Only behind a number something has to be asked, that it does not go on
(`EndsNumber`). -/
namespace Flowmeter.Json

/-- No space stands in front. -/
theorem skipSpace_of_not {c : Char} (h : isSpace c = false) (text : List Char) :
    skipSpace (c :: text) = c :: text := by
  rw [skipSpace, List.dropWhile_cons_of_neg (by rw [h]; exact Bool.false_ne_true)]

/-! ### Numbers -/

namespace Number

open Flowmeter.Text.Numeral (isDigit maxWord isDigit_of_mem_toDigits)

/-- A number that ends in front of the text does not go on there. -/
def EndsNumber (text : List Char) : Prop :=
  ∀ c ∈ text.head?, isDigit c = false ∧ c ≠ '.' ∧ c ≠ 'e' ∧ c ≠ 'E'

theorem value_eq (digits : List Char) : value digits = Nat.ofDigitChars 10 digits 0 := by
  rw [Nat.ofDigitChars_eq_foldl]
  rfl

theorem value_toDigits (n : Nat) : value (Nat.toDigits 10 n) = n := by
  rw [value_eq, Nat.ofDigitChars_ten_toDigits]

/-- Only zero is written with a zero in front. -/
theorem eq_zero_of_toDigits {n : Nat} {rest : List Char} (h : Nat.toDigits 10 n = '0' :: rest) :
    n = 0 := by
  induction n using Nat.strongRecOn generalizing rest with
  | _ n ih =>
    rw [Nat.toDigits_eq_if (by decide)] at h
    split at h
    · obtain ⟨hchar, -⟩ := List.cons.inj h
      exact Nat.digitChar_eq_zero.1 hchar
    · next hlarge =>
      cases hfront : Nat.toDigits 10 (n / 10) with
      | nil => exact absurd hfront Nat.toDigits_ne_nil
      | cons c more =>
        rw [hfront, List.cons_append] at h
        obtain ⟨rfl, -⟩ := List.cons.inj h
        have := ih (n / 10) (by omega) hfront
        omega

section Digits
variable {front rest : List Char}

theorem EndsNumber.takeWhile_isDigit (hrest : EndsNumber rest) : rest.takeWhile isDigit = [] := by
  cases rest with
  | nil => rfl
  | cons c more =>
    rw [List.takeWhile_cons_of_neg]
    rw [(hrest c rfl).1]
    exact Bool.false_ne_true

theorem takeWhile_isDigit (hfront : ∀ c ∈ front, isDigit c = true) (hrest : EndsNumber rest) :
    (front ++ rest).takeWhile isDigit = front := by
  rw [List.takeWhile_append_of_pos hfront, hrest.takeWhile_isDigit, List.append_nil]

theorem dropWhile_isDigit (hfront : ∀ c ∈ front, isDigit c = true) (hrest : EndsNumber rest) :
    (front ++ rest).dropWhile isDigit = rest := by
  have h := List.takeWhile_append_dropWhile (p := isDigit) (l := front ++ rest)
  rw [takeWhile_isDigit hfront hrest] at h
  exact List.append_cancel_left h

theorem digits_append (hne : front ≠ []) (hfront : ∀ c ∈ front, isDigit c = true)
    (hrest : EndsNumber rest) : digits (front ++ rest) = .ok (front, rest) := by
  obtain ⟨c, more, rfl⟩ := List.exists_cons_of_ne_nil hne
  unfold digits
  rw [takeWhile_isDigit hfront hrest, dropWhile_isDigit hfront hrest]

end Digits

section Written
variable {n : Nat} {rest : List Char}

theorem wholePart_toDigits (hrest : EndsNumber rest) :
    wholePart (Nat.toDigits 10 n ++ rest) = .ok (Nat.toDigits 10 n, rest) := by
  have hdigits : ∀ c ∈ Nat.toDigits 10 n, isDigit c = true := fun c => isDigit_of_mem_toDigits
  unfold wholePart
  split
  · next more h =>
    cases hfront : Nat.toDigits 10 n with
    | nil => exact absurd hfront Nat.toDigits_ne_nil
    | cons c digits =>
      rw [hfront, List.cons_append] at h
      obtain ⟨rfl, rfl⟩ := List.cons.inj h
      obtain rfl := eq_zero_of_toDigits hfront
      rw [Nat.toDigits_zero] at hfront
      obtain ⟨-, rfl⟩ := List.cons.inj hfront
      rw [List.nil_append, hrest.takeWhile_isDigit]
      rfl
  · exact digits_append Nat.toDigits_ne_nil hdigits hrest

theorem fractionPart_of_ends (hrest : EndsNumber rest) : fractionPart rest = .ok ([], rest) := by
  unfold fractionPart
  split
  · exact absurd rfl (hrest '.' rfl).2.1
  · rfl

theorem exponentPart_of_ends (hrest : EndsNumber rest) : exponentPart rest = .ok (none, rest) := by
  cases rest with
  | nil => rfl
  | cons c more =>
    obtain ⟨-, -, hlower, hupper⟩ := hrest c rfl
    exact if_neg (not_or.2 ⟨hlower, hupper⟩)

/-- Digits that make up a number of 64 bits are joined without a rest. -/
theorem significand_eq {start : Nat} {digits : List Char}
    (h : digits.foldl (fun n c => 10 * n + digitValue c) start ≤ maxWord) :
    significand start digits = (digits.foldl (fun n c => 10 * n + digitValue c) start, 0) := by
  induction digits generalizing start with
  | nil => rfl
  | cons c rest ih =>
    have hgrows (digits : List Char) (n : Nat) :
        n ≤ digits.foldl (fun n c => 10 * n + digitValue c) n := by
      induction digits generalizing n with
      | nil => exact Nat.le_refl n
      | cons d digits ihd =>
        have := ihd (10 * n + digitValue d)
        rw [List.foldl_cons]
        omega
    have hnext : ¬maxWord < 10 * start + digitValue c :=
      Nat.not_lt_of_le (Nat.le_trans (hgrows rest _) h)
    rw [significand, if_neg hnext, List.foldl_cons]
    exact ih h

/-- The number that a numeral of 64 bits writes is never refused for its size. -/
theorem magnitude?_toDigits (h : n ≤ maxWord) :
    (magnitude? ⟨false, Nat.toDigits 10 n, [], none⟩).isNone = false := by
  have hvalue := value_toDigits n
  have hjoined : significand 0 (Nat.toDigits 10 n) = (n, 0) := by
    rw [value] at hvalue
    rw [significand_eq (hvalue.symm ▸ h), hvalue]
  simp only [magnitude?, hjoined, significand]
  split <;> simp

/-- The first digit of a numeral. -/
theorem toDigits_append_eq_cons (n : Nat) (rest : List Char) :
    ∃ c more, Nat.toDigits 10 n ++ rest = c :: more ∧ isDigit c = true := by
  obtain ⟨c, more, hdigits⟩ := List.exists_cons_of_ne_nil (Nat.toDigits_ne_nil (b := 10) (n := n))
  refine ⟨c, more ++ rest, ?_, ?_⟩
  · rw [hdigits, List.cons_append]
  · exact isDigit_of_mem_toDigits (n := n) (hdigits ▸ List.mem_cons_self ..)

theorem scan_toDigits (h : n ≤ maxWord) (hrest : EndsNumber rest) :
    scan (Nat.toDigits 10 n ++ rest) = .ok (⟨false, Nat.toDigits 10 n, [], none⟩, rest) := by
  obtain ⟨c, more, htext, hdigit⟩ := toDigits_append_eq_cons n rest
  have hwhole : wholePart (c :: more) = .ok (Nat.toDigits 10 n, rest) :=
    htext ▸ wholePart_toDigits hrest
  have hsign : c ≠ '-' := fun heq => absurd (heq ▸ hdigit) (by decide)
  rw [htext]
  unfold scan
  split
  next negative text heq =>
  split at heq
  · next hminus => exact absurd (List.cons.inj hminus).1 hsign
  · obtain ⟨rfl, rfl⟩ := Prod.mk.inj heq
    simp only [hwhole, fractionPart_of_ends hrest, exponentPart_of_ends hrest,
      magnitude?_toDigits h, bind, Except.bind]
    rfl

end Written

end Number

theorem isSpace_of_isDigit {c : Char} (h : Flowmeter.Text.Numeral.isDigit c = true) :
    isSpace c = false := by
  rw [Bool.eq_false_iff]
  intro hspace
  simp only [isSpace, Bool.or_eq_true, beq_iff_eq] at hspace
  rcases hspace with ((rfl | rfl) | rfl) | rfl <;> exact absurd h (by decide)

/-- A numeral of 64 bits is read as its number. -/
theorem readWord_toDigits (wanted : String) (word : UInt64) {rest : List Char}
    (hrest : Number.EndsNumber rest) :
    readWord wanted (Nat.toDigits 10 word.toNat ++ rest) = .ok (word, rest) := by
  have hsmall : word.toNat ≤ Flowmeter.Text.Numeral.maxWord := Nat.le_pred_of_lt word.toNat_lt
  obtain ⟨c, more, htext, hdigit⟩ := Number.toDigits_append_eq_cons word.toNat rest
  have hscan : Number.scan (c :: more) = _ := htext ▸ Number.scan_toDigits hsmall hrest
  have hword : Number.word? ⟨false, Nat.toDigits 10 word.toNat, [], none⟩ = some word := by
    simp [Number.word?, Number.value_toDigits, hsmall]
  have hstarts : Number.startsWith c = true := by
    rw [Number.startsWith, hdigit, Bool.or_true]
  rw [htext, readWord, skipSpace_of_not (isSpace_of_isDigit hdigit)]
  simp only [hstarts, if_true, hscan, hword, bind, Except.bind]
  rfl

/-! ### Words -/

theorem readOptionalText_null (wanted : String) (rest : List Char) :
    readOptionalText wanted ("null".toList ++ rest) = .ok (none, rest) := rfl

theorem readBool_true (rest : List Char) :
    readBool ("true".toList ++ rest) = .ok (true, rest) := rfl

theorem readBool_false (rest : List Char) :
    readBool ("false".toList ++ rest) = .ok (false, rest) := rfl

end Flowmeter.Json
