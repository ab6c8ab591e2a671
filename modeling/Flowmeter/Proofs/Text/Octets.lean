import Flowmeter.Proofs.Text.Numbers
import Flowmeter.Proofs.Text.Unicode

/-! Texts of digits in memory.

A hexadecimal digit takes one octet, and an octet that is a digit of ASCII is a character of its
own. So a text of digits may be cut at every offset (`slice_digits`), which is not so for other
texts: a cut within a character is `Torn`. -/
namespace Flowmeter.Text

/-! ### Octets of digits -/

/-- Whether an octet is a hexadecimal digit of ASCII. -/
def isHexOctet (octet : UInt8) : Bool :=
  (48 ≤ octet && octet ≤ 57) || (65 ≤ octet && octet ≤ 70) || (97 ≤ octet && octet ≤ 102)

theorem encodeChar_of_ascii {c : Char} (h : c.toNat < 128) :
    String.utf8EncodeChar c = [UInt8.ofNat c.toNat] :=
  if_pos (Nat.le_of_lt_succ h)

/-- The sequence of a character beyond ASCII starts with an octet beyond ASCII. -/
theorem exists_octet_of_not_ascii {c : Char} (h : 128 ≤ c.toNat) :
    ∃ octet ∈ String.utf8EncodeChar c, 128 ≤ octet.toNat := by
  have hc : c.val.toNat = c.toNat := rfl
  rw [String.utf8EncodeChar.eq_1, hc, if_neg (by omega)]
  have hlarge {n : Nat} (hlow : 128 ≤ n) (hhigh : n < 256) : 128 ≤ (UInt8.ofNat n).toNat := by
    rwa [UInt8.toNat_ofNat_of_lt' hhigh]
  split
  · exact ⟨_, List.mem_cons_self .., hlarge (by omega) (by omega)⟩
  split
  · exact ⟨_, List.mem_cons_self .., hlarge (by omega) (by omega)⟩
  · exact ⟨_, List.mem_cons_self .., hlarge (by omega) (by omega)⟩

theorem isHexOctet_encodeChar (c : Char) :
    (∀ octet ∈ String.utf8EncodeChar c, isHexOctet octet = true) ↔ Hex.isDigit c = true := by
  have hascii : ∀ n < 128, isHexOctet (UInt8.ofNat n) = Hex.isDigit (Char.ofNat n) := by decide
  by_cases h : c.toNat < 128
  · have hsame := hascii c.toNat h
    rw [Char.ofNat_toNat] at hsame
    rw [encodeChar_of_ascii h, List.forall_mem_singleton, hsame]
  · obtain ⟨octet, hoctet, hlarge⟩ := exists_octet_of_not_ascii (Nat.le_of_not_lt h)
    have hnot : ¬isHexOctet octet = true := by
      intro hhex
      simp only [isHexOctet, Bool.or_eq_true, Bool.and_eq_true, decide_eq_true_eq,
        UInt8.le_iff_toNat_le, UInt8.reduceToNat] at hhex
      omega
    constructor
    · intro hall
      exact absurd (hall octet hoctet) hnot
    · intro hdigit
      exact absurd (Hex.toNat_lt_of_isDigit hdigit) h

theorem isHexOctet_encoded (text : List Char) :
    (∀ octet ∈ encoded text, isHexOctet octet = true) ↔ ∀ c ∈ text, Hex.isDigit c = true := by
  simp only [encoded, List.forall_mem_flatMap, isHexOctet_encodeChar]

/-- Digits take one octet each. -/
theorem length_encoded {digits : List Char} (h : ∀ c ∈ digits, Hex.isDigit c = true) :
    (encoded digits).length = digits.length := by
  induction digits with
  | nil => rfl
  | cons c rest ih =>
    obtain ⟨hc, hrest⟩ := List.forall_mem_cons.1 h
    rw [encoded, List.flatMap_cons, encodeChar_of_ascii (Hex.toNat_lt_of_isDigit hc),
      List.singleton_append, List.length_cons, List.length_cons]
    exact congrArg (· + 1) (ih hrest)

/-! ### Cuts in memory -/

/-- A text is cut within a character, or behind its end. -/
structure Torn where
  offset : Nat

/-- What stands before an offset in octets, and what stands behind. -/
def cutAt (offset : Nat) : List Char → Except Torn (List Char × List Char)
  | [] => if offset = 0 then .ok ([], []) else .error ⟨offset⟩
  | c :: rest =>
    if offset = 0 then .ok ([], c :: rest)
    else if c.utf8Size ≤ offset then do
      let (front, back) ← cutAt (offset - c.utf8Size) rest
      return (c :: front, back)
    else .error ⟨offset⟩

/-- The text from one offset to another. -/
def slice (text : List Char) (start stop : Nat) : Except Torn (List Char) := do
  let (_, back) ← cutAt start text
  let (part, _) ← cutAt (stop - start) back
  return part

section Digits
variable {digits : List Char} (h : ∀ c ∈ digits, Hex.isDigit c = true)
include h

theorem cutAt_digits {offset : Nat} (hoffset : offset ≤ digits.length) :
    cutAt offset digits = .ok (digits.take offset, digits.drop offset) := by
  induction digits generalizing offset with
  | nil =>
    obtain rfl := Nat.eq_zero_of_le_zero hoffset
    rfl
  | cons c rest ih =>
    obtain ⟨hc, hrest⟩ := List.forall_mem_cons.1 h
    have hsize : c.utf8Size = 1 := by
      rw [← String.length_utf8EncodeChar, encodeChar_of_ascii (Hex.toNat_lt_of_isDigit hc)]
      rfl
    cases offset with
    | zero => rfl
    | succ offset =>
      rw [cutAt, hsize, if_neg (Nat.succ_ne_zero offset), if_pos (Nat.le_add_left 1 offset),
        Nat.add_sub_cancel, ih hrest (Nat.le_of_succ_le_succ hoffset)]
      rfl

theorem slice_digits {start stop : Nat} (hstart : start ≤ stop) (hstop : stop ≤ digits.length) :
    slice digits start stop = .ok ((digits.drop start).take (stop - start)) := by
  have hback : ∀ c ∈ digits.drop start, Hex.isDigit c = true :=
    fun c hc => h c (List.mem_of_mem_drop hc)
  have hlength : stop - start ≤ (digits.drop start).length := by
    rw [List.length_drop]
    omega
  rw [slice, cutAt_digits h (Nat.le_trans hstart hstop)]
  show (do let (part, _) ← cutAt (stop - start) (digits.drop start); return part) = _
  rw [cutAt_digits hback hlength]
  rfl

end Digits

-- Among other characters a cut can go through one.
example : slice ['7', 'é', '0'] 0 2 = .error ⟨1⟩ := rfl

end Flowmeter.Text
