import Flowmeter.Text.Raw

/-! Characters through their octets.

A text is written as the UTF-8 sequences of its characters, and a byte string is read by the
ranges that the octets behind a first octet must lie in. What is written for characters is read
as these characters (`ofBytes_encoded`). -/
namespace Flowmeter.Text

/-- The octets of a text. -/
def encoded (text : List Char) : List UInt8 := text.flatMap String.utf8EncodeChar

/-- The octets of a byte string from a place on, collected from the front. -/
theorem toList_loop (bytes : ByteArray) (count i : Nat) (h : i + count = bytes.size)
    (front : List UInt8) :
    ByteArray.toList.loop bytes i front = front.reverse ++ bytes.data.toList.drop i := by
  induction count generalizing i front with
  | zero =>
    have hend : bytes.data.toList.drop i = [] := List.drop_of_length_le (Nat.le_of_eq h.symm)
    rw [ByteArray.toList.loop, if_neg (by omega), hend, List.append_nil]
  | succ count ih =>
    have hi : i < bytes.size := by omega
    have hnext : bytes.data.toList.drop i = bytes.get! i :: bytes.data.toList.drop (i + 1) := by
      rw [List.drop_eq_getElem_cons hi]
      simp [ByteArray.get!, hi]
    rw [ByteArray.toList.loop, if_pos hi, ih (i + 1) (by omega), hnext, List.reverse_cons,
      List.append_assoc]
    rfl

theorem toUTF8_ofList (text : List Char) : (String.ofList text).toUTF8.toList = encoded text := by
  rw [String.toUTF8_eq_toByteArray, String.toByteArray_ofList, List.utf8Encode, ByteArray.toList,
    toList_loop _ _ 0 (Nat.zero_add _), List.toList_data_toByteArray]
  rfl

namespace Raw

theorem chars?_eq_some_iff {raw : Raw} {text : List Char} :
    raw.chars? = some text ↔ raw = text.map .char := by
  constructor
  · intro h
    induction raw generalizing text with
    | nil =>
      obtain rfl : [] = text := Option.some.inj h
      rfl
    | cons first rest ih =>
      rw [chars?, List.mapM_cons] at h
      obtain ⟨c, hfirst, h⟩ := Option.bind_eq_some_iff.1 h
      obtain ⟨more, hrest, h⟩ := Option.bind_eq_some_iff.1 h
      obtain rfl := Option.some.inj h
      cases first with
      | char c' =>
        obtain rfl := Option.some.inj hfirst
        rw [ih hrest]
        rfl
      | stray bytes => cases hfirst
  · rintro rfl
    rw [← String.toList_ofList (l := text)]
    exact chars?_ofString (String.ofList text)

/-- Octets that lie in ranges, one in each. -/
inductive Within : List (UInt8 × UInt8) → List UInt8 → Prop
  | nil : Within [] []
  | cons {low high byte : UInt8} {ranges : List (UInt8 × UInt8)} {rest : List UInt8}
    (hlow : low ≤ byte) (hhigh : byte ≤ high) (hrest : Within ranges rest) :
    Within ((low, high) :: ranges) (byte :: rest)

namespace Within

variable {ranges : List (UInt8 × UInt8)} {tail : List UInt8} (h : Within ranges tail)
include h

theorem length_eq : tail.length = ranges.length := by
  induction h with
  | nil => rfl
  | cons _ _ _ ih => rw [List.length_cons, List.length_cons, ih]

theorem fitting_append (rest : List UInt8) : fitting ranges (tail ++ rest) = tail := by
  induction h with
  | nil => cases rest <;> rfl
  | cons hlow hhigh _ ih =>
    rw [List.cons_append, fitting, ih, if_pos]
    rw [Bool.and_eq_true, decide_eq_true hlow, decide_eq_true hhigh]
    exact ⟨rfl, rfl⟩

/-- A sequence is read as the character of its code point. -/
theorem ofBytes_cons {first : UInt8} (hranges : tailRanges? first = some ranges)
    (rest : List UInt8) :
    ofBytes (first :: (tail ++ rest)) =
      .char (Char.ofNat (codePoint first tail)) :: ofBytes rest := by
  rw [ofBytes]
  simp only [hranges, h.fitting_append, h.length_eq, if_true]
  rw [← h.length_eq, List.drop_left]

end Within

/-! What stands behind the first octet of a sequence of one to four, by the number in it. -/

theorem tailRanges?_one : ∀ n < 128, tailRanges? (UInt8.ofNat n) = some [] := by
  decide

theorem tailRanges?_two :
    ∀ n < 32, 2 ≤ n → tailRanges? (UInt8.ofNat (n + 192)) = some [(0x80, 0xBF)] := by
  decide

theorem tailRanges?_three : ∀ n < 16, tailRanges? (UInt8.ofNat (n + 224)) =
    some [(if n = 0 then 0xA0 else 0x80, if n = 13 then 0x9F else 0xBF), (0x80, 0xBF)] := by
  decide

theorem tailRanges?_four : ∀ n < 5, tailRanges? (UInt8.ofNat (n + 240)) =
    some [(if n = 0 then 0x90 else 0x80, if n = 4 then 0x8F else 0xBF), (0x80, 0xBF),
      (0x80, 0xBF)] := by
  decide

/-- An octet lies in a range if its number does. -/
theorem Within.ofNat {low high : UInt8} {n : Nat} {ranges : List (UInt8 × UInt8)}
    {rest : List UInt8} (hlow : low.toNat ≤ n) (hhigh : n ≤ high.toNat)
    (hrest : Within ranges rest) : Within ((low, high) :: ranges) (UInt8.ofNat n :: rest) := by
  have hnumber : (UInt8.ofNat n).toNat = n :=
    UInt8.toNat_ofNat_of_lt' (Nat.lt_of_le_of_lt hhigh high.toNat_lt)
  refine .cons ?_ ?_ hrest <;> rwa [UInt8.le_iff_toNat_le, hnumber]

theorem Within.following (n : Nat) {ranges : List (UInt8 × UInt8)} {rest : List UInt8}
    (hrest : Within ranges rest) :
    Within ((0x80, 0xBF) :: ranges) (UInt8.ofNat (n % 64 + 128) :: rest) :=
  .ofNat (Nat.le_add_left ..) (by simp only [UInt8.reduceToNat]; omega) hrest

/-- A character is read from its sequence, whatever stands behind. -/
theorem ofBytes_utf8EncodeChar (c : Char) (rest : List UInt8) :
    ofBytes (String.utf8EncodeChar c ++ rest) = .char c :: ofBytes rest := by
  obtain ⟨v, hv⟩ : ∃ v, v = c.val.toNat := ⟨_, rfl⟩
  have hvalid : v < 0xD800 ∨ 0xDFFF < v ∧ v < 0x110000 := hv ▸ c.valid
  -- It is enough that the sequence lies in its ranges and has the number of the character.
  have hread {first : UInt8} {ranges : List (UInt8 × UInt8)} {tail : List UInt8}
      (hranges : tailRanges? first = some ranges) (htail : Within ranges tail)
      (hpoint : codePoint first tail = v) :
      ofBytes (first :: tail ++ rest) = .char c :: ofBytes rest := by
    have hchar : Char.ofNat v = c := hv ▸ Char.ofNat_toNat c
    rw [List.cons_append, htail.ofBytes_cons hranges, hpoint, hchar]
  rw [String.utf8EncodeChar.eq_1, ← hv]
  split
  · exact hread (tailRanges?_one v (by omega)) .nil (by simp [codePoint]; omega)
  split
  · refine hread (tailRanges?_two _ (by omega) (by omega)) (Within.nil.following _) ?_
    simp [codePoint]
    omega
  split
  · refine hread (tailRanges?_three _ (by omega)) (.ofNat ?_ ?_ (Within.nil.following _)) ?_
    · split <;> simp only [UInt8.reduceToNat] <;> omega
    · split <;> simp only [UInt8.reduceToNat] <;> omega
    · simp [codePoint]
      omega
  · have hfour : v / 262144 % 8 < 5 := by omega
    refine hread (tailRanges?_four _ hfour)
      (.ofNat ?_ ?_ ((Within.nil.following _).following _)) ?_
    · split <;> simp only [UInt8.reduceToNat] <;> omega
    · split <;> simp only [UInt8.reduceToNat] <;> omega
    · simp [codePoint]
      omega

/-- **What is written for characters is read as these characters.** -/
theorem ofBytes_encoded (text : List Char) : ofBytes (encoded text) = text.map .char := by
  induction text with
  | nil => rw [encoded, List.flatMap_nil, ofBytes]; rfl
  | cons c rest ih =>
    rw [encoded, List.flatMap_cons, ofBytes_utf8EncodeChar]
    exact congrArg _ ih

/-- A text is read back from its octets. -/
theorem chars?_ofBytes_toUTF8 (text : List Char) :
    (ofBytes (String.ofList text).toUTF8.toList).chars? = some text := by
  rw [toUTF8_ofList, ofBytes_encoded, chars?_eq_some_iff]

end Raw

end Flowmeter.Text
