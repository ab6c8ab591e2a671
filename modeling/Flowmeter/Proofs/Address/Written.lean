import Mathlib.Data.List.DropRight
import Flowmeter.Address.Written
import Flowmeter.Proofs.Text.Numbers

/-! Written addresses are told apart.

A text is split at its marks. The numbers of an address of the older family come back from between
the points (`dotted_inj`). Of the newer family the groups come back from between the colons: those
in front of the first empty field and those behind the last one are as they were, and zeros make
up for what is missing (`expanded_compressed`). Which of the forms a text has is told by the marks
in it, so no two addresses are written alike (`text_inj`). -/
namespace Flowmeter.Address

open Text (Hex.isDigit)

/-! ### Marks -/

theorem mem_intercalate {mark c : Char} {parts : List (List Char)}
    (h : c ∈ [mark].intercalate parts) : c = mark ∨ ∃ part ∈ parts, c ∈ part := by
  induction parts with
  | nil => exact absurd h List.not_mem_nil
  | cons first rest ih =>
    cases rest with
    | nil => exact .inr ⟨first, List.mem_cons_self .., by simpa using h⟩
    | cons second rest =>
      rw [List.intercalate_cons_cons, List.append_assoc] at h
      rcases List.mem_append.1 h with h | h
      · exact .inr ⟨first, List.mem_cons_self .., h⟩
      · rcases List.mem_cons.1 h with h | h
        · exact .inl h
        · exact (ih h).imp_right fun ⟨part, hpart, hc⟩ => ⟨part, List.mem_cons_of_mem _ hpart, hc⟩

/-- Where there are two parts there is a mark. -/
theorem mark_mem_intercalate {parts : List (List Char)} (mark : Char) (h : 2 ≤ parts.length) :
    mark ∈ [mark].intercalate parts := by
  match parts, h with
  | first :: second :: rest, _ =>
    rw [List.intercalate_cons_cons]
    simp

theorem mem_dotted {octets : List UInt8} {c : Char} (h : c ∈ dotted octets) :
    Hex.isDigit c = true ∨ c = '.' := by
  rcases mem_intercalate h with rfl | ⟨part, hpart, hc⟩
  · exact .inr rfl
  · obtain ⟨octet, -, rfl⟩ := List.mem_map.1 hpart
    exact .inl (Text.Hex.isDigit_of_decimal (Text.Numeral.isDigit_of_mem_toDigits hc))

theorem mem_colons {groups : List Nat} {c : Char} (h : c ∈ colons groups) :
    Hex.isDigit c = true ∨ c = ':' := by
  rcases mem_intercalate h with rfl | ⟨part, hpart, hc⟩
  · exact .inr rfl
  · obtain ⟨group, -, rfl⟩ := List.mem_map.1 hpart
    exact .inl (Text.Hex.isDigit_of_mem_toDigits hc)

/-! ### Numbers between points -/

theorem splitOn_dotted {octets : List UInt8} (h : octets ≠ []) :
    (dotted octets).splitOn '.' = octets.map fun octet => Nat.toDigits 10 octet.toNat := by
  refine List.splitOn_intercalate '.' (fun part hpart hmark => ?_) (by simpa using h)
  obtain ⟨octet, -, rfl⟩ := List.mem_map.1 hpart
  exact absurd (Text.Numeral.isDigit_of_mem_toDigits hmark) (by decide)

theorem dotted_inj {a b : List UInt8} (ha : a ≠ []) (hb : b ≠ []) (h : dotted a = dotted b) :
    a = b := by
  have hparts := congrArg (List.splitOn '.') h
  rw [splitOn_dotted ha, splitOn_dotted hb] at hparts
  refine (List.map_injective_iff.2 fun x y hxy => ?_) hparts
  exact UInt8.toNat_inj.1 (Text.Numeral.toDigits_inj hxy)

/-! ### Groups between colons -/

/-- The groups that fields stand for. -/
def groupsOf (fields : List (List Char)) : List Nat := fields.map Text.Hex.value

theorem groupsOf_digits (groups : List Nat) :
    groupsOf (groups.map (Nat.toDigits 16)) = groups := by
  have hvalue : Text.Hex.value ∘ Nat.toDigits 16 = id := funext Text.Hex.value_toDigits
  rw [groupsOf, List.map_map, hvalue, List.map_id]

/-- The groups in front of the first empty field. -/
def leading (text : List Char) : List Nat :=
  groupsOf ((text.splitOn ':').takeWhile (!·.isEmpty))

/-- The groups behind the last empty field. -/
def trailing (text : List Char) : List Nat :=
  groupsOf ((text.splitOn ':').rtakeWhile (!·.isEmpty))

/-- So many groups as a text stands for: zeros make up for what an empty field leaves out. -/
def expanded (count : Nat) (text : List Char) : List Nat :=
  if (leading text).length = count then leading text
  else
    leading text ++
      List.replicate (count - (leading text).length - (trailing text).length) 0 ++ trailing text

theorem splitOn_colons (groups : List Nat) :
    (colons groups).splitOn ':' =
      if groups = [] then [[]] else groups.map (Nat.toDigits 16) := by
  split
  · next h =>
    subst h
    rfl
  · next h =>
    refine List.splitOn_intercalate ':' (fun part hpart hmark => ?_) (by simpa using h)
    obtain ⟨group, -, rfl⟩ := List.mem_map.1 hpart
    exact absurd (Text.Hex.isDigit_of_mem_toDigits hmark) (by decide)

section Fields
variable {fields : List (List Char)} (hfields : ∀ field ∈ fields, field ≠ [])
  (more : List (List Char))
include hfields

theorem takeWhile_fields : (fields ++ [] :: more).takeWhile (!·.isEmpty) = fields := by
  rw [List.takeWhile_append_of_pos fun field hfield => by simp [hfields field hfield],
    List.takeWhile_cons_of_neg (by simp), List.append_nil]

theorem rtakeWhile_fields : (more ++ [] :: fields).rtakeWhile (!·.isEmpty) = fields := by
  rw [List.rtakeWhile, List.reverse_append, List.reverse_cons, List.append_assoc,
    List.singleton_append, takeWhile_fields (by simpa using hfields), List.reverse_reverse]

end Fields

theorem digits_ne_nil {groups : List Nat} :
    ∀ field ∈ groups.map (Nat.toDigits 16), field ≠ [] := by
  intro field hfield
  obtain ⟨group, -, rfl⟩ := List.mem_map.1 hfield
  exact Nat.toDigits_ne_nil

theorem leading_colons (groups : List Nat) : leading (colons groups) = groups := by
  rw [leading, splitOn_colons]
  split
  · next h =>
    subst h
    rfl
  · have hall : (groups.map (Nat.toDigits 16)).takeWhile (!·.isEmpty) =
        groups.map (Nat.toDigits 16) :=
      List.takeWhile_eq_self_iff.2 fun field hfield => by simp [digits_ne_nil field hfield]
    rw [hall, groupsOf_digits]

section Shortened
variable (front back : List Nat)

theorem splitOn_shortened :
    (colons front ++ [':', ':'] ++ colons back).splitOn ':' =
      (colons front).splitOn ':' ++ [] :: (colons back).splitOn ':' := by
  rw [List.append_assoc]
  show (colons front ++ ':' :: ([] ++ ':' :: colons back)).splitOn ':' = _
  rw [List.splitOn_append_cons_self, List.splitOn_append_cons_self]
  rfl

theorem leading_shortened : leading (colons front ++ [':', ':'] ++ colons back) = front := by
  rw [leading, splitOn_shortened, splitOn_colons front]
  split
  · next h =>
    subst h
    rfl
  · rw [takeWhile_fields digits_ne_nil, groupsOf_digits]

theorem trailing_shortened : trailing (colons front ++ [':', ':'] ++ colons back) = back := by
  rw [trailing, splitOn_shortened, splitOn_colons back]
  split
  · next h =>
    subst h
    have hnone : ∀ field ∈ ([] : List (List Char)), field ≠ [] := by simp
    have hends := rtakeWhile_fields hnone ((colons front).splitOn ':' ++ [[]])
    rw [List.append_assoc, List.singleton_append] at hends
    rw [hends]
    rfl
  · rw [rtakeWhile_fields digits_ne_nil, groupsOf_digits]

end Shortened

/-- A run of zeros between what stands in front and behind. -/
theorem eq_zeroRun (groups : List Nat) (start : Nat) :
    groups = groups.take start ++ List.replicate (zeroRun groups start) 0 ++
      groups.drop (start + zeroRun groups start) := by
  have hzeros : (groups.drop start).takeWhile (· == 0) =
      List.replicate (zeroRun groups start) 0 :=
    List.eq_replicate_iff.2 ⟨rfl, fun group hgroup => by
      simpa using List.mem_takeWhile_imp hgroup⟩
  have hrest : (groups.drop start).dropWhile (· == 0) =
      groups.drop (start + zeroRun groups start) := by
    have hsplit := List.takeWhile_append_dropWhile (p := (· == 0)) (l := groups.drop start)
    rw [← List.drop_drop]
    nth_rewrite 2 [← hsplit]
    exact (List.drop_left' rfl).symm
  rw [← hzeros, ← hrest, List.append_assoc, List.takeWhile_append_dropWhile,
    List.take_append_drop]

/-- **The groups come back from the shortened text**, if it is known how many they are. -/
theorem expanded_compressed (groups : List Nat) :
    expanded groups.length (compressed groups) = groups := by
  simp only [compressed]
  split
  · rw [expanded, leading_colons, if_pos rfl]
  · next hrun =>
    have hgroups := eq_zeroRun groups (longestRun groups)
    have hlength := congrArg List.length hgroups
    simp only [List.length_append, List.length_replicate] at hlength
    rw [expanded, leading_shortened, trailing_shortened, if_neg (by omega)]
    have hmissing : groups.length - (groups.take (longestRun groups)).length -
        (groups.drop (longestRun groups + zeroRun groups (longestRun groups))).length =
          zeroRun groups (longestRun groups) := by omega
    rw [hmissing]
    exact hgroups.symm

theorem length_groups (octets : List UInt8) : (groups octets).length = octets.length / 2 := by
  fun_induction groups octets with
  | case1 high low rest ih => simp only [List.length_cons]; omega
  | case2 octets h =>
    match octets, h with
    | [], _ | [_], _ => simp
    | high :: low :: rest, h => exact absurd rfl (h high low rest)

theorem groups_inj {a b : List UInt8} (heven : a.length % 2 = 0) (hlength : a.length = b.length)
    (h : groups a = groups b) : a = b := by
  fun_induction groups a generalizing b with
  | case1 high low rest ih =>
    match b, hlength with
    | high' :: low' :: rest', hlength =>
      obtain ⟨hgroup, hgroups⟩ := List.cons.inj h
      simp only [List.length_cons] at heven hlength
      have hlow : low.toNat < 256 := low.toNat_lt
      have hlow' : low'.toNat < 256 := low'.toNat_lt
      have hhighs : high = high' := UInt8.toNat_inj.1 (by omega)
      have hlows : low = low' := UInt8.toNat_inj.1 (by omega)
      rw [ih (by omega) (by omega) hgroups, hhighs, hlows]
  | case2 octets hshort =>
    match octets, hshort with
    | [], _ => exact (List.eq_nil_of_length_eq_zero hlength.symm).symm
    | high :: low :: rest, hshort => exact absurd rfl (hshort high low rest)

/-! ### Addresses -/

theorem mem_compressed {groups : List Nat} {c : Char} (h : c ∈ compressed groups) :
    Hex.isDigit c = true ∨ c = ':' := by
  simp only [compressed] at h
  split at h
  · exact mem_colons h
  · simp only [List.mem_append, List.mem_cons, List.not_mem_nil, or_false] at h
    rcases h with (h | h) | h
    · exact mem_colons h
    · exact .inr (h.elim id id)
    · exact mem_colons h

theorem colon_mem_compressed {groups : List Nat} (h : 2 ≤ groups.length) :
    ':' ∈ compressed groups := by
  simp only [compressed]
  split
  · exact mark_mem_intercalate ':' (by simpa using h)
  · simp

theorem mem_written {address : Address} {c : Char} (h : c ∈ address.written) :
    Hex.isDigit c = true ∨ c = ':' ∨ c = '.' := by
  cases address with
  | v4 octets => exact (mem_dotted h).imp_right .inr
  | v6 octets =>
    rw [written] at h
    split at h
    · rcases List.mem_append.1 h with h | h
      · have hmarks : "::ffff:".toList.all (fun c => Hex.isDigit c || c == ':') = true := by decide
        have hmark := List.all_eq_true.1 hmarks c h
        rw [Bool.or_eq_true, beq_iff_eq] at hmark
        exact hmark.imp_right .inl
      · exact (mem_dotted h).imp_right .inr
    · exact (mem_compressed h).imp_right .inl

theorem colon_mem_written_iff {address : Address} :
    ':' ∈ address.written ↔ address.family = .v6 := by
  cases address with
  | v4 octets =>
    refine ⟨fun h => ?_, fun h => Family.noConfusion h⟩
    rcases mem_dotted h with h | h <;> exact absurd h (by decide)
  | v6 octets =>
    refine ⟨fun _ => rfl, fun _ => ?_⟩
    rw [written]
    split
    · exact List.mem_append_left _ (by decide)
    · exact colon_mem_compressed (by simp [length_groups])

theorem point_mem_written_iff {octets : Vector UInt8 16} :
    '.' ∈ (v6 octets).written ↔ octets.toList.take 12 = embedding := by
  rw [written]
  split
  · next hembedded =>
    refine iff_of_true (List.mem_append_right _ ?_) hembedded
    exact mark_mem_intercalate '.' (by simp)
  · next hembedded =>
    refine iff_of_false (fun h => ?_) hembedded
    rcases mem_compressed h with h | h <;> exact absurd h (by decide)

/-- The newer family's written forms are told apart. -/
theorem v6_written_inj {a b : Vector UInt8 16} (h : (v6 a).written = (v6 b).written) : a = b := by
  have hembedded : a.toList.take 12 = embedding ↔ b.toList.take 12 = embedding := by
    rw [← point_mem_written_iff, ← point_mem_written_iff, h]
  refine Vector.toList_inj.1 ?_
  by_cases ha : a.toList.take 12 = embedding
  · have hb := hembedded.1 ha
    rw [written, written, if_pos ha, if_pos hb] at h
    have hdrop := dotted_inj (List.ne_nil_of_length_pos (by simp))
      (List.ne_nil_of_length_pos (by simp)) (List.append_cancel_left h)
    rw [← List.take_append_drop 12 a.toList, ← List.take_append_drop 12 b.toList, ha, hb, hdrop]
  · have hb := mt hembedded.2 ha
    rw [written, written, if_neg ha, if_neg hb] at h
    have hcount (octets : Vector UInt8 16) : (groups octets.toList).length = 8 := by
      simp [length_groups]
    have hgroups := congrArg (expanded 8) h
    rw [← hcount a, expanded_compressed, hcount a, ← hcount b, expanded_compressed] at hgroups
    exact groups_inj (by simp) (by simp) hgroups

/-- **No two addresses are written alike.** -/
theorem written_inj {a b : Address} : a.written = b.written ↔ a = b := by
  refine ⟨fun h => ?_, congrArg written⟩
  have hfamily : a.family = .v6 ↔ b.family = .v6 := by
    rw [← colon_mem_written_iff, ← colon_mem_written_iff, h]
  cases a with
  | v4 a =>
    cases b with
    | v4 b =>
      have hoctets := dotted_inj (List.ne_nil_of_length_pos (by simp))
        (List.ne_nil_of_length_pos (by simp)) h
      rw [Vector.toList_inj.1 hoctets]
    | v6 b => exact Family.noConfusion (hfamily.2 rfl)
  | v6 a =>
    cases b with
    | v4 b => exact Family.noConfusion (hfamily.1 rfl)
    | v6 b => rw [v6_written_inj h]

end Flowmeter.Address
