import Flowmeter.Proofs.Text.Octets
import Flowmeter.Socket.Row

/-! The addresses that fields of a socket table stand for.

The kernel takes each four octets of an address as one number, least significant octet first,
and prints it with eight digits (`printed`). A field is an address if and only if it is this
form of one, in digits of either case (`ofKernelForm?_eq_some_iff`). `readSliced` reads a field
the way it lies in memory, cut at offsets of octets: no cut goes through a character, and the
result is the same (`readSliced_eq`). -/
namespace Flowmeter

namespace Address

open Text (Hex.padded encoded isHexOctet)

/-! ### Printed addresses -/

/-- The number that octets write, least significant first. -/
def littleEndian (octets : List UInt8) : Nat := Nat.ofDigits 256 (octets.map UInt8.toNat)

/-- Octets as the kernel prints them, each four as one number with eight digits. -/
def printedWords : List UInt8 → List Char
  | a :: b :: c :: d :: rest =>
    (Hex.padded 8 (littleEndian [a, b, c, d])).toList ++ printedWords rest
  | _ => []

/-- An address as the kernel prints it. -/
def printed (address : Address) : List Char := printedWords address.octets

/-- A number of so many octets has their digits, those of the last octet in front. -/
theorem padded_littleEndian {octets : List UInt8} (hne : octets ≠ []) :
    (Hex.padded (2 * octets.length) (littleEndian octets)).toList =
      Text.Hex.ofBytes octets.reverse := by
  induction octets with
  | nil => exact absurd rfl hne
  | cons a rest ih =>
    have ha : a.toNat < 256 := a.toNat_lt
    have hword : littleEndian (a :: rest) = a.toNat + 256 * littleEndian rest :=
      Nat.ofDigits_cons ..
    have hdiv : littleEndian (a :: rest) / 16 / 16 = littleEndian rest := by omega
    have hhigh : littleEndian (a :: rest) / 16 % 16 = a.toNat / 16 := by omega
    have hlow : littleEndian (a :: rest) % 16 = a.toNat % 16 := by omega
    have hlast : Text.Hex.ofBytes (rest.reverse ++ [a]) =
        Text.Hex.ofBytes rest.reverse ++ Text.Hex.ofBytes [a] := List.flatMap_append
    rw [List.length_cons, List.reverse_cons, hlast, Nat.mul_add,
      Text.Hex.toList_padded_succ (by omega), hlow]
    by_cases hrest : rest = []
    · subst hrest
      have hzero : littleEndian [] = 0 := rfl
      have hsmall : littleEndian [a] / 16 < 16 := by omega
      have hone : littleEndian [a] / 16 = a.toNat / 16 := by omega
      rw [List.length_nil, Text.Hex.toList_padded, Text.Hex.upperDigits_eq, if_pos hsmall, hone]
      rfl
    · rw [Text.Hex.toList_padded_succ (by simp [List.length_pos_iff.2 hrest]), hdiv, hhigh,
        ih hrest, List.append_assoc]
      rfl

theorem padded_word (a b c d : UInt8) :
    (Hex.padded 8 (littleEndian [a, b, c, d])).toList = Text.Hex.ofBytes [d, c, b, a] := by
  have h := padded_littleEndian (List.cons_ne_nil a [b, c, d])
  exact h

theorem printedWords_eq {octets : List UInt8} (h : octets.length % 4 = 0) :
    printedWords octets = Text.Hex.ofBytes (reverseWords octets) := by
  fun_induction printedWords octets with
  | case1 a b c d rest ih =>
    rw [padded_word, ih (by simp only [List.length_cons] at h; omega), reverseWords]
    exact List.flatMap_append.symm
  | case2 rest hshort =>
    rcases rest with _ | ⟨a, _ | ⟨b, _ | ⟨c, _ | ⟨d, rest⟩⟩⟩⟩
    · rfl
    · cases h
    · cases h
    · cases h
    · exact absurd rfl (hshort a b c d rest)

/-- What the kernel prints is the octets with each four reversed. -/
theorem printed_eq (address : Address) : address.printed = address.kernelForm := by
  refine printedWords_eq ?_
  rw [length_octets]
  cases address.family <;> rfl

/-- **A field stands for an address if, in upper case, it is the address printed.** -/
theorem ofKernelForm?_eq_some_iff {field : List Char} {address : Address} :
    ofKernelForm? field = some address ↔ field.map Char.toUpper = address.printed := by
  rw [printed_eq, kernelForm, ← Text.Hex.bytes?_eq_some_iff]
  constructor
  · intro h
    obtain ⟨bytes, hbytes, h⟩ := Option.bind_eq_some_iff.1 h
    rw [ofOctets?_eq_some_iff.1 h, reverseWords_reverseWords]
    exact hbytes
  · intro h
    rw [ofKernelForm?, h]
    show ofOctets? (reverseWords (reverseWords address.octets)) = some address
    rw [reverseWords_reverseWords, ofOctets?_octets]

/-- Printed addresses are in upper case. -/
theorem printed_toUpper (address : Address) : address.printed.map Char.toUpper = address.printed :=
  ofKernelForm?_eq_some_iff.1 (printed_eq address ▸ ofKernelForm?_kernelForm address)

theorem printed_toLower (address : Address) :
    (address.printed.map Char.toLower).map Char.toUpper = address.printed := by
  have hdigit : ∀ value < 16, (Text.Hex.upperDigit value).toLower.toUpper =
      Text.Hex.upperDigit value := by decide
  rw [printed_eq, List.map_map]
  refine (List.map_congr_left fun c hc => ?_).trans (List.map_id _)
  obtain ⟨byte, -, hc⟩ := List.mem_flatMap.1 hc
  have hbyte : byte.toNat < 256 := byte.toNat_lt
  rcases List.mem_pair.1 hc with rfl | rfl
  · exact hdigit (byte.toNat / 16) (by omega)
  · exact hdigit (byte.toNat % 16) (by omega)

/-- Eight or thirty-two hexadecimal digits. -/
def IsField (field : List Char) : Prop :=
  (field.length = 8 ∨ field.length = 32) ∧ ∀ c ∈ field, Text.Hex.isDigit c = true

/-- A field is told by its octets. -/
theorem isField_iff {field : List Char} :
    IsField field ↔ ((encoded field).length = 8 ∨ (encoded field).length = 32) ∧
      ∀ octet ∈ encoded field, isHexOctet octet = true := by
  rw [IsField, Text.isHexOctet_encoded]
  refine and_congr_left fun hdigits => ?_
  rw [Text.length_encoded hdigits]

theorem length_reverseWords (octets : List UInt8) :
    (reverseWords octets).length = octets.length := by
  fun_induction reverseWords octets with
  | case1 a b c d rest ih => simp only [List.length_cons, ih]
  | case2 => rfl

theorem exists_ofKernelForm?_iff {field : List Char} :
    (∃ address, ofKernelForm? field = some address) ↔ IsField field := by
  constructor
  · rintro ⟨address, h⟩
    obtain ⟨bytes, hbytes, h⟩ := Option.bind_eq_some_iff.1 h
    obtain ⟨hlength, hdigits⟩ := Text.Hex.isDigit_of_bytes? hbytes
    have hoctets := congrArg List.length (ofOctets?_eq_some_iff.1 h)
    rw [length_octets, length_reverseWords] at hoctets
    refine ⟨?_, hdigits⟩
    rw [hlength, ← hoctets]
    cases address.family
    · exact .inl rfl
    · exact .inr rfl
  · rintro ⟨hlength, hdigits⟩
    obtain ⟨bytes, hbytes⟩ := Text.Hex.exists_bytes? (by omega) hdigits
    have hdouble := (Text.Hex.isDigit_of_bytes? hbytes).1
    obtain ⟨family, hfamily⟩ : ∃ family : Family, (reverseWords bytes).length = family.size := by
      rw [length_reverseWords]
      rcases hlength with h | h
      · exact ⟨.v4, show bytes.length = 4 by omega⟩
      · exact ⟨.v6, show bytes.length = 16 by omega⟩
    obtain ⟨address, haddress, -⟩ := exists_ofOctets? hfamily
    exact ⟨address, Option.bind_eq_some_iff.2 ⟨bytes, hbytes, haddress⟩⟩

theorem address_eq_ok_iff {field : List Char} {address : Address} :
    SocketRow.address field = .ok address ↔ ofKernelForm? field = some address := by
  unfold SocketRow.address
  split
  · next found h => rw [h, Except.ok.injEq, Option.some.injEq]
  · next h => rw [h]; exact ⟨nofun, nofun⟩

theorem address_eq_ok_iff_printed {field : List Char} {address : Address} :
    SocketRow.address field = .ok address ↔ field.map Char.toUpper = address.printed :=
  address_eq_ok_iff.trans ofKernelForm?_eq_some_iff

theorem address_eq_error_iff {field : List Char} {fault : InventoryError} :
    SocketRow.address field = .error fault ↔
      ¬IsField field ∧ fault = .invalidAddress (String.ofList field) := by
  rw [← exists_ofKernelForm?_iff]
  unfold SocketRow.address
  split
  · next found h => simp [h]
  · next h => simp [h, eq_comm]

/-! ### Fields cut up in memory -/

/-- The octets of the number that digits write, least significant first; none for a number that
takes more than four. -/
def wordOctets? (group : List Char) : Option (List UInt8) := do
  let n ← Text.Hex.number? group
  if n < UInt32.size then
    some [UInt8.ofNat n, UInt8.ofNat (n / 256), UInt8.ofNat (n / 65536), UInt8.ofNat (n / 16777216)]
  else none

/-- The address that a field cut up in groups stands for. -/
def ofGroups (field : List Char) (groups : List (List Char)) : Except InventoryError Address :=
  match (groups.mapM wordOctets?).bind fun words => ofOctets? words.flatten with
  | some address => .ok address
  | none => .error (.invalidAddress (String.ofList field))

/-- A field read the way it lies in memory: its octets are looked at one by one and counted, and
the groups of eight are cut out by offsets. -/
def readSliced (field : List Char) : Except Text.Torn (Except InventoryError Address) := do
  if !(encoded field).all isHexOctet then
    return .error (.invalidAddress (String.ofList field))
  match (encoded field).length with
  | 8 => return ofGroups field [field]
  | 32 =>
    let groups ← [0, 1, 2, 3].mapM fun i => Text.slice field (8 * i) (8 * (i + 1))
    return ofGroups field groups
  | _ => return .error (.invalidAddress (String.ofList field))

/-- Eight digits write the octets of their pairs, the last pair first. -/
theorem wordOctets?_eq {group : List Char} (hlength : group.length = 8)
    (hdigits : ∀ c ∈ group, Text.Hex.isDigit c = true) :
    ∃ a b c d, Text.Hex.bytes? group = some [d, c, b, a] ∧
      wordOctets? group = some [a, b, c, d] := by
  obtain ⟨bytes, hbytes⟩ := Text.Hex.exists_bytes? (by omega) hdigits
  have hfour := (Text.Hex.isDigit_of_bytes? hbytes).1
  obtain ⟨d, c, b, a, rfl⟩ : ∃ d c b a, bytes = [d, c, b, a] :=
    List.length_eq_four.1 (by omega)
  have hprinted : group.map Char.toUpper = (Hex.padded 8 (littleEndian [a, b, c, d])).toList :=
    (Text.Hex.bytes?_eq_some_iff.1 hbytes).trans (padded_word a b c d).symm
  have hvalue : Text.Hex.value group = littleEndian [a, b, c, d] := by
    rw [← Text.Hex.value_toUpper hdigits, hprinted]
    exact (Text.Hex.number?_eq_some_iff.1 (Text.Hex.number?_padded 8 _)).2.2
  have hnumber : Text.Hex.number? group = some (littleEndian [a, b, c, d]) :=
    Text.Hex.number?_eq_some_iff.2 ⟨List.ne_nil_of_length_eq_add_one hlength, hdigits, hvalue⟩
  refine ⟨a, b, c, d, hbytes, ?_⟩
  have hword : littleEndian [a, b, c, d] =
      a.toNat + 256 * (b.toNat + 256 * (c.toNat + 256 * d.toNat)) := by
    simp [littleEndian, Nat.ofDigits_cons]
  have ha : a.toNat < 256 := a.toNat_lt
  have hb : b.toNat < 256 := b.toNat_lt
  have hc : c.toNat < 256 := c.toNat_lt
  have hd : d.toNat < 256 := d.toNat_lt
  have hsmall : littleEndian [a, b, c, d] < UInt32.size := by
    rw [hword]
    show _ < 4294967296
    omega
  have hoctet (n : Nat) (octet : UInt8) (h : n % 256 = octet.toNat) : UInt8.ofNat n = octet :=
    UInt8.toNat_inj.1 (UInt8.toNat_ofNat'.trans h)
  rw [wordOctets?, hnumber]
  show (if littleEndian [a, b, c, d] < UInt32.size then _ else none) = _
  rw [if_pos hsmall, hword, hoctet _ a (by omega), hoctet _ b (by omega), hoctet _ c (by omega),
    hoctet _ d (by omega)]

theorem wordOctets?_groups {groups : List (List Char)}
    (h : ∀ group ∈ groups, group.length = 8 ∧ ∀ c ∈ group, Text.Hex.isDigit c = true) :
    ∃ words, groups.mapM wordOctets? = some words ∧
      (Text.Hex.bytes? groups.flatten).map reverseWords = some words.flatten := by
  induction groups with
  | nil => exact ⟨[], rfl, rfl⟩
  | cons group rest ih =>
    obtain ⟨⟨hlength, hdigits⟩, hrest⟩ := List.forall_mem_cons.1 h
    obtain ⟨a, b, c, d, hbytes, hword⟩ := wordOctets?_eq hlength hdigits
    obtain ⟨words, hwords, hflatten⟩ := ih hrest
    refine ⟨[a, b, c, d] :: words, ?_, ?_⟩
    · rw [List.mapM_cons, hword, hwords]
      rfl
    · obtain ⟨tail, htail, hreversed⟩ := Option.map_eq_some_iff.1 hflatten
      rw [List.flatten_cons, Text.Hex.bytes?_append hbytes, htail, List.flatten_cons, ← hreversed]
      rfl

theorem ofGroups_eq {groups : List (List Char)}
    (h : ∀ group ∈ groups, group.length = 8 ∧ ∀ c ∈ group, Text.Hex.isDigit c = true) :
    ofGroups groups.flatten groups = SocketRow.address groups.flatten := by
  obtain ⟨words, hwords, hbytes⟩ := wordOctets?_groups h
  obtain ⟨bytes, hbytes, hreversed⟩ := Option.map_eq_some_iff.1 hbytes
  have hread : ofKernelForm? groups.flatten = ofOctets? words.flatten := by
    rw [ofKernelForm?, hbytes, ← hreversed]
    rfl
  rw [ofGroups, hwords, SocketRow.address, hread]
  rfl

/-- The four groups of a long field. -/
def quarters (field : List Char) : List (List Char) :=
  [0, 1, 2, 3].map fun i => (field.drop (8 * i)).take 8

theorem flatten_quarters {field : List Char} (h : field.length = 32) :
    (quarters field).flatten = field := by
  have hlast : (field.drop 24).take 8 = field.drop 24 :=
    List.take_of_length_le (by rw [List.length_drop, h])
  have hnext (i : Nat) : (field.drop i).take 8 ++ field.drop (i + 8) = field.drop i := by
    rw [← List.drop_drop, List.take_append_drop]
  calc (quarters field).flatten
      = (field.drop 0).take 8 ++ ((field.drop 8).take 8 ++ ((field.drop 16).take 8 ++
          (field.drop 24).take 8)) := by simp [quarters]
    _ = field := by rw [hlast, hnext 16, hnext 8, hnext 0, List.drop_zero]

theorem quarters_digits {field : List Char} (h : field.length = 32)
    (hdigits : ∀ c ∈ field, Text.Hex.isDigit c = true) :
    ∀ group ∈ quarters field, group.length = 8 ∧ ∀ c ∈ group, Text.Hex.isDigit c = true := by
  intro group hgroup
  obtain ⟨i, hi, rfl⟩ := List.mem_map.1 hgroup
  have hi : i < 4 := by
    simp only [List.mem_cons, List.not_mem_nil, or_false] at hi
    omega
  refine ⟨?_, fun c hc => hdigits c (List.mem_of_mem_drop (List.mem_of_mem_take hc))⟩
  rw [List.length_take, List.length_drop]
  omega

/-- **No cut goes through a character**, and a field cut up stands for the same. -/
theorem readSliced_eq (field : List Char) : readSliced field = .ok (SocketRow.address field) := by
  have hrefused (h : ¬IsField field) : SocketRow.address field =
      .error (.invalidAddress (String.ofList field)) := address_eq_error_iff.2 ⟨h, rfl⟩
  unfold readSliced
  by_cases hoctets : (encoded field).all isHexOctet = true
  · have hdigits := (Text.isHexOctet_encoded field).1 (List.all_eq_true.1 hoctets)
    rw [hoctets, Text.length_encoded hdigits]
    show (match field.length with
      | 8 => _
      | 32 => _
      | _ => _) = _
    split
    · next hlength =>
      have hread := ofGroups_eq (List.forall_mem_singleton.2 ⟨hlength, hdigits⟩)
      rw [List.flatten_singleton] at hread
      exact congrArg Except.ok hread
    · next hlength =>
      have hslice (i : Nat) (hi : i < 4) :
          Text.slice field (8 * i) (8 * (i + 1)) = .ok ((field.drop (8 * i)).take 8) := by
        have hcount : 8 * (i + 1) - 8 * i = 8 := by omega
        rw [Text.slice_digits hdigits (by omega) (by omega), hcount]
      have hread := ofGroups_eq (quarters_digits hlength hdigits)
      rw [flatten_quarters hlength] at hread
      simp only [List.mapM_cons, List.mapM_nil, hslice 0 (by decide), hslice 1 (by decide),
        hslice 2 (by decide), hslice 3 (by decide)]
      exact congrArg Except.ok hread
    · next hshort hlong =>
      rw [hrefused fun h => h.1.elim hshort hlong]
      rfl
  · have hnot : ¬IsField field := fun h =>
      hoctets (List.all_eq_true.2 ((Text.isHexOctet_encoded field).2 h.2))
    rw [Bool.eq_false_iff.2 hoctets, hrefused hnot]
    rfl

/-- **Fields are printed addresses.** A printed address is read back, in upper and in lower
case, and a field is read as the address whose printed form it is up to case. What is read is
eight or thirty-two octets, all of them digits of ASCII; any other field is refused and named as
it stands. Cutting the field at offsets of octets gives the same, and no cut goes wrong. -/
theorem fields_are_printed_addresses :
    (∀ address : Address, SocketRow.address address.printed = .ok address ∧
      SocketRow.address (address.printed.map Char.toLower) = .ok address) ∧
    (∀ field address, SocketRow.address field = .ok address ↔
      field.map Char.toUpper = address.printed) ∧
    (∀ field, (∃ address, SocketRow.address field = .ok address) ↔
      ((encoded field).length = 8 ∨ (encoded field).length = 32) ∧
        ∀ octet ∈ encoded field, isHexOctet octet = true) ∧
    (∀ field fault, SocketRow.address field = .error fault ↔
      ¬(((encoded field).length = 8 ∨ (encoded field).length = 32) ∧
        ∀ octet ∈ encoded field, isHexOctet octet = true) ∧
      fault = .invalidAddress (String.ofList field)) ∧
    ∀ field, readSliced field = .ok (SocketRow.address field) := by
  refine ⟨fun address => ?_, fun field address => address_eq_ok_iff_printed, fun field => ?_,
    fun field fault => ?_, readSliced_eq⟩
  · rw [address_eq_ok_iff_printed, address_eq_ok_iff_printed]
    exact ⟨printed_toUpper address, printed_toLower address⟩
  · simp only [address_eq_ok_iff]
    rw [exists_ofKernelForm?_iff, isField_iff]
  · rw [address_eq_error_iff, isField_iff]

end Address

end Flowmeter
