import Flowmeter.Address.Basic

/-! Addresses as people write them.

The older family is written as four decimal numbers with points, the newer one as groups
in lower case without leading zeros, with the first longest run of at least two zero
groups as a double colon. Only an address that embeds one of the older family behind
`::ffff:` has a decimal part. -/
namespace Flowmeter.Address

/-- Numbers in decimal with points between them. -/
def dotted (octets : List UInt8) : List Char :=
  ['.'].intercalate (octets.map fun octet => Nat.toDigits 10 octet.toNat)

/-- The 16 bit groups of the octets. -/
def groups : List UInt8 → List Nat
  | high :: low :: rest => (256 * high.toNat + low.toNat) :: groups rest
  | _ => []

/-- Groups in hexadecimal with colons between them. -/
def colons (groups : List Nat) : List Char :=
  [':'].intercalate (groups.map (Nat.toDigits 16))

/-- How many groups from `start` on are zero. -/
def zeroRun (groups : List Nat) (start : Nat) : Nat :=
  ((groups.drop start).takeWhile (· == 0)).length

/-- Where the first longest run of zero groups starts. -/
def longestRun (groups : List Nat) : Nat :=
  (List.range groups.length).foldl
    (fun best start => if zeroRun groups best < zeroRun groups start then start else best) 0

/-- The groups with the first longest run of zeros shortened. -/
def compressed (groups : List Nat) : List Char :=
  let start := longestRun groups
  let length := zeroRun groups start
  if length < 2 then colons groups
  else colons (groups.take start) ++ [':', ':'] ++ colons (groups.drop (start + length))

/-- What the octets of an embedded address of the older family follow. -/
def embedding : List UInt8 := List.replicate 10 0 ++ [0xFF, 0xFF]

/-- The written form. -/
def written : Address → List Char
  | v4 octets => dotted octets.toList
  | v6 octets =>
    if octets.toList.take 12 = embedding then
      "::ffff:".toList ++ dotted (octets.toList.drop 12)
    else compressed (groups octets.toList)

/-- The written form. -/
def text (address : Address) : String := String.ofList address.written

/-! ### No written form is empty -/

theorem intercalate_ne_nil {separator : List Char} {parts : List (List Char)} (h : parts ≠ [])
    (hparts : ∀ part ∈ parts, part ≠ []) : separator.intercalate parts ≠ [] := by
  cases parts with
  | nil => exact absurd rfl h
  | cons first rest =>
    have hfirst : first ≠ [] := hparts first (List.mem_cons_self ..)
    cases rest with
    | nil => simpa using hfirst
    | cons second rest =>
      rw [List.intercalate_cons_cons]
      simp [hfirst]

theorem dotted_ne_nil {octets : List UInt8} (h : octets ≠ []) : dotted octets ≠ [] := by
  refine intercalate_ne_nil (by simpa using h) fun part hpart => ?_
  obtain ⟨octet, -, rfl⟩ := List.mem_map.1 hpart
  exact Nat.toDigits_ne_nil

theorem colons_ne_nil {groups : List Nat} (h : groups ≠ []) : colons groups ≠ [] := by
  refine intercalate_ne_nil (by simpa using h) fun part hpart => ?_
  obtain ⟨group, -, rfl⟩ := List.mem_map.1 hpart
  exact Nat.toDigits_ne_nil

theorem compressed_ne_nil {groups : List Nat} (h : groups ≠ []) : compressed groups ≠ [] := by
  simp only [compressed]
  split
  · exact colons_ne_nil h
  · simp

theorem groups_ne_nil {octets : List UInt8} (h : 2 ≤ octets.length) : groups octets ≠ [] := by
  match octets, h with
  | high :: low :: rest, _ => simp [groups]

theorem written_ne_nil (address : Address) : address.written ≠ [] := by
  cases address with
  | v4 octets => exact dotted_ne_nil (List.ne_nil_of_length_pos (by simp))
  | v6 octets =>
    rw [written]
    split
    · exact List.append_ne_nil_of_left_ne_nil (by decide) _
    · exact compressed_ne_nil (groups_ne_nil (by simp))

theorem text_ne_empty (address : Address) : address.text ≠ "" := fun h =>
  address.written_ne_nil (String.ofList_eq_empty_iff.1 h)

end Flowmeter.Address
