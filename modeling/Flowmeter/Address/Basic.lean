import Flowmeter.Ranked

/-! Internet addresses.

An address is its octets in network order. Every address of the older family
comes before every address of the newer one, and within a family addresses are
ordered as the numbers their octets write. -/
namespace Flowmeter

/-- How many numbers so many octets write. -/
def octetSpan : Nat → Nat
  | 0 => 1
  | length + 1 => 256 * octetSpan length

/-- The number that octets write, most significant first. -/
def octetNumber : List UInt8 → Nat
  | [] => 0
  | octet :: rest => octet.toNat * octetSpan rest.length + octetNumber rest

theorem octetNumber_lt (octets : List UInt8) : octetNumber octets < octetSpan octets.length := by
  induction octets with
  | nil => exact Nat.zero_lt_one
  | cons octet rest ih =>
    have h : octet.toNat + 1 ≤ 256 := octet.toNat_lt
    have := Nat.mul_le_mul_right (octetSpan rest.length) h
    rw [Nat.add_mul, Nat.one_mul] at this
    simp only [octetNumber, List.length_cons, octetSpan]
    omega

theorem octetNumber_inj {a b : List UInt8} (hlen : a.length = b.length)
    (h : octetNumber a = octetNumber b) : a = b := by
  induction a generalizing b with
  | nil => exact (List.eq_nil_of_length_eq_zero hlen.symm).symm
  | cons x xs ih =>
    cases b with
    | nil => simp at hlen
    | cons y ys =>
      have hlen' : xs.length = ys.length := by simpa using hlen
      have hx := octetNumber_lt xs
      have hy := octetNumber_lt ys
      rw [hlen'] at hx
      simp only [octetNumber, hlen'] at h
      have hxy : x.toNat = y.toNat := by
        have hdx := Nat.mul_add_div (Nat.lt_of_le_of_lt (Nat.zero_le _) hx) x.toNat (octetNumber xs)
        have hdy := Nat.mul_add_div (Nat.lt_of_le_of_lt (Nat.zero_le _) hy) y.toNat (octetNumber ys)
        rw [Nat.mul_comm, h, Nat.div_eq_of_lt hx] at hdx
        rw [Nat.mul_comm, Nat.div_eq_of_lt hy] at hdy
        omega
      rw [hxy] at h
      rw [UInt8.toNat_inj.1 hxy, ih hlen' (Nat.add_left_cancel h)]

/-- The two kinds of address. -/
inductive Family
  | v4
  | v6
  deriving DecidableEq, Repr

/-- The number of octets of an address. -/
def Family.size : Family → Nat
  | v4 => 4
  | v6 => 16

/-- An internet address. -/
inductive Address
  | v4 (octets : Vector UInt8 4)
  | v6 (octets : Vector UInt8 16)
  deriving DecidableEq, Repr

namespace Address

def family : Address → Family
  | v4 _ => .v4
  | v6 _ => .v6

/-- The octets in network order. -/
def octets : Address → List UInt8
  | v4 octets => octets.toList
  | v6 octets => octets.toList

/-- An address of the older family. -/
def quad (a b c d : UInt8) : Address := v4 #v[a, b, c, d]

/-- The address with these octets: four of one family, sixteen of the other. -/
def ofOctets? (octets : List UInt8) : Option Address :=
  if h : octets.length = 4 then some (v4 ⟨octets.toArray, by simpa using h⟩)
  else if h : octets.length = 16 then some (v6 ⟨octets.toArray, by simpa using h⟩)
  else none

/-- The address of a family that stands for every local address of it. -/
def wildcard : Family → Address
  | .v4 => v4 (.replicate 4 0)
  | .v6 => v6 (.replicate 16 0)

def isWildcard (address : Address) : Bool := address = wildcard address.family

theorem ofOctets?_octets (address : Address) : ofOctets? address.octets = some address := by
  rcases address with ⟨⟨array, h⟩⟩ | ⟨⟨array, h⟩⟩ <;> simp [ofOctets?, octets, Vector.toList, h]

theorem length_octets (address : Address) : address.octets.length = address.family.size := by
  cases address <;> simp [octets, family, Family.size]

theorem ofOctets?_eq_some_iff {octets : List UInt8} {address : Address} :
    ofOctets? octets = some address ↔ address.octets = octets := by
  constructor
  · intro h
    rw [ofOctets?] at h
    split at h
    · obtain rfl := Option.some.inj h
      rfl
    · split at h
      · obtain rfl := Option.some.inj h
        rfl
      · cases h
  · rintro rfl
    exact ofOctets?_octets address

theorem octets_inj {a b : Address} (h : a.octets = b.octets) : a = b :=
  Option.some.inj ((ofOctets?_eq_some_iff.2 h).symm.trans (ofOctets?_octets b))

/-- So many octets as a family asks for are an address of that family. -/
theorem exists_ofOctets? {family : Family} {octets : List UInt8} (h : octets.length = family.size) :
    ∃ address, ofOctets? octets = some address ∧ address.family = family := by
  cases family with
  | v4 => exact ⟨_, dif_pos h, rfl⟩
  | v6 =>
    have hother : ¬octets.length = 4 := by
      rw [h]
      decide
    exact ⟨_, (dif_neg hother).trans (dif_pos h), rfl⟩

instance : Ranked Address where
  rank
    | v4 octets => octetNumber octets.toList
    | v6 octets => octetSpan 4 + octetNumber octets.toList
  rank_injective a b h := by
    have lt4 (o : Vector UInt8 4) : octetNumber o.toList < octetSpan 4 := by
      simpa using octetNumber_lt o.toList
    cases a with
    | v4 a =>
      cases b with
      | v4 b => exact congrArg v4 (Vector.toList_inj.1 (octetNumber_inj (by simp) h))
      | v6 b => have := lt4 a; simp only at h; omega
    | v6 a =>
      cases b with
      | v4 b => have := lt4 b; simp only at h; omega
      | v6 b =>
        exact congrArg v6 (Vector.toList_inj.1 (octetNumber_inj (by simp) (Nat.add_left_cancel h)))

/-- How many addresses there are. -/
def count : Nat := 0x100000000000000000000000100000000

theorem rank_lt (address : Address) : rank address < count := by
  rcases address with octets | octets
  · have h : octetNumber octets.toList < octetSpan 4 := by simpa using octetNumber_lt octets.toList
    have hc : octetSpan 4 ≤ count := by decide
    exact Nat.lt_of_lt_of_le h hc
  · have h : octetNumber octets.toList < octetSpan 16 := by simpa using octetNumber_lt octets.toList
    have hc : octetSpan 4 + octetSpan 16 = count := by decide
    exact hc ▸ Nat.add_lt_add_left h (octetSpan 4)

end Address

end Flowmeter
