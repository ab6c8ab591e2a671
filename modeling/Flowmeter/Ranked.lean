/-! Types ordered by a natural number.

A `Ranked` type carries a number that tells its values apart. Its order is the
order of the numbers, so it is total and two values compare equal only if they
are the same value. Keys of an `OrderedMap` are ranked. -/
namespace Flowmeter

/-- A type whose values are told apart, and ordered, by a natural number. -/
class Ranked (α : Type) where
  rank : α → Nat
  rank_injective : ∀ a b : α, rank a = rank b → a = b

export Ranked (rank)

namespace Ranked

variable {α : Type} [Ranked α]

theorem rank_inj {a b : α} : rank a = rank b ↔ a = b :=
  ⟨rank_injective a b, fun h => h ▸ rfl⟩

/-- How two values compare. -/
def order (a b : α) : Ordering := compare (rank a) (rank b)

theorem order_eq_iff {a b : α} : order a b = .eq ↔ a = b := by
  rw [order, Nat.compare_eq_eq, rank_inj]

/-- The values in ascending order, duplicates kept. -/
def sorted (values : List α) : List α := values.mergeSort fun a b => rank a ≤ rank b

end Ranked

instance : Ranked UInt16 := ⟨UInt16.toNat, fun _ _ => UInt16.toNat_inj.1⟩

instance : Ranked UInt64 := ⟨UInt64.toNat, fun _ _ => UInt64.toNat_inj.1⟩

end Flowmeter
