import Flowmeter.Inventory.EndpointIndex

/-! Who owns an endpoint by an inventory's index.

The first process that holds an endpoint owns it, and its slot is its position counted
from one (`lookup_endpointIndex`). So no endpoint belongs to slot 0, and every owner's slot
is one of the index's. -/
namespace Flowmeter

/-- The wildcard endpoint that also answers for an endpoint. -/
def Endpoint.wildcard (endpoint : Endpoint) : Endpoint :=
  { endpoint with address := .wildcard endpoint.address.family }

namespace EndpointIndex

theorem owner?_eq (index : EndpointIndex) (endpoint : Endpoint) :
    index.owner? endpoint = (index.lookup endpoint).or (index.lookup endpoint.wildcard) := rfl

/-- A process claims what it holds and nobody has claimed. -/
theorem find?_claimAll (slots : OrderedMap Endpoint Nat) (slot : Nat) (process : SocketHolder)
    (endpoint : Endpoint) :
    (claimAll slots slot process).find? endpoint =
      (slots.find? endpoint).or (if endpoint ∈ process.endpoints then some slot else none) := by
  unfold claimAll
  induction process.endpoints generalizing slots with
  | nil => simp
  | cons first rest ih =>
    rw [List.foldl_cons, ih, OrderedMap.find?_claim]
    by_cases h : first = endpoint
    · cases hheld : slots.find? endpoint <;> simp [h, hheld]
    · simp [h, Ne.symm h]

/-- Endpoints go to the first process that holds them. -/
theorem find?_claimFrom (slots : OrderedMap Endpoint Nat) (slot : Nat)
    (processes : List SocketHolder) (endpoint : Endpoint) :
    (claimFrom slots slot processes).find? endpoint =
      (slots.find? endpoint).or
        ((processes.findIdx? (endpoint ∈ ·.endpoints)).map (slot + ·)) := by
  induction processes generalizing slots slot with
  | nil => simp [claimFrom]
  | cons process rest ih =>
    rw [claimFrom, ih, find?_claimAll, List.findIdx?_cons, Option.or_assoc]
    congr 1
    by_cases h : endpoint ∈ process.endpoints
    · simp [h]
    · simp only [h, if_false, Option.none_or, decide_false, Bool.false_eq_true, Option.map_map]
      congr 1
      funext position
      exact (Nat.add_assoc slot 1 position).trans (congrArg (slot + ·) (Nat.add_comm 1 position))

end EndpointIndex

namespace Inventory

variable (inventory : Inventory)

/-- The kernel comes first, the processes follow in order. -/
theorem owners_endpointIndex :
    inventory.endpointIndex.owners =
      (SocketHolder.kernel.pid, SocketHolder.kernel.command) ::
        inventory.processes.map fun process => (process.pid, process.command) := rfl

theorem length_owners :
    inventory.endpointIndex.owners.length = inventory.processes.length + 1 := by
  rw [owners_endpointIndex, List.length_cons, List.length_map]

/-- **The first process that holds an endpoint owns it.** -/
theorem lookup_endpointIndex (endpoint : Endpoint) :
    inventory.endpointIndex.lookup endpoint =
      (inventory.processes.findIdx? (endpoint ∈ ·.endpoints)).map (1 + ·) := by
  rw [EndpointIndex.lookup, endpointIndex, EndpointIndex.find?_claimFrom, OrderedMap.find?_empty,
    Option.none_or]

variable {inventory}

theorem lookup_eq_none_iff {endpoint : Endpoint} :
    inventory.endpointIndex.lookup endpoint = none ↔
      ∀ process ∈ inventory.processes, endpoint ∉ process.endpoints := by
  simp [lookup_endpointIndex, List.findIdx?_eq_none_iff]

/-- An owned endpoint is held at the position of its slot, and at none before. -/
theorem lookup_eq_some_iff {endpoint : Endpoint} {slot : Nat} :
    inventory.endpointIndex.lookup endpoint = some slot ↔
      ∃ position process, slot = position + 1 ∧ inventory.processes[position]? = some process ∧
        endpoint ∈ process.endpoints ∧
        ∀ earlier other, earlier < position → inventory.processes[earlier]? = some other →
          endpoint ∉ other.endpoints := by
  rw [lookup_endpointIndex, Option.map_eq_some_iff]
  constructor
  · rintro ⟨position, hposition, rfl⟩
    obtain ⟨hlt, hheld, hfirst⟩ := List.findIdx?_eq_some_iff_getElem.1 hposition
    refine ⟨position, inventory.processes[position], Nat.add_comm 1 position,
      List.getElem?_eq_getElem hlt, by simpa using hheld, fun earlier other hearlier hother => ?_⟩
    obtain ⟨hbound, rfl⟩ := List.getElem?_eq_some_iff.1 hother
    simpa using hfirst earlier hearlier
  · rintro ⟨position, process, rfl, hprocess, hheld, hfirst⟩
    obtain ⟨hlt, rfl⟩ := List.getElem?_eq_some_iff.1 hprocess
    refine ⟨position, List.findIdx?_eq_some_iff_getElem.2 ⟨hlt, by simpa using hheld, ?_⟩,
      Nat.add_comm 1 position⟩
    intro earlier hearlier
    simpa using hfirst earlier _ hearlier (List.getElem?_eq_getElem (Nat.lt_trans hearlier hlt))

theorem lookup_bounds {endpoint : Endpoint} {slot : Nat}
    (h : inventory.endpointIndex.lookup endpoint = some slot) :
    slot ≠ EndpointIndex.kernelSlot ∧ slot < inventory.endpointIndex.owners.length := by
  obtain ⟨position, process, rfl, hprocess, -, -⟩ := lookup_eq_some_iff.1 h
  obtain ⟨hlt, -⟩ := List.getElem?_eq_some_iff.1 hprocess
  rw [length_owners]
  exact ⟨Nat.succ_ne_zero position, Nat.succ_lt_succ hlt⟩

/-- The kernel owns no endpoint, and an owner has an entry. -/
theorem owner?_bounds {endpoint : Endpoint} {slot : Nat}
    (h : inventory.endpointIndex.owner? endpoint = some slot) :
    slot ≠ EndpointIndex.kernelSlot ∧ slot < inventory.endpointIndex.owners.length := by
  rw [EndpointIndex.owner?_eq] at h
  rcases Option.or_eq_some_iff.1 h with h | ⟨-, h⟩
  · exact lookup_bounds h
  · exact lookup_bounds h

variable (inventory) in
/-- The slot of an owner, or of the kernel, is one of the index's. -/
theorem slot_lt (endpoint : Endpoint) :
    (inventory.endpointIndex.owner? endpoint).getD EndpointIndex.kernelSlot <
      inventory.endpointIndex.owners.length := by
  cases h : inventory.endpointIndex.owner? endpoint with
  | none =>
    rw [length_owners]
    exact Nat.succ_pos _
  | some slot => exact (owner?_bounds h).2

variable (inventory) in
/-- The slot is the kernel's only for want of an owner. -/
theorem slot_eq_kernelSlot_iff (endpoint : Endpoint) :
    (inventory.endpointIndex.owner? endpoint).getD EndpointIndex.kernelSlot =
        EndpointIndex.kernelSlot ↔
      inventory.endpointIndex.owner? endpoint = none := by
  cases h : inventory.endpointIndex.owner? endpoint with
  | none => simp
  | some slot => simpa using (owner?_bounds h).1

end Inventory

end Flowmeter
