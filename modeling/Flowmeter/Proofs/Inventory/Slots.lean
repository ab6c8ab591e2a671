import Flowmeter.Proofs.Inventory.Lookup

/-! The slots of an inventory's index.

An index grows with its inventory: one more process takes the slot behind the last and claims
what it holds and nobody has claimed (`EndpointIndex.extend`, `endpointIndex_eq_foldl`). So an
endpoint that has an owner keeps it, whatever later processes hold (`lookup_append`).
`endpoints_lead_to_first_holders` says what the index of any inventory is. -/
namespace Flowmeter

/-! ### One process after the other -/

namespace EndpointIndex

/-- The index before the first process: the kernel has its slot, and nobody holds anything. -/
def start : EndpointIndex where
  owners := [(SocketHolder.kernel.pid, SocketHolder.kernel.command)]
  slots := .empty

/-- The index with one more process, in the slot behind the last. -/
def extend (index : EndpointIndex) (process : SocketHolder) : EndpointIndex where
  owners := index.owners ++ [(process.pid, process.command)]
  slots := claimAll index.slots index.owners.length process

theorem lookup_extend (index : EndpointIndex) (process : SocketHolder) (endpoint : Endpoint) :
    (index.extend process).lookup endpoint =
      (index.lookup endpoint).or
        (if endpoint ∈ process.endpoints then some index.owners.length else none) :=
  find?_claimAll index.slots index.owners.length process endpoint

theorem foldl_extend (index : EndpointIndex) (processes : List SocketHolder) :
    processes.foldl extend index =
      ⟨index.owners ++ processes.map fun process => (process.pid, process.command),
        claimFrom index.slots index.owners.length processes⟩ := by
  induction processes generalizing index with
  | nil => simp [claimFrom]
  | cons process rest ih =>
    rw [List.foldl_cons, ih]
    simp [extend, claimFrom]

/-- An owner stays the owner, whatever comes later. -/
theorem lookup_foldl_extend {index : EndpointIndex} {endpoint : Endpoint} {slot : Nat}
    (h : index.lookup endpoint = some slot) (processes : List SocketHolder) :
    (processes.foldl extend index).lookup endpoint = some slot := by
  induction processes generalizing index with
  | nil => exact h
  | cons process rest ih =>
    refine ih ?_
    rw [lookup_extend, h, Option.some_or]

end EndpointIndex

namespace Inventory

/-- Slots are given out process by process. -/
theorem endpointIndex_eq_foldl (inventory : Inventory) :
    inventory.endpointIndex = inventory.processes.foldl EndpointIndex.extend .start := by
  rw [EndpointIndex.foldl_extend]
  rfl

/-- More processes leave every endpoint that has an owner to its owner. -/
theorem lookup_append {processes : List SocketHolder} {endpoint : Endpoint} {slot : Nat}
    (h : (Inventory.mk processes).endpointIndex.lookup endpoint = some slot)
    (more : List SocketHolder) :
    (Inventory.mk (processes ++ more)).endpointIndex.lookup endpoint = some slot := by
  rw [endpointIndex_eq_foldl] at h ⊢
  rw [List.foldl_append]
  exact EndpointIndex.lookup_foldl_extend h more

/-- An endpoint has an owner exactly if a process holds it. -/
theorem exists_lookup_iff {inventory : Inventory} {endpoint : Endpoint} :
    (∃ slot, inventory.endpointIndex.lookup endpoint = some slot) ↔
      ∃ process ∈ inventory.processes, endpoint ∈ process.endpoints := by
  constructor
  · rintro ⟨slot, h⟩
    obtain ⟨k, process, -, hprocess, hheld, -⟩ := lookup_eq_some_iff.1 h
    exact ⟨process, List.mem_of_getElem? hprocess, hheld⟩
  · rintro ⟨process, hprocess, hheld⟩
    cases h : inventory.endpointIndex.lookup endpoint with
    | none => exact absurd hheld (lookup_eq_none_iff.1 h process hprocess)
    | some slot => exact ⟨slot, rfl⟩

/-- **An endpoint leads to the first process that holds it.** The kernel has slot 0 and each
process the slot behind its position, and there are no others. An endpoint has a slot exactly if
a process holds it, and then it is that of the first one to do so; so it is never the kernel's,
and always one that there is. -/
theorem endpoints_lead_to_first_holders (inventory : Inventory) :
    inventory.endpointIndex.owners.length = inventory.processes.length + 1 ∧
    inventory.endpointIndex.owners[EndpointIndex.kernelSlot]? = some (-1, "(kernel)") ∧
    (∀ k : Nat, inventory.endpointIndex.owners[k + 1]? =
      inventory.processes[k]?.map fun process => (process.pid, process.command)) ∧
    ∀ endpoint : Endpoint,
      ((∃ slot, inventory.endpointIndex.lookup endpoint = some slot) ↔
        ∃ process ∈ inventory.processes, endpoint ∈ process.endpoints) ∧
      (∀ slot, inventory.endpointIndex.lookup endpoint = some slot ↔
        ∃ k process, slot = k + 1 ∧ inventory.processes[k]? = some process ∧
          endpoint ∈ process.endpoints ∧
          ∀ earlier other, earlier < k → inventory.processes[earlier]? = some other →
            endpoint ∉ other.endpoints) ∧
      ∀ slot, inventory.endpointIndex.lookup endpoint = some slot →
        slot ≠ EndpointIndex.kernelSlot ∧ slot < inventory.endpointIndex.owners.length := by
  refine ⟨inventory.length_owners, rfl, fun k => ?_, fun endpoint => ?_⟩
  · rw [owners_endpointIndex, List.getElem?_cons_succ, List.getElem?_map]
  · exact ⟨exists_lookup_iff, fun slot => lookup_eq_some_iff, fun slot => lookup_bounds⟩

end Inventory

end Flowmeter
