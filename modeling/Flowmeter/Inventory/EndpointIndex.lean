import Flowmeter.Inventory.Basic

/-! From an endpoint to the process that owns it.

Slot 0 is the kernel's; the processes of the inventory follow in order. When several
processes hold an endpoint, the first of them owns it. -/
namespace Flowmeter

/-- The owners by slot, and the slot of each endpoint that has an owner. -/
structure EndpointIndex where
  owners : List (Int × String)
  slots : OrderedMap Endpoint Nat

namespace EndpointIndex

/-- The slot of the kernel. -/
def kernelSlot : Nat := 0

/-- The slots with those of `process` claimed for `slot`. -/
def claimAll (slots : OrderedMap Endpoint Nat) (slot : Nat) (process : SocketHolder) :
    OrderedMap Endpoint Nat :=
  process.endpoints.foldl (fun slots endpoint => slots.claim endpoint slot) slots

/-- The slots with those of `processes` claimed from `slot` on. -/
def claimFrom (slots : OrderedMap Endpoint Nat) (slot : Nat) : List SocketHolder → OrderedMap Endpoint Nat
  | [] => slots
  | process :: rest => claimFrom (claimAll slots slot process) (slot + 1) rest

/-- The slot that owns an endpoint. -/
def lookup (index : EndpointIndex) (endpoint : Endpoint) : Option Nat := index.slots.find? endpoint

/-- The slot that owns an endpoint, else the one that owns its wildcard. -/
def owner? (index : EndpointIndex) (endpoint : Endpoint) : Option Nat :=
  (index.lookup endpoint).or
    (index.lookup { endpoint with address := .wildcard endpoint.address.family })

end EndpointIndex

/-- The index of an inventory's endpoints. -/
def Inventory.endpointIndex (inventory : Inventory) : EndpointIndex where
  owners := (SocketHolder.kernel :: inventory.processes).map fun process =>
    (process.pid, process.command)
  slots := EndpointIndex.claimFrom .empty 1 inventory.processes

end Flowmeter
