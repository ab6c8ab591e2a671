import Flowmeter.Address.Basic
import Flowmeter.OrderedMap

/-! The addresses of the machine itself. -/
namespace Flowmeter

/-- A set of addresses. -/
structure LocalAddresses where
  addresses : OrderedMap Address Unit

namespace LocalAddresses

def ofList (addresses : List Address) : LocalAddresses :=
  ⟨.ofList (addresses.map fun address => (address, ()))⟩

def contains (addresses : LocalAddresses) (address : Address) : Bool :=
  addresses.addresses.contains address

def size (addresses : LocalAddresses) : Nat := addresses.addresses.size

def isEmpty (addresses : LocalAddresses) : Bool := addresses.size == 0

end LocalAddresses

end Flowmeter
