import Flowmeter.Address.Basic
import Flowmeter.Text.Hex

/-! Addresses as the kernel's socket tables write them.

The kernel prints each four octets as one number of its own byte order, least
significant octet first, with eight hexadecimal digits. So the octets of a
field are those of the address with each four reversed, and reading undoes it. -/
namespace Flowmeter.Address

/-- The octets with each four reversed. -/
def reverseWords : List UInt8 → List UInt8
  | a :: b :: c :: d :: rest => d :: c :: b :: a :: reverseWords rest
  | rest => rest

/-- The kernel's form of an address. -/
def kernelForm (address : Address) : List Char := Text.Hex.ofBytes (reverseWords address.octets)

/-- The address a field stands for: eight or thirty-two digits of either case. -/
def ofKernelForm? (field : List Char) : Option Address := do
  let octets ← Text.Hex.bytes? field
  ofOctets? (reverseWords octets)

theorem reverseWords_reverseWords (octets : List UInt8) :
    reverseWords (reverseWords octets) = octets := by
  fun_induction reverseWords octets with
  | case1 a b c d rest ih => simp [reverseWords, ih]
  | case2 rest h => rw [reverseWords]; exact h

theorem ofKernelForm?_kernelForm (address : Address) :
    ofKernelForm? address.kernelForm = some address := by
  simp [ofKernelForm?, kernelForm, Text.Hex.bytes?_ofBytes, reverseWords_reverseWords,
    ofOctets?_octets]

end Flowmeter.Address
