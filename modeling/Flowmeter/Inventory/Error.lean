/-! What can stop an inventory of the machine's processes and sockets. -/
namespace Flowmeter

/-- What stops the building of an inventory. -/
inductive InventoryError
  | processTable (reason : String)
  | invalidAddress (field : String)
  deriving DecidableEq, Repr

def InventoryError.message : InventoryError → String
  | processTable reason => "cannot enumerate the process table: " ++ reason
  | invalidAddress field => "invalid hex network address: \"" ++ field ++ "\""

end Flowmeter
