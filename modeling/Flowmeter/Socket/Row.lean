import Flowmeter.Address.KernelForm
import Flowmeter.Inventory.Error
import Flowmeter.Text.Blank
import Flowmeter.Text.Numeral

/-! Rows of the kernel's socket tables.

```text
  sl  local_address rem_address   st tx_queue rx_queue tr tm->when retrnsmt   uid  timeout inode
   0: 0100007F:0035 00000000:0000 0A 00000000:00000000 00:00000000 00000000     0        0 15850 1
```

A line is a row if it has the columns' layout; the heading and blank lines do not.
A row whose addresses are malformed is an error. -/
namespace Flowmeter

/-- What is read of a row. -/
structure SocketRow where
  localAddress : Address
  localPort : UInt16
  remoteAddress : Address
  remotePort : UInt16
  inode : UInt64
  deriving DecidableEq, Repr

namespace SocketRow

/-- The columns that are read of a line with the layout of a row, its addresses unread. -/
structure Columns where
  localAddress : List Char
  localPort : UInt16
  remoteAddress : List Char
  remotePort : UInt16
  inode : UInt64
  deriving DecidableEq

/-- Whether a column is a row number: digits and a colon. -/
def isSlot (column : List Char) : Bool :=
  let digits := column.dropLast
  column.getLast? == some ':' && !digits.isEmpty && digits.all Text.Numeral.isDigit

/-- The address part of an endpoint column and its port, a hexadecimal number of 16 bits. -/
def endpoint? (column : List Char) : Option (List Char × UInt16) := do
  let (address, digits) ← Text.splitFirst? ':' column
  let port ← Text.Hex.number? digits
  if port < UInt16.size then some (address, UInt16.ofNat port) else none

/-- The columns of a line, if it has the layout of a row. -/
def columns? (line : List Char) : Option Columns :=
  match Text.words line with
  | slot :: localEnd :: remoteEnd :: _ :: _ :: _ :: _ :: _ :: _ :: inode :: _ =>
    if isSlot slot then do
      let (localAddress, localPort) ← endpoint? localEnd
      let (remoteAddress, remotePort) ← endpoint? remoteEnd
      let inode ← (Text.Numeral.word inode).toOption
      return { localAddress, localPort, remoteAddress, remotePort, inode }
    else none
  | _ => none

/-- The address of a field. -/
def address (field : List Char) : Except InventoryError Address :=
  match Address.ofKernelForm? field with
  | some address => .ok address
  | none => .error (.invalidAddress (String.ofList field))

/-- The row of a line; none if the line is no row. -/
def read (line : List Char) : Except InventoryError (Option SocketRow) :=
  match columns? line with
  | none => .ok none
  | some columns => do
    let localAddress ← address columns.localAddress
    let remoteAddress ← address columns.remoteAddress
    return some {
      localAddress
      localPort := columns.localPort
      remoteAddress
      remotePort := columns.remotePort
      inode := columns.inode }

/-- An endpoint as the kernel prints it. -/
def endpointForm (address : Address) (port : UInt16) : String :=
  String.ofList address.kernelForm ++ ":" ++ Text.Hex.padded 4 port.toNat

/-- A row as the kernel prints it, with the number `slot`, for a socket that waits for
packets and holds none. -/
def kernelLine (slot : Nat) (row : SocketRow) : String :=
  String.ofList (List.replicate (4 - (toString slot).length) ' ') ++ toString slot ++ ": " ++
    endpointForm row.localAddress row.localPort ++ " " ++
    endpointForm row.remoteAddress row.remotePort ++
    " 0A 00000000:00000000 00:00000000 00000000     0        0 " ++ toString row.inode.toNat ++
    " 1 0000000000000000 100 0 0 10 0"

/-- The rows of a table's text, up to the first malformed one. -/
def readAll (text : String) : Except InventoryError (List SocketRow) := do
  let rows ← (Text.lines text.toList).mapM read
  return rows.filterMap id

/-- The rows whose local port no earlier row has, nor a port in `taken`. -/
def firstPerPort (taken : List UInt16) : List SocketRow → List SocketRow
  | [] => []
  | row :: rest =>
    if taken.contains row.localPort then firstPerPort taken rest
    else row :: firstPerPort (row.localPort :: taken) rest

end SocketRow

/-- The heading of a socket table. -/
def SocketRow.heading : String :=
  "  sl  local_address rem_address   st tx_queue rx_queue tr tm->when retrnsmt   uid  timeout inode"

end Flowmeter
