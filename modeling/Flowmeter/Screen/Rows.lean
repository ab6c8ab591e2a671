import Flowmeter.Address.Written
import Flowmeter.Screen.Display
import Flowmeter.Text.Column

/-! The rows of the process list.

A row has five columns with a space between them: the pid, a name, two rates and their
unit. All but the name have a fixed width; the name has what is left of the screen. -/
namespace Flowmeter

/-- What a row is of. -/
inductive RowKind
  | process
  | host
  /-- It stands for hosts that are not shown. -/
  | more
  deriving DecidableEq, Repr

/-- A row of the process list. -/
structure Row where
  kind : RowKind
  text : List Char
  deriving DecidableEq

namespace Row

def pidWidth : Nat := 7

def rateWidth : Nat := 10

def unitWidth : Nat := 7

/-- The width of all but the name, with the spaces between the columns. -/
def fixedWidth : Nat := pidWidth + 2 * rateWidth + unitWidth + 4

/-- The columns set beside each other, the name in a column of the given width. -/
def columns (nameWidth : Nat) (pid name recv sent unit : List Char) : List Char :=
  Text.padStart pidWidth pid ++ [' '] ++ Text.padEnd nameWidth name ++ [' '] ++
    Text.padStart rateWidth recv ++ [' '] ++ Text.padStart rateWidth sent ++ [' '] ++
    Text.padEnd unitWidth unit

/-- The headings of the columns. -/
def headings (nameWidth : Nat) : List Char :=
  columns nameWidth "PID".toList "Command".toList "Recv".toList "Sent".toList "Unit".toList

/-- A row of traffic, its name cut to its column. -/
def traffic (nameWidth : Nat) (pid name : List Char) (rates : Rates) : List Char :=
  columns nameWidth pid (Text.truncate nameWidth name) rates.recvText.toList
    rates.sentText.toList rates.unit.label.toList

/-- The shares of TCP and UDP as they stand in front of a name. -/
def splitText (tcp udp : Nat) : List Char :=
  ['['] ++ Text.padStart 3 (Nat.toDigits 10 tcp) ++ ['%', '/'] ++
    Text.padStart 3 (Nat.toDigits 10 udp) ++ ['%', ']', ' ']

/-- What stands in front of the name of a host. -/
def hostPrefix (display : Display) (host : HostTraffic) : Except Overflow (List Char) :=
  if display.showSplit then
    host.split?.map fun
      | some (tcp, udp) => splitText tcp.toNat udp.toNat
      | none => []
  else .ok []

/-- What a host is called in its row. -/
def hostName (display : Display) (address : Address) (host : HostTraffic) :
    Except Overflow (List Char) :=
  (hostPrefix display host).map (· ++ (display.names address).toList)

def ofProcess (nameWidth : Nat) (elapsed : Elapsed) (process : ProcessTraffic) : Row where
  kind := .process
  text := traffic nameWidth (toString process.pid).toList process.command.toList
    (.during process.recv process.sent elapsed)

def ofHost (display : Display) (nameWidth : Nat) (elapsed : Elapsed)
    (host : Address × HostTraffic) : Except Overflow Row := do
  let name ← hostName display host.1 host.2
  return {
    kind := .host
    text := traffic nameWidth [] name (.during host.2.recv host.2.sent elapsed) }

/-- The row that stands for hosts that are not shown. -/
def more : Row where
  kind := .more
  text := Text.padStart pidWidth [] ++ " ...".toList

/-- The rows of a process: its own, those of its hosts, and one more if hosts are hidden. -/
def ofView (display : Display) (nameWidth : Nat) (elapsed : Elapsed) (view : ProcessView) :
    Except Overflow (List Row) := do
  let hosts ← view.hosts.mapM (ofHost display nameWidth elapsed)
  return ofProcess nameWidth elapsed view.process :: hosts ++
    if 0 < view.hidden then [more] else []

/-- The rows of all processes shown. -/
def ofViews (display : Display) (nameWidth : Nat) (elapsed : Elapsed)
    (views : List ProcessView) : Except Overflow (List Row) :=
  (views.mapM (ofView display nameWidth elapsed)).map List.flatten

end Row

/-- The rows of the process list. -/
def Display.rows (display : Display) (nameWidth : Nat) : Except Overflow (List Row) :=
  match display.report with
  | none => .ok []
  | some report => Row.ofViews display nameWidth report.elapsed (display.views report)

end Flowmeter
