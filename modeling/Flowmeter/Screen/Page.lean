import Flowmeter.Keys
import Flowmeter.Program
import Flowmeter.Screen.Canvas
import Flowmeter.Screen.Rows
import Flowmeter.Text.Lines

/-! The whole screen.

From top to bottom there are the header, the process list and the status bar; help lies
over them. Where things are depends on the size of the screen alone. -/
namespace Flowmeter

/-- The size of a screen in cells. -/
structure ScreenSize where
  height : Nat
  width : Nat
  deriving DecidableEq, Repr

namespace ScreenSize

def headerHeight : Nat := 4

def statusHeight : Nat := 3

def header (size : ScreenSize) : Area := ⟨0, 0, headerHeight, size.width⟩

def list (size : ScreenSize) : Area :=
  ⟨headerHeight, 0, size.height - headerHeight - statusHeight, size.width⟩

def status (size : ScreenSize) : Area := ⟨size.height - statusHeight, 0, statusHeight, size.width⟩

/-- `part` of `whole` parts of a length, rounded, a half up. -/
def share (part whole length : Nat) : Nat := (2 * part * length + whole) / (2 * whole)

/-- The middle of the screen: half its height and three fifths of its width. -/
def help (size : ScreenSize) : Area :=
  let top := share 1 4 size.height
  let left := share 1 5 size.width
  ⟨top, left, share 3 4 size.height - top, share 4 5 size.width - left⟩

/-- The width of the name column of the process list. -/
def nameWidth (size : ScreenSize) : Nat := size.width - 2 - Row.fixedWidth

end ScreenSize

namespace Display

/-- The sum of a count over processes; it wraps at 2⁶⁴. -/
def sum (count : ProcessTraffic → UInt64) (processes : List ProcessTraffic) : UInt64 :=
  processes.foldl (fun total process => total + count process) 0

/-- The program's name and version. -/
def title : String := Program.name ++ " v" ++ Program.version

/-- The counters of a cycle as the header shows them. -/
def countersText (cycle : CycleStats) : String :=
  "/".intercalate <|
    [cycle.total, cycle.unattributed, cycle.undetermined, cycle.unmappedRecv,
      cycle.unmappedSend].map fun count => toString count.toNat

/-- The two lines of the header. -/
def headerLines (display : Display) : List String :=
  match display.report with
  | none => [title, ""]
  | some report =>
    let rates := Rates.during (sum (·.recv) report.processes) (sum (·.sent) report.processes)
      report.elapsed
    [title ++ " - " ++ Decimal.fixed 1 report.elapsed.toSeconds ++
        "s window - Packets (total/unattributed/undet/unmap_r/unmap_s): " ++
        countersText report.cycle,
      "Total recv " ++ rates.recvText ++ " sent " ++ rates.sentText ++ " " ++ rates.unit.label]

def pausedMark : String := "  --- PAUSED ---"

def headerPanel (display : Display) : Panel where
  lines := match display.headerLines with
    | [] => []
    | first :: rest =>
      ((if display.paused then first ++ pausedMark else first) :: rest).map String.toList

/-- The list has a line for each row, whatever line ends there are in names. -/
def listPanel (nameWidth : Nat) (rows : List Row) : Panel where
  title := Row.headings nameWidth
  lines := rows.map fun row => Text.joinedLines row.text

/-- The line of the status bar: key hints and the status. -/
def statusLine (display : Display) : String :=
  "  ".intercalate (keyHints.map fun hint => "[" ++ hint.1 ++ "] " ++ hint.2) ++ "  |  " ++
    display.status

def statusPanel (display : Display) : Panel where
  lines := [display.statusLine.toList]

def helpPanel : Panel where
  title := "Help".toList
  lines :=
    ["", Program.name ++ " - Keyboard Shortcuts", ""].map String.toList ++
      keyHelp.map (fun key =>
        "  ".toList ++ Text.padEnd 12 key.1.toList ++ " - ".toList ++ key.2.toList) ++
      ["", "Press any key to close..."].map String.toList

/-- The screen without help, with these rows in the list. -/
def page (display : Display) (size : ScreenSize) (rows : List Row) : Canvas :=
  let put (canvas : Canvas) (area : Area) (panel : Panel) : Canvas :=
    canvas.paint area (panel.draw area.height area.width)
  let canvas := put .blank size.header display.headerPanel
  let canvas := put canvas size.list (listPanel size.nameWidth rows)
  put canvas size.status display.statusPanel

/-- The screen with these rows in the list. -/
def cover (display : Display) (size : ScreenSize) (rows : List Row) : Canvas :=
  let page := display.page size rows
  if display.helpShown then
    page.paint size.help (helpPanel.draw size.help.height size.help.width)
  else page

/-- The screen. Where a row of the list cannot be made there is none, however few rows it shows. -/
def draw (display : Display) (size : ScreenSize) : Except Overflow Canvas :=
  (display.rows size.nameWidth).map (display.cover size)

/-- The rows of the screen as text. -/
def screen (display : Display) (size : ScreenSize) : Except Overflow (List String) :=
  (display.draw size).map fun canvas => (canvas.rows size.height size.width).map String.ofList

end Display

end Flowmeter
