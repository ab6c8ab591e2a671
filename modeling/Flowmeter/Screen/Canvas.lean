/-! Painting on a screen of characters.

A `Canvas` says what stands in each cell. Painting an area replaces the cells in it and
no others (`paint_of_not_mem`), and what replaces them does not depend on what was there
(`paint_of_mem`). A cell holds a character and nothing else: colours and styles, such as those of
headings, of a paused session and of key hints, are left out. -/
namespace Flowmeter

/-- A rectangle of cells. -/
structure Area where
  row : Nat
  column : Nat
  height : Nat
  width : Nat
  deriving DecidableEq, Repr

namespace Area

/-- Whether a cell lies in the area. -/
def Holds (area : Area) (row column : Nat) : Prop :=
  (area.row ≤ row ∧ row < area.row + area.height) ∧
    area.column ≤ column ∧ column < area.column + area.width

instance (area : Area) (row column : Nat) : Decidable (area.Holds row column) :=
  inferInstanceAs (Decidable (_ ∧ _))

end Area

/-- What stands in each cell. -/
structure Canvas where
  cell (row column : Nat) : Char

namespace Canvas

/-- The canvas without anything on it. -/
def blank : Canvas := ⟨fun _ _ => ' '⟩

/-- The canvas with `content` in an area; its rows and columns count from the area's corner. -/
def paint (canvas : Canvas) (area : Area) (content : Canvas) : Canvas where
  cell row column :=
    if area.Holds row column then content.cell (row - area.row) (column - area.column)
    else canvas.cell row column

theorem paint_of_mem {canvas content : Canvas} {area : Area} {row column : Nat}
    (h : area.Holds row column) :
    (canvas.paint area content).cell row column =
      content.cell (row - area.row) (column - area.column) :=
  if_pos h

theorem paint_of_not_mem {canvas content : Canvas} {area : Area} {row column : Nat}
    (h : ¬area.Holds row column) :
    (canvas.paint area content).cell row column = canvas.cell row column :=
  if_neg h

/-- The rows of the part of a canvas that a screen shows. -/
def rows (canvas : Canvas) (height width : Nat) : List (List Char) :=
  (List.range height).map fun row => (List.range width).map (canvas.cell row)

end Canvas

/-- A frame with a title in its upper edge and lines of text in it. -/
structure Panel where
  title : List Char := []
  lines : List (List Char)

namespace Panel

/-- What the frame of a panel of this size is made of; none within it. -/
def frame? (height width row column : Nat) : Option Char :=
  let top := row = 0
  let bottom := row + 1 = height
  let left := column = 0
  let right := column + 1 = width
  if top ∧ left then some '┌'
  else if bottom ∧ left then some '└'
  else if top ∧ right then some '┐'
  else if bottom ∧ right then some '┘'
  else if top ∨ bottom then some '─'
  else if left ∨ right then some '│'
  else none

/-- A panel drawn in this size. The title starts right of the corner and is cut before the
other one; text that does not fit is cut too. -/
def draw (panel : Panel) (height width : Nat) : Canvas where
  cell row column :=
    let titled :=
      if row = 0 ∧ 0 < column ∧ column + 1 < width then panel.title[column - 1]? else none
    titled.getD <| (frame? height width row column).getD <|
      ((panel.lines[row - 1]?).bind (·[column - 1]?)).getD ' '

end Panel

end Flowmeter
