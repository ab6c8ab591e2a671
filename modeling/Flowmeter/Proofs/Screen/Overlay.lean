import Flowmeter.Proofs.Fallible
import Flowmeter.Screen.Page

/-! Help lies over the page.

Panels write marks: a title, a frame and the characters of their lines. They leave all other cells
as they are (`Canvas.write`), so a panel hides what is below it only if its area is cleared before.
On a screen that has room for all its panels the page is made by writing them on an empty screen,
and help by clearing its area and writing there (`Display.draw_eq_render`). What is below help can
then be seen around it only, and help looks the same on every page
(`Display.help_is_opaque_and_local`). -/
namespace Flowmeter

/-! ### Writing -/

/-- What a panel writes into a cell of its area, if it writes there. -/
def Panel.mark? (panel : Panel) (height width row column : Nat) : Option Char :=
  (if row = 0 ∧ 0 < column ∧ column + 1 < width then panel.title[column - 1]? else none).or <|
    (Panel.frame? height width row column).or <|
      panel.lines[row - 1]?.bind (·[column - 1]?)

theorem Panel.cell_draw (panel : Panel) (height width row column : Nat) :
    (panel.draw height width).cell row column =
      (panel.mark? height width row column).getD ' ' := by
  simp only [draw, mark?, Option.getD_or]

namespace Canvas
variable {canvas other : Canvas} {area : Area} {panel : Panel} {row column : Nat}

theorem ext (h : ∀ row column, canvas.cell row column = other.cell row column) :
    canvas = other := by
  cases canvas
  cases other
  congr
  funext row column
  exact h row column

/-- The canvas with the marks of a panel in an area. -/
def write (canvas : Canvas) (area : Area) (panel : Panel) : Canvas where
  cell row column :=
    if area.Holds row column then
      (panel.mark? area.height area.width (row - area.row) (column - area.column)).getD
        (canvas.cell row column)
    else canvas.cell row column

/-- The canvas with every cell of an area blank. -/
def clear (canvas : Canvas) (area : Area) : Canvas := canvas.paint area .blank

theorem write_of_mem (h : area.Holds row column) :
    (canvas.write area panel).cell row column =
      (panel.mark? area.height area.width (row - area.row) (column - area.column)).getD
        (canvas.cell row column) :=
  if_pos h

theorem write_of_not_mem (h : ¬area.Holds row column) :
    (canvas.write area panel).cell row column = canvas.cell row column :=
  if_neg h

/-- On blank cells the marks of a panel are all there is. -/
theorem write_of_blank (h : ∀ row column, area.Holds row column → canvas.cell row column = ' ') :
    canvas.write area panel = canvas.paint area (panel.draw area.height area.width) := by
  refine ext fun row column => ?_
  by_cases hmem : area.Holds row column
  · rw [paint_of_mem hmem, Panel.cell_draw, write_of_mem hmem, h row column hmem]
  · rw [paint_of_not_mem hmem, write_of_not_mem hmem]

/-- Behind a cleared area nothing shows through. -/
theorem write_clear (canvas : Canvas) (area : Area) (panel : Panel) :
    (canvas.clear area).write area panel =
      canvas.paint area (panel.draw area.height area.width) := by
  rw [write_of_blank fun row column hmem => paint_of_mem hmem]
  refine ext fun row column => ?_
  by_cases hmem : area.Holds row column
  · rw [paint_of_mem hmem, paint_of_mem hmem]
  · rw [paint_of_not_mem hmem, paint_of_not_mem hmem, clear, paint_of_not_mem hmem]

/-- Behind a shorter line the longer one below it shows through if the area is not cleared. -/
example :
    let below := Canvas.blank.write ⟨0, 0, 3, 6⟩ { lines := [['p', 'a', 'g', 'e']] }
    let line (canvas : Canvas) := (List.range 6).map (canvas.cell 1)
    line (below.write ⟨0, 0, 3, 6⟩ { lines := [['h', 'i']] }) = ['│', 'h', 'i', 'g', 'e', '│'] ∧
    line ((below.clear ⟨0, 0, 3, 6⟩).write ⟨0, 0, 3, 6⟩ { lines := [['h', 'i']] }) =
      ['│', 'h', 'i', ' ', ' ', '│'] := by
  decide

end Canvas

/-! ### The middle of the screen -/

namespace ScreenSize

/-- The middle of the screen, so many hundredths of its width and of its height. What is left is
halved, and every edge is rounded by itself. -/
def centered (size : ScreenSize) (wide high : Nat) : Area :=
  let above := (100 - high) / 2
  let before := (100 - wide) / 2
  let top := share above 100 size.height
  let left := share before 100 size.width
  ⟨top, left, share (above + high) 100 size.height - top,
    share (before + wide) 100 size.width - left⟩

theorem share_mul (k : Nat) (hk : 0 < k) (part whole length : Nat) :
    share (k * part) (k * whole) length = share part whole length := by
  have hnumerator : 2 * (k * part) * length + k * whole = k * (2 * part * length + whole) := by
    rw [Nat.mul_add, Nat.mul_left_comm 2 k part, Nat.mul_assoc k]
  have hdenominator : 2 * (k * whole) = k * (2 * whole) := Nat.mul_left_comm 2 k whole
  rw [share, hnumerator, hdenominator, Nat.mul_div_mul_left _ _ hk, share]

/-- Help covers half the height and three fifths of the width. -/
theorem help_eq_centered (size : ScreenSize) : size.help = size.centered 60 50 := by
  have htop := share_mul 25 (by decide) 1 4 size.height
  have hbottom := share_mul 25 (by decide) 3 4 size.height
  have hleft := share_mul 20 (by decide) 1 5 size.width
  have hright := share_mul 20 (by decide) 4 5 size.width
  rw [help, ← htop, ← hbottom, ← hleft, ← hright]
  rfl

end ScreenSize

/-! ### The screen -/

namespace Display

/-- The display with or without help. -/
def helped (display : Display) (shown : Bool) : Display := { display with helpShown := shown }

/-- The panels of the page, with these rows in the list, written one after the other on an empty
screen. -/
def renderPage (display : Display) (size : ScreenSize) (rows : List Row) : Canvas :=
  ((Canvas.blank.write size.header display.headerPanel).write size.list
    (listPanel size.nameWidth rows)).write size.status display.statusPanel

/-- The screen as it is made: the page, and if help is shown, help in an area that is cleared for
it. -/
def render (display : Display) (size : ScreenSize) (rows : List Row) : Canvas :=
  let page := display.renderPage size rows
  if display.helpShown then (page.clear size.help).write size.help helpPanel else page

variable {size : ScreenSize}

/-- The panels of the page do not overlap, so each is written on blank cells. -/
theorem page_eq_renderPage (hsize : 12 ≤ size.height) (display : Display) (rows : List Row) :
    display.page size rows = display.renderPage size rows := by
  have hheader (row column : Nat) (_ : size.header.Holds row column) :
      Canvas.blank.cell row column = ' ' := rfl
  have hlist {header : Canvas} (row column : Nat) (h : size.list.Holds row column) :
      (Canvas.blank.paint size.header header).cell row column = ' ' := by
    refine Canvas.paint_of_not_mem fun hheader => ?_
    have hlow : 4 ≤ row := h.1.1
    have hhigh : row < 0 + 4 := hheader.1.2
    omega
  have hstatus {header list : Canvas} (row column : Nat) (h : size.status.Holds row column) :
      ((Canvas.blank.paint size.header header).paint size.list list).cell row column = ' ' := by
    have hlow : size.height - 3 ≤ row := h.1.1
    have hbelow : ¬size.list.Holds row column := by
      intro hlist
      have hhigh : row < 4 + (size.height - 4 - 3) := hlist.1.2
      omega
    rw [Canvas.paint_of_not_mem hbelow]
    refine Canvas.paint_of_not_mem fun hheader => ?_
    have hhigh : row < 0 + 4 := hheader.1.2
    omega
  rw [renderPage, Canvas.write_of_blank hheader, Canvas.write_of_blank hlist,
    Canvas.write_of_blank hstatus]
  rfl

/-- **The screen is what its panels leave on it.** -/
theorem draw_eq_render (hsize : 12 ≤ size.height) (display : Display) :
    display.draw size = (display.rows size.nameWidth).map (display.render size) := by
  have hcover : display.cover size = display.render size := by
    funext rows
    rw [cover, render, page_eq_renderPage hsize, Canvas.write_clear]
  rw [draw, hcover]

/-- With help or without, there are the same rows to show or none. -/
theorem rows_helped (display : Display) (shown : Bool) (nameWidth : Nat) :
    (display.helped shown).rows nameWidth = display.rows nameWidth :=
  rfl

/-- Outside its area help changes nothing. -/
theorem draw_helped_of_not_mem (display : Display) {row column : Nat}
    (h : ¬size.help.Holds row column) :
    ((display.helped true).draw size).map (·.cell row column) =
      ((display.helped false).draw size).map (·.cell row column) := by
  rw [draw, draw, rows_helped, rows_helped]
  cases display.rows size.nameWidth with
  | error overflow => rfl
  | ok rows => exact congrArg Except.ok (Canvas.paint_of_not_mem h)

/-- In its area there is nothing but help. -/
theorem draw_helped_of_mem {display : Display} {screen : Canvas}
    (hscreen : (display.helped true).draw size = .ok screen) {row column : Nat}
    (h : size.help.Holds row column) :
    screen.cell row column =
      (helpPanel.draw size.help.height size.help.width).cell (row - size.help.row)
        (column - size.help.column) := by
  rw [draw, map_eq_ok_iff] at hscreen
  obtain ⟨rows, -, rfl⟩ := hscreen
  exact Canvas.paint_of_mem h

/-- **Help is opaque and local.** On a screen of 12 rows or more the screen is what the panels of
the page leave on it and, with help, what help leaves in its cleared area. Outside the middle of the
screen help changes no cell, nor whether there is a screen at all; in it every cell depends on the
size of the screen only, whatever the page shows. -/
theorem help_is_opaque_and_local (size : ScreenSize) (hsize : 12 ≤ size.height) :
    (∀ display : Display,
      display.draw size = (display.rows size.nameWidth).map (display.render size)) ∧
    (∀ (display : Display) (row column : Nat), ¬(size.centered 60 50).Holds row column →
      ((display.helped true).draw size).map (·.cell row column) =
        ((display.helped false).draw size).map (·.cell row column)) ∧
    ∀ (display other : Display) (screen otherScreen : Canvas),
      (display.helped true).draw size = .ok screen →
      (other.helped true).draw size = .ok otherScreen →
      ∀ row column : Nat, (size.centered 60 50).Holds row column →
        screen.cell row column = otherScreen.cell row column := by
  rw [← size.help_eq_centered]
  refine ⟨draw_eq_render hsize, fun display row column => display.draw_helped_of_not_mem, ?_⟩
  intro display other screen otherScreen hscreen hother row column h
  rw [draw_helped_of_mem hscreen h, draw_helped_of_mem hother h]

/-- A display that is paused, with something to say. -/
def busy : Display := { paused := true, status := "42 process(es) with open sockets" }

/-- Help reaches into the header of a low screen. -/
theorem help_hides_busy_header :
    ¬(ScreenSize.centered ⟨12, 70⟩ 60 50).Holds 3 13 ∧
    (ScreenSize.centered ⟨12, 70⟩ 60 50).Holds 3 14 ∧
    ∃ helped bare start,
      (busy.helped true).draw ⟨12, 70⟩ = .ok helped ∧
      (busy.helped false).draw ⟨12, 70⟩ = .ok bare ∧
      (Display.helped {} true).draw ⟨12, 70⟩ = .ok start ∧
      helped.cell 3 13 = bare.cell 3 13 ∧ helped.cell 3 14 = start.cell 3 14 := by
  have hout : ¬(ScreenSize.centered ⟨12, 70⟩ 60 50).Holds 3 13 := by decide
  have hin : (ScreenSize.centered ⟨12, 70⟩ 60 50).Holds 3 14 := by decide
  obtain ⟨-, hlocal, hopaque⟩ := help_is_opaque_and_local ⟨12, 70⟩ (by decide)
  refine ⟨hout, hin, _, _, _, rfl, rfl, rfl, ?_, hopaque busy {} _ _ rfl rfl 3 14 hin⟩
  exact Except.ok.inj (hlocal busy 3 13 hout)

end Display

end Flowmeter
