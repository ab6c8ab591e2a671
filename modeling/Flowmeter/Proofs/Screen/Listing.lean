import Mathlib.Data.List.Forall2
import Mathlib.Data.List.Permutation
import Flowmeter.Proofs.Fallible
import Flowmeter.Proofs.Traffic.Shares
import Flowmeter.Screen.Page

/-! The list of processes as it stands on the screen.

`Entry` is what a row of traffic tells. For each view there is a row of its process, one of each
host that is shown and, if hosts are hidden, one more (`ProcessView.entries`). There are rows at
all exactly if the shares of the hosts shown can be worked out (`Display.SharesFit`). If what an
entry tells fits the fixed columns, its row has the width of the columns and its name stands in its
own (`Row.Stands`); the list leaves the name just the width that makes such a row as wide as the
inside of its frame, so a row without line ends stands there in full (`line_listed`). -/
namespace Flowmeter

/-- The shares of the hosts of these views can be worked out, if they are shown. -/
def Display.SharesFit (display : Display) (views : List ProcessView) : Prop :=
  display.showSplit = true → ∀ view ∈ views, ∀ host ∈ view.hosts, host.2.SharesFit

/-! ### Columns -/

namespace Row

/-- What a row of traffic tells. -/
structure Entry where
  kind : RowKind
  pid : List Char
  name : List Char
  rates : Rates

namespace Entry

def ofProcess (elapsed : Elapsed) (process : ProcessTraffic) : Entry where
  kind := .process
  pid := (toString process.pid).toList
  name := process.command.toList
  rates := .during process.recv process.sent elapsed

/-- What stands in front of the name of a host: its shares, if they are shown and there are any. -/
def sharesText (display : Display) (host : HostTraffic) : List Char :=
  if display.showSplit then
    match host.shares? with
    | some (tcp, udp) => splitText tcp udp
    | none => []
  else []

def ofHost (display : Display) (elapsed : Elapsed) (host : Address × HostTraffic) : Entry where
  kind := .host
  pid := []
  name := sharesText display host.2 ++ (display.names host.1).toList
  rates := .during host.2.recv host.2.sent elapsed

/-- The row that tells it. -/
def row (nameWidth : Nat) (entry : Entry) : Row where
  kind := entry.kind
  text := traffic nameWidth entry.pid entry.name entry.rates

/-- The pid and the rates are no wider than their columns. -/
structure Fits (entry : Entry) : Prop where
  pid : entry.pid.length ≤ 7
  recv : entry.rates.recvText.length ≤ 10
  sent : entry.rates.sentText.length ≤ 10

end Entry

/-- The row is that of the entry, or the one that stands for hidden hosts where there is none.
That of an entry which fits has all its columns in their places. -/
def Stands (nameWidth : Nat) : Option Entry → Row → Prop
  | none, row => row.kind = .more
  | some entry, row => row.kind = entry.kind ∧ (entry.Fits →
      row.text.length = 38 + nameWidth ∧
      (row.text.drop 8).take nameWidth =
        Text.padEnd nameWidth (Text.truncate nameWidth entry.name))

variable {nameWidth : Nat} {pid name recv sent unit : List Char}

theorem length_columns (hpid : pid.length ≤ pidWidth) (hname : name.length ≤ nameWidth)
    (hrecv : recv.length ≤ rateWidth) (hsent : sent.length ≤ rateWidth)
    (hunit : unit.length ≤ unitWidth) :
    (columns nameWidth pid name recv sent unit).length = fixedWidth + nameWidth := by
  simp only [columns, List.length_append, List.length_singleton, Text.length_padStart,
    Text.length_padEnd, Nat.max_eq_right hpid, Nat.max_eq_right hname, Nat.max_eq_right hrecv,
    Nat.max_eq_right hsent, Nat.max_eq_right hunit, fixedWidth]
  omega

theorem name_columns (hpid : pid.length ≤ pidWidth) (hname : name.length ≤ nameWidth) :
    ((columns nameWidth pid name recv sent unit).drop (pidWidth + 1)).take nameWidth =
      Text.padEnd nameWidth name := by
  have hfront : (Text.padStart pidWidth pid ++ [' ']).length = pidWidth + 1 := by
    rw [List.length_append, Text.length_padStart, Nat.max_eq_right hpid, List.length_singleton]
  have hcolumn : (Text.padEnd nameWidth name).length = nameWidth := by
    rw [Text.length_padEnd, Nat.max_eq_right hname]
  simp only [columns, List.append_assoc]
  rw [← List.append_assoc, List.drop_left' hfront, List.take_left' hcolumn]

theorem length_label (unit : RateUnit) : unit.label.toList.length ≤ unitWidth := by
  cases unit <;> decide

/-- A row of traffic stands in its columns, however long the name is. -/
theorem stands_row (entry : Entry) : Stands nameWidth (some entry) (entry.row nameWidth) := by
  refine ⟨rfl, fun hfits => ?_⟩
  have hname : (Text.truncate nameWidth entry.name).length ≤ nameWidth := by
    rw [Text.length_truncate]
    exact Nat.min_le_right ..
  have hrecv := String.length_toList ▸ hfits.recv
  have hsent := String.length_toList ▸ hfits.sent
  exact ⟨length_columns hfits.pid hname hrecv hsent (length_label _),
    name_columns hfits.pid hname⟩

end Row

/-! ### Rows -/

open Row (Entry Stands)

/-- What there are rows of for a view: its process, the hosts that are shown, and none in
particular if there are hidden ones. -/
def ProcessView.entries (display : Display) (elapsed : Elapsed) (view : ProcessView) :
    List (Option Entry) :=
  some (.ofProcess elapsed view.process) ::
    (view.hosts.map fun host => some (.ofHost display elapsed host)) ++
    if 0 < view.hidden then [none] else []

namespace Row
variable {display : Display} {nameWidth : Nat} {elapsed : Elapsed}

theorem hostPrefix_of_fit {host : HostTraffic} (h : display.showSplit = true → host.SharesFit) :
    hostPrefix display host = .ok (Entry.sharesText display host) := by
  rw [hostPrefix, Entry.sharesText]
  split
  · next hshow =>
    rw [(h hshow).split?_eq, HostTraffic.shares?]
    split
    · rfl
    · simp only [Option.map_some, Except.map, HostTraffic.toNat_ofNat_percent (Nat.sub_le ..),
        HostTraffic.toNat_ofNat_percent host.udpShare_le]
  · rfl

theorem fit_of_hostPrefix {host : HostTraffic} {front : List Char}
    (h : hostPrefix display host = .ok front) (hshow : display.showSplit = true) :
    host.SharesFit := by
  rw [hostPrefix, if_pos hshow, map_eq_ok_iff] at h
  obtain ⟨split?, hsplit, -⟩ := h
  exact HostTraffic.exists_split?_iff.1 ⟨split?, hsplit⟩

/-- A host has its row exactly if its shares can be worked out where they are shown. -/
theorem ofHost_eq_ok_iff {host : Address × HostTraffic} {row : Row} :
    ofHost display nameWidth elapsed host = .ok row ↔
      (display.showSplit = true → host.2.SharesFit) ∧
        (Entry.ofHost display elapsed host).row nameWidth = row := by
  rw [ofHost, bind_eq_ok_iff]
  simp only [hostName, map_eq_ok_iff]
  constructor
  · rintro ⟨_, ⟨front, hfront, rfl⟩, hrow⟩
    have hfit := fit_of_hostPrefix hfront
    obtain rfl := Except.ok.inj ((hostPrefix_of_fit hfit).symm.trans hfront)
    exact ⟨hfit, Except.ok.inj hrow⟩
  · rintro ⟨hfit, rfl⟩
    exact ⟨_, ⟨_, hostPrefix_of_fit hfit, rfl⟩, rfl⟩

theorem stands_ofView {view : ProcessView} {rows : List Row}
    (h : ofView display nameWidth elapsed view = .ok rows) :
    List.Forall₂ (Stands nameWidth) (view.entries display elapsed) rows := by
  rw [ofView, bind_eq_ok_iff] at h
  obtain ⟨hosts, hhosts, hrows⟩ := h
  obtain rfl := Except.ok.inj hrows
  have hstands : List.Forall₂ (Stands nameWidth)
      (view.hosts.map fun host => some (.ofHost display elapsed host)) hosts := by
    refine List.forall₂_map_left_iff.2 ((mapM_eq_ok_iff.1 hhosts).imp fun host row hrow => ?_)
    obtain ⟨-, rfl⟩ := ofHost_eq_ok_iff.1 hrow
    exact stands_row _
  have hmore : List.Forall₂ (Stands nameWidth) (if 0 < view.hidden then [none] else [])
      (if 0 < view.hidden then [more] else []) := by
    split
    · exact .cons rfl .nil
    · exact .nil
  exact List.rel_append (.cons (stands_row (.ofProcess elapsed view.process)) hstands) hmore

theorem stands_ofViews {views : List ProcessView} {rows : List Row}
    (h : ofViews display nameWidth elapsed views = .ok rows) :
    List.Forall₂ (Stands nameWidth) (views.flatMap (·.entries display elapsed)) rows := by
  rw [ofViews, map_eq_ok_iff] at h
  obtain ⟨groups, hgroups, rfl⟩ := h
  rw [List.flatMap_def]
  refine List.rel_flatten (List.forall₂_map_left_iff.2 ?_)
  exact (mapM_eq_ok_iff.1 hgroups).imp fun _ _ => stands_ofView

theorem exists_ofView_iff {view : ProcessView} :
    (∃ rows, ofView display nameWidth elapsed view = .ok rows) ↔
      ∀ host ∈ view.hosts, display.showSplit = true → host.2.SharesFit := by
  have hhost (host : Address × HostTraffic) :
      (∃ row, ofHost display nameWidth elapsed host = .ok row) ↔
        (display.showSplit = true → host.2.SharesFit) := by
    simp only [ofHost_eq_ok_iff, exists_and_left, exists_eq', and_true]
  simp only [← hhost, ← exists_mapM_eq_ok_iff, ofView, bind_eq_ok_iff]
  constructor
  · intro ⟨_, hosts, hhosts, _⟩
    exact ⟨hosts, hhosts⟩
  · intro ⟨hosts, hhosts⟩
    exact ⟨_, hosts, hhosts, rfl⟩

/-- There are rows exactly if all shares that are shown can be worked out. -/
theorem exists_ofViews_iff {views : List ProcessView} :
    (∃ rows, ofViews display nameWidth elapsed views = .ok rows) ↔ display.SharesFit views := by
  simp only [ofViews]
  rw [exists_map_eq_ok_iff, exists_mapM_eq_ok_iff]
  simp only [exists_ofView_iff]
  exact ⟨fun h hshow view hview host hhost => h view hview host hhost hshow,
    fun h view hview host hhost hshow => h hshow view hview host hhost⟩

end Row

/-! ### Lines on the screen -/

/-- A text of ASCII, each character of which has one cell. -/
def Text.IsAscii (text : List Char) : Prop := ∀ c ∈ text, c.toNat < 128

instance (text : List Char) : Decidable (Text.IsAscii text) :=
  List.decidableBAll (fun c : Char => c.toNat < 128) text

/-- A line inside the frame around an area. -/
def Canvas.line (canvas : Canvas) (area : Area) (i : Nat) : List Char :=
  (List.range (area.width - 2)).map fun k =>
    canvas.cell (area.row + 1 + i) (area.column + 1 + k)

theorem Text.map_getD_range {width : Nat} {text : List Char} (h : text.length ≤ width) :
    ((List.range width).map fun k => text[k]?.getD ' ') = padEnd width text := by
  refine List.ext_getElem ?_ fun k hk _ => ?_
  · rw [List.length_map, List.length_range, length_padEnd, Nat.max_eq_right h]
  · rw [List.getElem_map, List.getElem_range]
    simp only [padEnd, List.getElem_append, List.getElem_replicate]
    split
    · next hk => rw [List.getElem?_eq_getElem hk, Option.getD_some]
    · next hk => rw [List.getElem?_eq_none (Nat.le_of_not_lt hk), Option.getD_none]

theorem Panel.frame?_eq_none {height width row column : Nat} (hrow : row + 2 < height)
    (hcolumn : column + 2 < width) : frame? height width (1 + row) (1 + column) = none := by
  have hbottom : 1 + row + 1 ≠ height := by omega
  have hright : 1 + column + 1 ≠ width := by omega
  simp [frame?, hbottom, hright]

/-- A line of a panel stands in its line of the frame, with blanks behind it. -/
theorem Canvas.line_paint_draw {canvas : Canvas} {area : Area} {panel : Panel} {i : Nat}
    {text : List Char} (htext : panel.lines[i]? = some text) (hi : i + 2 < area.height)
    (hwidth : text.length ≤ area.width - 2) :
    (canvas.paint area (panel.draw area.height area.width)).line area i =
      Text.padEnd (area.width - 2) text := by
  rw [← Text.map_getD_range hwidth, line]
  refine List.map_congr_left fun k hk => ?_
  have hk : k + 2 < area.width := Nat.add_lt_of_lt_sub (List.mem_range.1 hk)
  have hholds : area.Holds (area.row + 1 + i) (area.column + 1 + k) := by
    refine ⟨⟨?_, ?_⟩, ?_, ?_⟩ <;> omega
  have hrow : area.row + 1 + i - area.row = 1 + i := by omega
  have hcolumn : area.column + 1 + k - area.column = 1 + k := by omega
  rw [paint_of_mem hholds, hrow, hcolumn]
  have htop : ¬(1 + i = 0 ∧ 0 < 1 + k ∧ 1 + k + 1 < area.width) := by omega
  simp only [Panel.draw, if_neg htop, Panel.frame?_eq_none hi hk, Option.getD_none,
    Nat.add_sub_cancel_left, htext, Option.bind_some]

theorem Text.length_joinedLines_le (text : List Char) :
    (joinedLines text).length ≤ text.length := by
  fun_induction joinedLines text with
  | case1 => exact Nat.le_refl _
  | case2 _ ih => exact Nat.le_succ_of_le ih
  | case3 _ ih => exact Nat.le_succ_of_le (Nat.le_succ_of_le ih)
  | case4 _ _ _ _ ih => exact Nat.succ_le_succ ih

namespace Display

/-- The canvas with these rows as the list of processes in an area. -/
def drawList (canvas : Canvas) (area : Area) (rows : List Row) : Canvas :=
  let size : ScreenSize := ⟨area.height, area.width⟩
  canvas.paint area ((listPanel size.nameWidth rows).draw area.height area.width)

/-- The list is drawn below the header. -/
def pageAbove (display : Display) (size : ScreenSize) : Canvas :=
  Canvas.blank.paint size.header
    (display.headerPanel.draw size.header.height size.header.width)

/-- The status bar does not reach into the list. -/
theorem line_page (display : Display) (size : ScreenSize) (rows : List Row) {i : Nat}
    (hi : i + 2 < size.list.height) :
    (display.page size rows).line size.list i =
      (drawList (display.pageAbove size) size.list rows).line size.list i := by
  refine List.map_congr_left fun k _ => Canvas.paint_of_not_mem fun hholds => ?_
  have hstatus : size.height - 3 ≤ 4 + 1 + i := hholds.1.1
  have hlist : i + 2 < size.height - 4 - 3 := hi
  omega

/-- **A row that is as wide as the inside of the frame stands in its line.** Only line ends are
left out of it. -/
theorem line_listed {canvas : Canvas} {area : Area} {rows : List Row} {i : Nat} {row : Row}
    (hrow : rows[i]? = some row) (hlength : row.text.length = area.width - 2)
    (hi : i + 2 < area.height) :
    (drawList canvas area rows).line area i =
      Text.padEnd (area.width - 2) (Text.joinedLines row.text) := by
  refine Canvas.line_paint_draw ?_ hi ?_
  · rw [listPanel, List.getElem?_map, hrow]
    rfl
  · exact hlength ▸ Text.length_joinedLines_le row.text

variable {display : Display} {report : CycleReport}

theorem rows_eq (hreport : display.report = some report) (nameWidth : Nat) :
    display.rows nameWidth =
      Row.ofViews display nameWidth report.elapsed (display.views report) := by
  rw [rows, hreport]

/-- An entry that fits has a row as wide as the columns. -/
theorem exists_row (hreport : display.report = some report) {nameWidth : Nat} {rows : List Row}
    (hrows : display.rows nameWidth = .ok rows) {i : Nat} {entry : Entry}
    (hentry : ((display.views report).flatMap (·.entries display report.elapsed))[i]? =
      some (some entry)) (hfits : entry.Fits) :
    ∃ row, rows[i]? = some row ∧ row.text.length = 38 + nameWidth := by
  have hstands := Row.stands_ofViews (rows_eq hreport nameWidth ▸ hrows)
  obtain ⟨hentries, hget⟩ := List.getElem?_eq_some_iff.1 hentry
  have hi := hstands.length_eq ▸ hentries
  have hrow : Stands nameWidth (some entry) rows[i] := hget ▸ hstands.get hentries hi
  exact ⟨_, List.getElem?_eq_getElem hi, (hrow.2 hfits).1⟩

/-- **The list mirrors what is shown and stays in its columns.** There are rows exactly if the
shares shown can be worked out. Then there are, for each view in order, a row of its process, one
of each host that is shown, and one more exactly if hosts are hidden. A row whose pid and rates fit
their columns is as wide as all columns, and in that of the name stands the name, cut and filled up
to it. In an area with room for the fixed columns such a row is as wide as the inside of the frame;
if it is of ASCII, it stands in its line in full, except that line ends in it are left out. -/
theorem rows_stand_in_columns (display : Display) :
    (∀ nameWidth elapsed views,
      ((∃ rows, Row.ofViews display nameWidth elapsed views = .ok rows) ↔
        display.SharesFit views) ∧
      ∀ rows, Row.ofViews display nameWidth elapsed views = .ok rows →
        List.Forall₂ (Stands nameWidth) (views.flatMap (·.entries display elapsed)) rows) ∧
    ∀ report, display.report = some report →
      ∀ (canvas : Canvas) (area : Area) (rows : List Row), 38 ≤ area.width - 2 →
        display.rows (ScreenSize.nameWidth ⟨area.height, area.width⟩) = .ok rows →
        ∀ (i : Nat) (entry : Entry),
          ((display.views report).flatMap (·.entries display report.elapsed))[i]? =
            some (some entry) →
          entry.Fits →
          ∃ row, rows[i]? = some row ∧ row.text.length = area.width - 2 ∧
            (i + 2 < area.height → Text.IsAscii row.text →
              (drawList canvas area rows).line area i =
                Text.padEnd (area.width - 2) (Text.joinedLines row.text) ∧
              ('\n' ∉ row.text → (drawList canvas area rows).line area i = row.text)) := by
  refine ⟨fun nameWidth elapsed views => ⟨Row.exists_ofViews_iff, fun rows => Row.stands_ofViews⟩,
    ?_⟩
  intro report hreport canvas area rows hwidth hrows i entry hentry hfits
  obtain ⟨row, hrow, hcolumns⟩ := exists_row hreport hrows hentry hfits
  have hlength : row.text.length = area.width - 2 :=
    hcolumns.trans (Nat.add_sub_cancel' hwidth)
  refine ⟨row, hrow, hlength, fun hi _ => ⟨line_listed hrow hlength hi, fun hone => ?_⟩⟩
  rw [line_listed hrow hlength hi, Text.joinedLines_of_not_mem hone, Text.padEnd, hlength,
    Nat.sub_self, List.replicate_zero, List.append_nil]

section Rows

/-- A second of the traffic of one process. -/
def second (process : ProcessTraffic) : CycleReport where
  processes := [process]
  cycle := {}
  elapsed := ⟨1, 0⟩
  paused := false

/-- One host is shown of a process. -/
def listed (process : ProcessTraffic) : Display where
  report := some (second process)
  options := { hostLimit := 1 }
  showSplit := true

/-- A server with two clients. -/
def server : ProcessTraffic where
  pid := 42
  command := "server"
  recv := 1500
  sent := 500
  hosts := .ofList [(.quad 10 0 0 1, { recv := 1000, sent := 500, tcp := 1500 }),
    (.quad 10 0 0 2, { recv := 500, udp := 500 })]

/-- The client that is shown. -/
def client : Address × HostTraffic :=
  (.quad 10 0 0 1, { recv := 1000, sent := 500, tcp := 1500 })

/-- What its row tells. -/
def clientEntry : Entry := .ofHost (listed server) ⟨1, 0⟩ client

theorem views_server : (listed server).views (second server) = [⟨server, [client], 1⟩] := by cbv

theorem rows_server : (listed server).rows 30 =
    .ok [Row.ofProcess 30 ⟨1, 0⟩ server, clientEntry.row 30, Row.more] := by
  have hclient : Row.ofHost (listed server) 30 ⟨1, 0⟩ client = .ok (clientEntry.row 30) :=
    Row.ofHost_eq_ok_iff.2 ⟨fun _ => ⟨by decide, by decide⟩, rfl⟩
  have hview : Row.ofView (listed server) 30 ⟨1, 0⟩ ⟨server, [client], 1⟩ =
      .ok [Row.ofProcess 30 ⟨1, 0⟩ server, clientEntry.row 30, Row.more] := by
    rw [Row.ofView, List.mapM_cons, hclient]
    rfl
  rw [rows_eq rfl, views_server, Row.ofViews, List.mapM_cons]
  show Except.map _ (Row.ofView (listed server) 30 ⟨1, 0⟩ ⟨server, [client], 1⟩ >>= _) = _
  rw [hview]
  rfl

theorem text_client : (clientEntry.row 30).text =
    "        [100%/  0%] 10.0.0.1              1000.00     500.00 Byte/s ".toList := by
  decide +kernel

theorem client_stands_in_columns :
    ∃ screen, (listed server).draw ⟨12, 70⟩ = .ok screen ∧
      screen.line (ScreenSize.list ⟨12, 70⟩) 1 =
        "        [100%/  0%] 10.0.0.1              1000.00     500.00 Byte/s ".toList := by
  have hfits : clientEntry.Fits := ⟨by decide, by decide +kernel, by decide +kernel⟩
  obtain ⟨row, hrow, -, hline⟩ := (rows_stand_in_columns (listed server)).2 (second server) rfl
    ((listed server).pageAbove ⟨12, 70⟩) (ScreenSize.list ⟨12, 70⟩) _ (by decide) rows_server 1
    clientEntry (by rw [views_server]; rfl) hfits
  obtain rfl : clientEntry.row 30 = row := Option.some.inj hrow
  rw [text_client] at hline
  refine ⟨_, congrArg (Except.map _) rows_server, ?_⟩
  exact ((listed server).line_page ⟨12, 70⟩ _ (by decide)).trans
    ((hline (by decide) (by decide)).2 (by decide))

/-- A process whose name has two lines. -/
def twoLined : ProcessTraffic where
  pid := 1
  command := "a\nb"

theorem views_twoLined :
    (listed twoLined).views (second twoLined) = [⟨twoLined, [], 0⟩] := by cbv

theorem text_twoLined : (Row.ofProcess 30 ⟨1, 0⟩ twoLined).text =
    "      1 a\nb                                  0.00       0.00 Byte/s ".toList := by
  decide +kernel

/-- A line feed has a place in the column of the name and none on the screen, so its row, which
is as wide as the inside of the frame, is followed by a blank. -/
theorem line_feed_leaves_blank :
    (Entry.ofProcess ⟨1, 0⟩ twoLined).Fits ∧
    (listed twoLined).rows 30 = .ok [Row.ofProcess 30 ⟨1, 0⟩ twoLined] ∧
    Text.IsAscii (Row.ofProcess 30 ⟨1, 0⟩ twoLined).text ∧
    (Row.ofProcess 30 ⟨1, 0⟩ twoLined).text.length = 68 ∧
    ∃ screen, (listed twoLined).draw ⟨12, 70⟩ = .ok screen ∧
      screen.line (ScreenSize.list ⟨12, 70⟩) 0 =
        "      1 ab                                  0.00       0.00 Byte/s  ".toList ∧
      screen.line (ScreenSize.list ⟨12, 70⟩) 0 ≠ (Row.ofProcess 30 ⟨1, 0⟩ twoLined).text := by
  have hrows : (listed twoLined).rows 30 = .ok [Row.ofProcess 30 ⟨1, 0⟩ twoLined] := by
    rw [rows_eq rfl, views_twoLined]
    rfl
  have hlength : (Row.ofProcess 30 ⟨1, 0⟩ twoLined).text.length = 68 := by
    rw [text_twoLined]
    decide
  have hline :
      ((listed twoLined).page ⟨12, 70⟩ [Row.ofProcess 30 ⟨1, 0⟩ twoLined]).line
        (ScreenSize.list ⟨12, 70⟩) 0 =
      "      1 ab                                  0.00       0.00 Byte/s  ".toList := by
    refine ((listed twoLined).line_page ⟨12, 70⟩ _ (by decide)).trans ?_
    rw [line_listed rfl hlength (by decide), text_twoLined]
    decide
  refine ⟨⟨by decide, by decide +kernel, by decide +kernel⟩, hrows, ?_, hlength,
    _, congrArg (Except.map _) hrows, hline, ?_⟩
  · rw [text_twoLined]
    decide
  · show Canvas.line (page _ _ _) _ _ ≠ _
    rw [hline, text_twoLined]
    decide

end Rows

end Display

end Flowmeter
