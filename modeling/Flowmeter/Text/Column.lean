/-! Text set in columns.

Widths count characters. `truncate` shortens a text that is too wide for its
column and marks the cut with three dots where there is room for them. -/
namespace Flowmeter.Text

/-- The first `width` characters at most; a text that is cut ends in three dots if
more than three characters fit. -/
def truncate (width : Nat) (text : List Char) : List Char :=
  if text.length ≤ width then text
  else if width ≤ 3 then text.take width
  else text.take (width - 3) ++ ['.', '.', '.']

/-- The text at the right end of a column. -/
def padStart (width : Nat) (text : List Char) : List Char :=
  List.replicate (width - text.length) ' ' ++ text

/-- The text at the left end of a column. -/
def padEnd (width : Nat) (text : List Char) : List Char :=
  text ++ List.replicate (width - text.length) ' '

theorem length_truncate (width : Nat) (text : List Char) :
    (truncate width text).length = min text.length width := by
  unfold truncate
  split
  · omega
  · split
    · simp only [List.length_take]; omega
    · simp only [List.length_append, List.length_take, List.length_cons, List.length_nil]; omega

theorem length_padStart (width : Nat) (text : List Char) :
    (padStart width text).length = max text.length width := by
  simp only [padStart, List.length_append, List.length_replicate]; omega

theorem length_padEnd (width : Nat) (text : List Char) :
    (padEnd width text).length = max text.length width := by
  simp only [padEnd, List.length_append, List.length_replicate]; omega

end Flowmeter.Text
