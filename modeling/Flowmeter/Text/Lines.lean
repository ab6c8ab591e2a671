/-! Where the lines of a text end.

A line ends at a line feed; a carriage return right before it belongs to the end. -/
namespace Flowmeter.Text

/-- The text of the first line. -/
def firstLine : List Char → List Char
  | [] | '\n' :: _ | '\r' :: '\n' :: _ => []
  | c :: rest => c :: firstLine rest

/-- The lines one right behind the other. -/
def joinedLines : List Char → List Char
  | [] => []
  | '\n' :: rest | '\r' :: '\n' :: rest => joinedLines rest
  | c :: rest => c :: joinedLines rest

/-- A text of one line is joined to itself. -/
theorem joinedLines_of_not_mem {text : List Char} (h : '\n' ∉ text) : joinedLines text = text := by
  fun_induction joinedLines text with
  | case1 => rfl
  | case2 => simp at h
  | case3 => simp at h
  | case4 c rest _ _ ih => rw [ih fun hr => h (List.mem_cons_of_mem _ hr)]

/-- No line end is left between joined lines. -/
theorem not_mem_joinedLines (text : List Char) : '\n' ∉ joinedLines text := by
  fun_induction joinedLines text with
  | case1 => simp
  | case2 _ ih => exact ih
  | case3 _ ih => exact ih
  | case4 c rest hc _ ih =>
    intro h
    rcases List.mem_cons.1 h with rfl | h
    · exact hc rfl
    · exact ih h

end Flowmeter.Text
