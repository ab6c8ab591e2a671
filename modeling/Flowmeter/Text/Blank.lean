/-! Blank characters and what they separate.

A character is blank if the Unicode property `White_Space` holds of it. Table rows
are read as the words between blanks, and command lines lose the blanks at their end. -/
namespace Flowmeter.Text

/-- The Unicode property `White_Space`. -/
def isBlank (c : Char) : Bool :=
  let n := c.toNat
  (9 ≤ n && n ≤ 13) || n == 0x20 || n == 0x85 || n == 0xA0 || n == 0x1680 ||
    (0x2000 ≤ n && n ≤ 0x200A) || n == 0x2028 || n == 0x2029 || n == 0x202F || n == 0x205F ||
    n == 0x3000

/-- Every blank of the ASCII class is one. -/
theorem isBlank_of_isWhitespace {c : Char} (h : c.isWhitespace = true) : isBlank c = true := by
  simp only [Char.isWhitespace, Bool.or_eq_true, decide_eq_true_eq] at h
  rcases h with ((rfl | rfl) | rfl) | rfl <;> decide

/-- The non-empty stretches between blanks. -/
def words (text : List Char) : List (List Char) :=
  (text.splitOnP isBlank).filter fun word => !word.isEmpty

/-- The text without the blanks at its end. -/
def trimEnd (text : List Char) : List Char := (text.reverse.dropWhile isBlank).reverse

/-- The lines of a text. A carriage return before the line feed is left in place:
it is blank, and lines are read as words. -/
def lines (text : List Char) : List (List Char) := text.splitOn '\n'

/-- The text split at its first `mark`, which is dropped; none if there is no mark. -/
def splitFirst? (mark : Char) : List Char → Option (List Char × List Char)
  | [] => none
  | c :: rest =>
    if c = mark then some ([], rest)
    else (splitFirst? mark rest).map fun parts => (c :: parts.1, parts.2)

end Flowmeter.Text
