import Flowmeter.Json.Fault

/-! What all readers of JSON text share.

A reader takes the text that is left and gives what it read and the rest, or the first
fault. -/
namespace Flowmeter.Json

/-- The white space of JSON. -/
def isSpace (c : Char) : Bool := c == ' ' || c == '\n' || c == '\t' || c == '\r'

/-- The text behind the white space in front of it. -/
def skipSpace (text : List Char) : List Char := text.dropWhile isSpace

/-- The rest of the text behind `word`. -/
def literal : List Char → List Char → Except Fault (List Char)
  | [], text => .ok text
  | _ :: _, [] => .error (.before (.ended .value) [])
  | expected :: word, c :: text =>
    if c = expected then literal word text else .error (.upon .noWord (c :: text))

/-- The text behind a mark, white space before it skipped; `part` is what the mark belongs to,
and `missing` what is wrong if another character stands there. -/
def expect (mark : Char) (part : Part) (missing : Cause) (text : List Char) :
    Except Fault (List Char) :=
  match skipSpace text with
  | [] => .error (.before (.ended part) [])
  | c :: rest => if c = mark then .ok rest else .error (.upon missing (c :: rest))

/-- The text behind the colon of a member. -/
def expectColon (text : List Char) : Except Fault (List Char) := expect ':' .object .noColon text

theorem length_skipSpace_le (text : List Char) : (skipSpace text).length ≤ text.length := by
  unfold skipSpace
  induction text with
  | nil => exact Nat.le_refl 0
  | cons c rest ih =>
    rw [List.dropWhile_cons]
    split
    · exact Nat.le_succ_of_le ih
    · exact Nat.le_refl _

theorem skipSpace_append {spaces : List Char} (h : ∀ c ∈ spaces, isSpace c = true)
    (text : List Char) : skipSpace (spaces ++ text) = skipSpace text := by
  induction spaces with
  | nil => rfl
  | cons c rest ih =>
    have hc : isSpace c = true := h c (List.mem_cons_self ..)
    rw [List.cons_append, skipSpace, List.dropWhile_cons_of_pos hc]
    exact ih fun d hd => h d (List.mem_cons_of_mem _ hd)

end Flowmeter.Json
