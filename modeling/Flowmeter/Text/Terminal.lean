/-! Text for a terminal, and what is left of it where there is none.

A terminal takes some characters as commands: control characters, and sequences that an
escape character opens. `plain` leaves them out. Controls that set the text out (tabs,
line ends, form feeds) stay, and they end a sequence that is still open. A text without
commands is left as it is (`plain_of_isShown`). -/
namespace Flowmeter.Text.Terminal

/-- How far a terminal is in a command. -/
inductive Mode
  /-- In none: characters are shown. -/
  | text
  /-- Behind an escape character. -/
  | escape
  /-- Behind an escape character and marks; one more character ends the sequence. -/
  | marked
  /-- In the parameters of a control sequence; a letter ends it. -/
  | control
  /-- In the title of the window; a bell ends it. -/
  | title
  /-- In a string that no terminal shows. -/
  | string
  deriving DecidableEq, Repr

/-- The controls that set text out. -/
def isLayout (c : Char) : Bool := c == '\t' || c == '\n' || c == '\x0C' || c == '\r'

/-- Whether a character is shown where no command is open. -/
def isShown (c : Char) : Bool := isLayout c || ' ' ≤ c && c != '\x7F'

/-- Whether a sequence of two characters or more opens strings of its own. -/
def opensString (c : Char) : Bool := c == 'P' || c == 'X' || c == '^' || c == '_'

namespace Mode

/-- How far the terminal is behind a character. An escape character always opens a new command,
and the controls for cancelling and substitution end any. -/
def next (mode : Mode) (c : Char) : Mode :=
  if c == '\x1B' then escape
  else if c == '\x18' || c == '\x1A' then text
  else match mode with
    | text => text
    | escape =>
      if isLayout c then text
      else if ' ' ≤ c && c ≤ '/' then marked
      else if c == '[' then control
      else if c == ']' then title
      else if opensString c then string
      else if '0' ≤ c && c ≤ '~' then text
      else escape
    | marked => if isLayout c || '0' ≤ c && c ≤ '~' then text else marked
    | control => if isLayout c || '@' ≤ c && c ≤ '~' then text else control
    | title => if c == '\x07' then text else title
    | string => string

/-- Whether a character is shown. -/
def shows (mode : Mode) (c : Char) : Bool :=
  match mode with
  | text => isShown c
  | escape | marked | control => isLayout c
  | title | string => false

end Mode

/-- What a terminal shows of a text, from a mode on. -/
def plainFrom (mode : Mode) : List Char → List Char
  | [] => []
  | c :: rest =>
    if mode.shows c then c :: plainFrom (mode.next c) rest else plainFrom (mode.next c) rest

/-- The text without commands. -/
def plain (text : String) : String := String.ofList (plainFrom .text text.toList)

/-- The text set off from what is around it. -/
def highlighted (text : String) : String := "\x1B[1m" ++ text ++ "\x1B[0m"

theorem next_text_of_isShown {c : Char} (h : isShown c = true) : Mode.text.next c = .text := by
  have he : c ≠ '\x1B' := by rintro rfl; exact absurd h (by decide)
  simp [Mode.next, he]

theorem plainFrom_of_isShown {text : List Char} (h : ∀ c ∈ text, isShown c = true) :
    plainFrom .text text = text := by
  induction text with
  | nil => rfl
  | cons c rest ih =>
    have hc := h c (List.mem_cons_self ..)
    rw [plainFrom, next_text_of_isShown hc, ih fun d hd => h d (List.mem_cons_of_mem _ hd)]
    exact if_pos hc

theorem plain_of_isShown {text : String} (h : ∀ c ∈ text.toList, isShown c = true) :
    plain text = text := by
  rw [plain, plainFrom_of_isShown h, String.ofList_toList]

end Flowmeter.Text.Terminal
