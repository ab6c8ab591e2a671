/-! Keys and what they do. -/
namespace Flowmeter

/-- A key. -/
inductive KeyCode
  | char (c : Char)
  | escape
  /-- Any other key. -/
  | other
  deriving DecidableEq, Repr

/-- A key together with the modifier that matters. -/
structure KeyPress where
  code : KeyCode
  control : Bool := false
  deriving DecidableEq, Repr

/-- What a key asks for. -/
inductive KeyAction
  | quit
  | togglePause
  | showHelp
  deriving DecidableEq, Repr

/-- What a key asks for, if anything. -/
def KeyPress.action? (key : KeyPress) : Option KeyAction :=
  if key.control ∧ key.code = .char 'c' then some .quit
  else match key.code with
    | .char 'q' | .escape => some .quit
    | .char 'p' | .char ' ' => some .togglePause
    | .char 'h' | .char '?' => some .showHelp
    | _ => none

/-- The keys and descriptions that help shows. -/
def keyHelp : List (String × String) :=
  [("p/Space", "Pause or resume the display"), ("h/?", "Toggle this help"),
    ("q/Esc/Ctrl+C", "Quit")]

/-- The keys and descriptions in the status bar. -/
def keyHints : List (String × String) := [("p", "Pause"), ("h", "Help"), ("q", "Quit")]

end Flowmeter
