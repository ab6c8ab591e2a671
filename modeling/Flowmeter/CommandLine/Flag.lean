import Flowmeter.Text.Column

/-! The flags of the command line. -/
namespace Flowmeter.CommandLine

/-- A flag. -/
inductive Flag
  | refresh
  | capture
  | order
  | hideIdle
  | showSplit
  | numericNames
  | logFile
  | hostLimit
  | device
  | saveSettings
  | help
  | version
  deriving DecidableEq, Repr

namespace Flag

/-- The flags in the order in which help shows them. -/
def all : List Flag :=
  [refresh, capture, order, hideIdle, showSplit, numericNames, logFile, hostLimit, device,
    saveSettings, help, version]

/-- The flags that say what the program is to do; the others ask for a text only. -/
def options : List Flag := all.filter fun flag => flag != help && flag != version

/-- The long name. -/
def name : Flag → String
  | refresh => "refresh"
  | capture => "capture"
  | order => "order"
  | hideIdle => "filter-zero"
  | showSplit => "tcp-udp-split"
  | numericNames => "no-resolve"
  | logFile => "async-log-file"
  | hostLimit => "limit-hosts-rows"
  | device => "device"
  | saveSettings => "save-settings"
  | help => "help"
  | version => "version"

/-- The short name, if there is one. -/
def letter? : Flag → Option Char
  | refresh => some 'r'
  | capture => some 'c'
  | order => some 'o'
  | numericNames => some 'n'
  | logFile => some 'a'
  | hostLimit => some 'l'
  | device => some 'i'
  | help => some 'h'
  | version => some 'V'
  | hideIdle | showSplit | saveSettings => none

/-- What stands for the value in usage texts; none for a flag without a value. -/
def placeholder? : Flag → Option String
  | refresh => some "SECONDS"
  | capture => some "a|s|r"
  | order => some "a|d"
  | logFile => some "FILE"
  | hostLimit => some "ROWS"
  | device => some "DEVICE"
  | _ => none

def takesValue (flag : Flag) : Bool := flag.placeholder?.isSome

def description : Flag → String
  | refresh => "Refresh interval in seconds (1 to 60)"
  | capture => "Traffic to attribute: a (all), s (sent) or r (received)"
  | order => "Sort order: a (ascending) or d (descending)"
  | hideIdle => "Hide processes without traffic in the last window"
  | showSplit => "Show the TCP/UDP share of each host"
  | numericNames => "Don't resolve host names"
  | logFile => "Append undetermined and unmapped packets to this file"
  | hostLimit => "Max host rows per process, 0 for no limit"
  | device => "Capture device"
  | saveSettings => "Save the effective settings as the new defaults"
  | help => "Print help"
  | version => "Print version"

/-- A flag as texts show it: its long name and the placeholder of its value. -/
def shown (flag : Flag) : String :=
  "--" ++ flag.name ++
    match flag.placeholder? with
    | some placeholder => " <" ++ placeholder ++ ">"
    | none => ""

def ofName? (name : List Char) : Option Flag := all.find? fun flag => flag.name.toList = name

def ofLetter? (letter : Char) : Option Flag := all.find? fun flag => flag.letter? = some letter

/-- The first column of a flag's line in the help text. -/
def synopsis (flag : Flag) : String :=
  (match flag.letter? with
    | some letter => "  -" ++ String.singleton letter ++ ", "
    | none => "      ") ++ flag.shown

/-- The width of the first column of the help text. -/
def synopsisWidth : Nat := (all.map fun flag => flag.synopsis.length).foldl max 0

/-- The line of a flag in the help text. -/
def helpLine (flag : Flag) : String :=
  String.ofList (Text.padEnd synopsisWidth flag.synopsis.toList) ++ "  " ++ flag.description

end Flag

end Flowmeter.CommandLine
