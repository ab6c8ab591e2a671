import Flowmeter.CommandLine.Refusal
import Flowmeter.Settings.Basic

/-! What a command line asks for, and the settings that follow from it. -/
namespace Flowmeter.CommandLine

/-- What a command line asks for; a field without a value was not given. -/
structure Arguments where
  refreshSecs : Option UInt64 := none
  capture : Option Direction := none
  order : Option SortOrder := none
  hideIdle : Bool := false
  showSplit : Bool := false
  numericNames : Bool := false
  logFile : Option Text.Raw := none
  hostLimit : Option UInt64 := none
  device : Option String := none
  saveSettings : Bool := false
  deriving DecidableEq, Repr

namespace Arguments

/-- The settings with what was given in place of theirs, and in range. -/
def apply (arguments : Arguments) (settings : Settings) : Settings :=
  Settings.clamp
    { refreshSecs := arguments.refreshSecs.getD settings.refreshSecs
      capture := arguments.capture.getD settings.capture
      order := arguments.order.getD settings.order
      hideIdle := settings.hideIdle || arguments.hideIdle
      showSplit := settings.showSplit || arguments.showSplit
      numericNames := settings.numericNames || arguments.numericNames
      logFile := arguments.logFile.or settings.logFile
      hostLimit := arguments.hostLimit.getD settings.hostLimit
      device := arguments.device.getD settings.device }

/-- A value as text. -/
def textOf (value : Text.Raw) : Except Refusal (List Char) :=
  match value.chars? with
  | some text => .ok text
  | none => .error .notUnicode

/-- A fault of a flag's value. -/
def fault {α : Type} (flag : Flag) (text : List Char) (fault : ValueFault) : Except Refusal α :=
  .error (.badValue flag (String.ofList text) fault)

/-- The number a value is. -/
def numberOf (flag : Flag) (value : Text.Raw) : Except Refusal UInt64 := do
  let text ← textOf value
  match Text.Numeral.word text with
  | .ok number => return number
  | .error wrong => fault flag text (.numeral wrong)

/-- The seconds between refreshes that a value is. -/
def refreshOf (value : Text.Raw) : Except Refusal UInt64 := do
  let number ← numberOf .refresh value
  if Settings.minRefreshSecs ≤ number ∧ number ≤ Settings.maxRefreshSecs then return number
  fault .refresh (← textOf value)
    (.outOfRange number Settings.minRefreshSecs Settings.maxRefreshSecs)

/-- The direction that a letter stands for. -/
def directionOf (value : Text.Raw) : Except Refusal Direction := do
  match ← textOf value with
  | ['a'] => return .both
  | ['s'] => return .send
  | ['r'] => return .recv
  | text => fault .capture text (.noDirection (String.ofList text))

/-- The order that a letter stands for. -/
def orderOf (value : Text.Raw) : Except Refusal SortOrder := do
  match ← textOf value with
  | ['a'] => return .ascending
  | ['d'] => return .descending
  | text => fault .order text (.noOrder (String.ofList text))

/-- The arguments with a flag and its value. A flag without a value is given an empty one. -/
def give (arguments : Arguments) (flag : Flag) (value : Text.Raw) : Except Refusal Arguments :=
  match flag with
  | .refresh => do return { arguments with refreshSecs := some (← refreshOf value) }
  | .capture => do return { arguments with capture := some (← directionOf value) }
  | .order => do return { arguments with order := some (← orderOf value) }
  | .hideIdle => .ok { arguments with hideIdle := true }
  | .showSplit => .ok { arguments with showSplit := true }
  | .numericNames => .ok { arguments with numericNames := true }
  | .logFile =>
    if value.isEmpty then .error (.missingValue .logFile)
    else .ok { arguments with logFile := some value }
  | .hostLimit => do return { arguments with hostLimit := some (← numberOf .hostLimit value) }
  | .device => do return { arguments with device := some (String.ofList (← textOf value)) }
  | .saveSettings => .ok { arguments with saveSettings := true }
  | .help => .error .help
  | .version => .error .version

end Arguments

end Flowmeter.CommandLine
