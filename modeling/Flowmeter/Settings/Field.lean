import Flowmeter.Json.Value
import Flowmeter.Settings.Basic

/-! The fields of a settings file: what they are called and how their values are written. -/
namespace Flowmeter.Settings

/-- A field of a settings file. -/
inductive Field
  | refreshSecs
  | capture
  | order
  | hideIdle
  | showSplit
  | numericNames
  | logFile
  | hostLimit
  | device
  deriving DecidableEq, Repr

/-- The name of a direction of traffic. -/
def directionName : Direction → String
  | .send => "Send"
  | .recv => "Recv"
  | .both => "Both"

/-- The name of an order. -/
def orderName : SortOrder → String
  | .ascending => "Ascending"
  | .descending => "Descending"

/-- The directions by name. -/
def directions : List (String × Direction) :=
  [.send, .recv, .both].map fun direction => (directionName direction, direction)

/-- The orders by name. -/
def orders : List (String × SortOrder) :=
  [.ascending, .descending].map fun order => (orderName order, order)

namespace Field

/-- The fields in the order in which they are written. -/
def all : List Field :=
  [refreshSecs, capture, order, hideIdle, showSplit, numericNames, logFile, hostLimit, device]

def name : Field → String
  | refreshSecs => "refresh_secs"
  | capture => "capture"
  | order => "order"
  | hideIdle => "filter_zero"
  | showSplit => "tcp_udp_split"
  | numericNames => "no_resolve"
  | logFile => "async_log_file"
  | hostLimit => "limit_hosts_rows"
  | device => "device"

/-- Reads the value of a field into the settings. -/
def read (field : Field) (settings : Settings) (text : List Char) :
    Except Json.Fault (Settings × List Char) :=
  match field with
  | refreshSecs => (Json.readWord "u64" text).map fun (value, rest) =>
      ({ settings with refreshSecs := value }, rest)
  | capture => (Json.readChoice directions text).map fun (value, rest) =>
      ({ settings with capture := value }, rest)
  | order => (Json.readChoice orders text).map fun (value, rest) =>
      ({ settings with order := value }, rest)
  | hideIdle => (Json.readBool text).map fun (value, rest) =>
      ({ settings with hideIdle := value }, rest)
  | showSplit => (Json.readBool text).map fun (value, rest) =>
      ({ settings with showSplit := value }, rest)
  | numericNames => (Json.readBool text).map fun (value, rest) =>
      ({ settings with numericNames := value }, rest)
  | logFile => (Json.readOptionalText "path string" text).map fun (value, rest) =>
      ({ settings with logFile := value.map fun path => path.map .char }, rest)
  | hostLimit => (Json.readWord "usize" text).map fun (value, rest) =>
      ({ settings with hostLimit := value }, rest)
  | device => (Json.readText "a string" text).map fun (value, rest) =>
      ({ settings with device := String.ofList value }, rest)

def boolText (value : Bool) : List Char := if value then "true".toList else "false".toList

def textText (value : String) : List Char := Json.Text.write value.toList

/-- The value of a field as it is written; none for a path that is not Unicode. -/
def write? (field : Field) (settings : Settings) : Option (List Char) :=
  match field with
  | refreshSecs => some (Nat.toDigits 10 settings.refreshSecs.toNat)
  | capture => some (textText (directionName settings.capture))
  | order => some (textText (orderName settings.order))
  | hideIdle => some (boolText settings.hideIdle)
  | showSplit => some (boolText settings.showSplit)
  | numericNames => some (boolText settings.numericNames)
  | logFile =>
    match settings.logFile with
    | none => some "null".toList
    | some path => path.chars?.map Json.Text.write
  | hostLimit => some (Nat.toDigits 10 settings.hostLimit.toNat)
  | device => some (textText settings.device)

end Field

end Flowmeter.Settings
