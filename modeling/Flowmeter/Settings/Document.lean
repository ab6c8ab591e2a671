import Flowmeter.Json.Skip
import Flowmeter.Settings.Field

/-! The text of a settings file.

The text is a JSON object with a member for each field. Members may come in any order
and may be missing; a missing one has its default. Members of other names are skipped.
A list of the values in the order of the fields is read as well. -/
namespace Flowmeter.Settings

/-- The field of a name. -/
def field? (name : List Char) : Option Field :=
  Field.all.find? fun field => field.name.toList = name

/-- The text behind the opening quote of a member's name. -/
def nameText (text : List Char) : Except Json.Fault (List Char) :=
  match Json.skipSpace text with
  | [] => .error (.before (.ended .value) [])
  | '"' :: rest => .ok rest
  | '\x7d' :: rest => .error (.upon .trailingComma ('\x7d' :: rest))
  | text => .error (.upon .nameNotString text)

/-- A field that is given twice, the second time in front of the text. An end of the object
right behind it is still looked at. -/
def repeated (field : Field) (text : List Char) : Json.Fault :=
  .before (.repeatedName field.name) <|
    match Json.skipSpace text with
    | '\x7d' :: rest => rest
    | text => text

/-- Reads the members of an object into the settings, behind its opening bracket or behind a
member. A field may be given once. -/
def readMembers : Nat → Bool → List Field → Settings → List Char →
    Except Json.Fault (Settings × List Char)
  | 0, _, _, _, text => .error (.before (.ended .object) text)
  | members + 1, opened, seen, settings, text =>
    match Json.skipSpace text with
    | [] => .error (.before (.ended .object) [])
    | c :: rest =>
      if c = '\x7d' then .ok (settings, rest)
      else if !opened && c != ',' then .error (.upon .objectOpen (c :: rest))
      else do
        let text ← nameText (if opened then c :: rest else rest)
        let (name, text) ← Json.Text.read text
        match field? name with
        | none =>
          let text ← Json.expectColon text
          let text ← Json.skipValue text
          readMembers members false seen settings text
        | some field =>
          if field ∈ seen then throw (repeated field text)
          let text ← Json.expectColon text
          let (settings, text) ← field.read settings text
          readMembers members false (field :: seen) settings text

/-- The text behind the end of a list that has an element for each field. -/
def listEnd (text : List Char) : Except Json.Fault (List Char) :=
  match Json.skipSpace text with
  | [] => .error (.before (.ended .list) [])
  | ']' :: rest => .ok rest
  | ',' :: rest =>
    match Json.skipSpace rest with
    | ']' :: rest => .error (.upon .trailingComma (']' :: rest))
    | text => .error (.upon .trailingText text)
  | text => .error (.upon .trailingText text)

/-- Reads the elements of a list into the settings, behind its opening bracket or behind an
element, for these fields. -/
def readElements : Bool → List Field → Settings → List Char →
    Except Json.Fault (Settings × List Char)
  | _, [], settings, text => (listEnd text).map (settings, ·)
  | opened, field :: fields, settings, text =>
    match Json.skipSpace text with
    | [] => .error (.before (.ended .list) [])
    | c :: rest =>
      if c = ']' then .ok (settings, rest)
      else if opened then do
        let (settings, text) ← field.read settings (c :: rest)
        readElements false fields settings text
      else if c = ',' then
        match Json.skipSpace rest with
        | [] => .error (.before (.ended .value) [])
        | ']' :: rest => .error (.upon .trailingComma (']' :: rest))
        | rest => do
          let (settings, text) ← field.read settings rest
          readElements false fields settings text
      else .error (.upon .listOpen (c :: rest))

/-- The settings of a text. -/
def read (text : List Char) : Except Json.Fault Settings := do
  let (settings, rest) ← match Json.skipSpace text with
    | [] => throw (.before (.ended .value) [])
    | '\x7b' :: rest => readMembers (rest.length + 1) true [] {} rest
    | '[' :: rest => readElements true Field.all {} rest
    | text => throw (Json.mismatch "struct Settings" text)
  match Json.skipSpace rest with
  | [] => return settings
  | rest => throw (.upon .trailingText rest)

/-- The line of a field. -/
def memberLine? (settings : Settings) (field : Field) : Option (List Char) :=
  (field.write? settings).map fun value =>
    [' ', ' '] ++ Json.Text.write field.name.toList ++ [':', ' '] ++ value

/-- The text of settings: a line for each field. None if the log file's path is not
Unicode. -/
def write? (settings : Settings) : Option (List Char) :=
  (Field.all.mapM settings.memberLine?).map fun lines =>
    ['\x7b', '\n'] ++ [',', '\n'].intercalate lines ++ ['\n', '\x7d']

end Flowmeter.Settings
