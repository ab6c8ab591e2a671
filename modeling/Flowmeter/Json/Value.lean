import Flowmeter.Json.Number
import Flowmeter.Json.Text

/-! Values of a wanted kind.

Each reader skips the white space in front. A value of another kind is unsuitable; a
scalar one is looked at to its end first, as it may be malformed. -/
namespace Flowmeter.Json

/-- What is wrong with a value, which starts the text, in place of what is wanted. -/
def mismatch (wanted : String) (text : List Char) : Fault :=
  let scanned : Except Fault (Found × List Char) :=
    match text with
    | 'n' :: rest => (literal "ull".toList rest).map (.null, ·)
    | 't' :: rest => (literal "rue".toList rest).map (.boolean true, ·)
    | 'f' :: rest => (literal "alse".toList rest).map (.boolean false, ·)
    | '"' :: rest => (Text.read rest).map fun (read, rest) => (.string (String.ofList read), rest)
    | '[' :: _ => .ok (.list, text)
    | '\x7b' :: _ => .ok (.object, text)
    | c :: _ =>
      if Number.startsWith c then (Number.scan text).map fun (number, rest) => (number.found, rest)
      else .error (.upon .noValue text)
    | [] => .error (.before (.ended .value) [])
  match scanned with
  | .ok (found, rest) => .before (.unwanted found wanted) rest
  | .error fault => fault

/-- A 64 bit number. -/
def readWord (wanted : String) (text : List Char) : Except Fault (UInt64 × List Char) :=
  match skipSpace text with
  | [] => .error (.before (.ended .value) [])
  | c :: rest =>
    if Number.startsWith c then do
      let (number, rest) ← Number.scan (c :: rest)
      match number.word?, number.found with
      | some word, _ => return (word, rest)
      | none, .integer value => throw (.before (.outOfRange value wanted) rest)
      | none, found => throw (.before (.unwanted found wanted) rest)
    else .error (mismatch wanted (c :: rest))

def readBool (text : List Char) : Except Fault (Bool × List Char) :=
  match skipSpace text with
  | 't' :: rest => (literal "rue".toList rest).map (true, ·)
  | 'f' :: rest => (literal "alse".toList rest).map (false, ·)
  | text => .error (mismatch "a boolean" text)

def readText (wanted : String) (text : List Char) : Except Fault (List Char × List Char) :=
  match skipSpace text with
  | '"' :: rest => Text.read rest
  | text => .error (mismatch wanted text)

def readNull (text : List Char) : Except Fault (List Char) :=
  match skipSpace text with
  | 'n' :: rest => literal "ull".toList rest
  | text => .error (mismatch "unit" text)

/-- A string or nothing. -/
def readOptionalText (wanted : String) (text : List Char) :
    Except Fault (Option (List Char) × List Char) :=
  match skipSpace text with
  | 'n' :: rest => (literal "ull".toList rest).map (none, ·)
  | text => (readText wanted text).map fun (read, rest) => (some read, rest)

/-- What the name behind an opening quote stands for. -/
def readNamed {α : Type} (choices : List (String × α)) (text : List Char) :
    Except Fault (α × List Char) := do
  let (name, rest) ← Text.read text
  match choices.lookup (String.ofList name) with
  | some value => return (value, rest)
  | none => throw (.before (.unknownName (String.ofList name) (choices.map (·.1))) rest)

/-- One of several named values: its name, or an object that has the name for its only
member, which is nothing. -/
def readChoice {α : Type} (choices : List (String × α)) (text : List Char) :
    Except Fault (α × List Char) :=
  match skipSpace text with
  | [] => .error (.before (.ended .value) [])
  | '"' :: rest => readNamed choices rest
  | '\x7b' :: rest => do
    let rest ← expect '"' .value .nameNotString rest
    let (value, rest) ← readNamed choices rest
    let rest ← expectColon rest
    let rest ← readNull rest
    match skipSpace rest with
    | [] => throw (.before (.ended .object) [])
    | '\x7d' :: rest => return (value, rest)
    | rest => throw (.before .noValue rest)
  | text => .error (.upon .noValue text)

end Flowmeter.Json
