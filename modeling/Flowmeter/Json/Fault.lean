import Flowmeter.Text.Quoted

/-! Why a JSON text is refused, and where.

A text is refused for the first thing that is wrong with it, reading from the left: it
ends too early, it is not JSON, or it is JSON of another kind than what is wanted. A
`Fault` knows how many octets were not looked at by then, so its place in the whole text
follows from the text alone. -/
namespace Flowmeter.Json

/-- What a text ends within. -/
inductive Part
  | value
  | string
  | list
  | object
  deriving DecidableEq, Repr

def Part.name : Part → String
  | value => "a value"
  | string => "a string"
  | list => "a list"
  | object => "an object"

/-- What stands in place of something else. -/
inductive Found
  | null
  | boolean (value : Bool)
  | integer (value : Int)
  /-- A number that is no integer of 64 bits, as it is written shortest. -/
  | double (text : String)
  | string (text : String)
  | list
  | object
  deriving DecidableEq, Repr

def Found.description : Found → String
  | null => "null"
  | boolean value => "boolean `" ++ toString value ++ "`"
  | integer value => "integer `" ++ toString value ++ "`"
  | double text => "floating point `" ++ text ++ "`"
  | string text => "string " ++ Text.quoted text
  | list => "sequence"
  | object => "map"

/-- What is wrong. -/
inductive Cause
  /-- The text ends too early. -/
  | ended (part : Part)
  | noColon
  /-- Neither a comma nor the end of a list stands behind an element. -/
  | listOpen
  /-- Neither a comma nor the end of an object stands behind a member. -/
  | objectOpen
  /-- A word that begins like `null`, `true` or `false` is none of them. -/
  | noWord
  | noValue
  | badEscape
  | badNumber
  /-- No double is as large as the number. -/
  | hugeNumber
  /-- A control character stands in a string. -/
  | controlCharacter
  | nameNotString
  /-- An escape stands for the second half of a character, or for a first half before which no
  second one stands. -/
  | loneHalf
  /-- No escape follows one that stands for half a character. -/
  | missingHalf
  | trailingComma
  | trailingText
  /-- A value of another kind than what is wanted. -/
  | unwanted (found : Found) (wanted : String)
  | outOfRange (value : Int) (wanted : String)
  | unknownName (name : String) (known : List String)
  | repeatedName (name : String)
  deriving DecidableEq, Repr

/-- The three ways in which a text is refused. -/
inductive FaultKind
  /-- It ends too early. -/
  | truncated
  /-- It is not JSON. -/
  | malformed
  /-- It says something else than what is wanted. -/
  | unsuitable
  deriving DecidableEq, Repr

namespace Cause

def kind : Cause → FaultKind
  | ended _ => .truncated
  | unwanted _ _ | outOfRange _ _ | unknownName _ _ | repeatedName _ => .unsuitable
  | _ => .malformed

/-- Names to choose from. -/
def choice (names : List String) : String :=
  match names.map fun name => "`" ++ name ++ "`" with
  | [first, second] => first ++ " or " ++ second
  | names => (if names.length = 1 then "" else "one of ") ++ ", ".intercalate names

def message : Cause → String
  | ended part => "EOF while parsing " ++ part.name
  | noColon => "expected `:`"
  | listOpen => "expected `,` or `]`"
  | objectOpen => "expected `,` or `\x7d`"
  | noWord => "expected ident"
  | noValue => "expected value"
  | badEscape => "invalid escape"
  | badNumber => "invalid number"
  | hugeNumber => "number out of range"
  | controlCharacter => "control character (\\u0000-\\u001F) found while parsing a string"
  | nameNotString => "key must be a string"
  | loneHalf => "lone leading surrogate in hex escape"
  | missingHalf => "unexpected end of hex escape"
  | trailingComma => "trailing comma"
  | trailingText => "trailing characters"
  | unwanted found wanted => "invalid type: " ++ found.description ++ ", expected " ++ wanted
  | outOfRange value wanted =>
    "invalid value: " ++ (Found.integer value).description ++ ", expected " ++ wanted
  | unknownName name known => "unknown variant `" ++ name ++ "`, expected " ++ choice known
  | repeatedName name => "duplicate field `" ++ name ++ "`"

end Cause

/-- A place in a text: the line, from 1 on, and how many octets of it have been read. -/
structure Position where
  line : Nat
  column : Nat
  deriving DecidableEq, Repr

/-- The place behind octets. -/
def Position.behind (octets : List UInt8) : Position where
  line := octets.count 10 + 1
  column := (octets.reverse.takeWhile (· != 10)).length

/-- What is wrong with a text. -/
structure Fault where
  cause : Cause
  /-- How many octets of the text have not been looked at. -/
  left : Nat
  deriving DecidableEq, Repr

namespace Fault

/-- A fault that shows in front of the rest of the text. -/
def before (cause : Cause) (rest : List Char) : Fault where
  cause
  left := (String.ofList rest).utf8ByteSize

/-- A fault that the first octet of the rest shows, if there is one. -/
def upon (cause : Cause) (rest : List Char) : Fault where
  cause
  left := (String.ofList rest).utf8ByteSize - 1

/-- Where the fault is in the whole text. -/
def position (fault : Fault) (text : List Char) : Position :=
  let octets := (String.ofList text).toUTF8.toList
  .behind (octets.take (octets.length - fault.left))

end Fault

end Flowmeter.Json
