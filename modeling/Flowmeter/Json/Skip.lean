import Flowmeter.Json.Number
import Flowmeter.Json.Text

/-! Values that nobody asked for.

Their brackets have to match and their parts have to be JSON, but numbers of any size
and escapes of half a character pass. The open brackets are kept in a list, so values
may lie in each other to any depth. -/
namespace Flowmeter.Json

/-- What encloses a value. -/
inductive Bracket
  | list
  | object
  deriving DecidableEq, Repr

namespace Bracket

def closing : Bracket → Char
  | list => ']'
  | object => '\x7d'

def part : Bracket → Part
  | list => .list
  | object => .object

/-- What is wrong if neither a comma nor the closing bracket stands behind a part. -/
def isOpen : Bracket → Cause
  | list => .listOpen
  | object => .objectOpen

end Bracket

/-- Where in a value the reader is. -/
inductive Spot
  /-- In front of a value. -/
  | value
  /-- Behind a value. -/
  | behind
  /-- Behind an opening bracket. -/
  | opened
  deriving DecidableEq, Repr

/-- The text behind a number. One that ends too early is a bad number as well. -/
def skipNumber (text : List Char) : Except Fault (List Char) :=
  let parts := do
    let text := match text with
      | '-' :: rest => rest
      | _ => text
    let (_, text) ← Number.wholePart text
    let (_, text) ← Number.fractionPart text
    let (_, text) ← Number.exponentPart text
    return text
  parts.mapError fun fault => { fault with cause := .badNumber }

/-- The text behind a value that encloses no other. -/
def skipScalar (text : List Char) : Except Fault (List Char) :=
  match text with
  | 'n' :: rest => literal "ull".toList rest
  | 't' :: rest => literal "rue".toList rest
  | 'f' :: rest => literal "alse".toList rest
  | '"' :: rest => Text.skip rest
  | c :: _ => if Number.startsWith c then skipNumber text else .error (.upon .noValue text)
  | [] => .error (.before (.ended .value) [])

/-- The text behind the name of a member and its colon, for a bracket whose members have
names. -/
def skipName (bracket : Bracket) (text : List Char) : Except Fault (List Char) :=
  match bracket with
  | .list => .ok text
  | .object => do
    let text ← expect '"' .object .nameNotString text
    let text ← Text.skip text
    expectColon text

/-- The text behind the value that the reader is in, in at most `steps` steps. -/
def skipFrom : Nat → Spot → List Bracket → List Char → Except Fault (List Char)
  | 0, _, _, text => .error (.before (.ended .value) text)
  | steps + 1, .value, enclosing, text =>
    match skipSpace text with
    | [] => .error (.before (.ended .value) [])
    | '[' :: rest => skipFrom steps .opened (.list :: enclosing) rest
    | '\x7b' :: rest => skipFrom steps .opened (.object :: enclosing) rest
    | text => do
      let rest ← skipScalar text
      skipFrom steps .behind enclosing rest
  | _ + 1, _, [], text => .ok text
  | steps + 1, spot, bracket :: enclosing, text =>
    match skipSpace text with
    | [] => .error (.before (.ended bracket.part) [])
    | c :: rest =>
      if c = bracket.closing then skipFrom steps .behind enclosing rest
      else if spot = .opened then do
        let text ← skipName bracket (c :: rest)
        skipFrom steps .value (bracket :: enclosing) text
      else if c = ',' then do
        let text ← skipName bracket rest
        skipFrom steps .value (bracket :: enclosing) text
      else .error (.upon bracket.isOpen (c :: rest))

/-- The text behind a value of any kind. Each character is looked at in two steps at most. -/
def skipValue (text : List Char) : Except Fault (List Char) :=
  skipFrom (2 * text.length + 2) .value [] text

end Flowmeter.Json
