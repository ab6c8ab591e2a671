import Flowmeter.Json.Scan
import Flowmeter.Text.Hex

/-! Strings in JSON text.

`Text.write` puts a string between quotes, `Text.read` reads what stands between them:
any spelling of a character, those beyond 16 bits also as two escapes. `Text.skip` only
looks for the end, so it takes escapes of half a character too. -/
namespace Flowmeter.Json.Text

/-- The character behind a backslash that stands for one of two characters long. -/
def simpleEscape? : Char → Option Char
  | '"' => some '"'
  | '\\' => some '\\'
  | '/' => some '/'
  | 'b' => some '\x08'
  | 'f' => some '\x0C'
  | 'n' => some '\n'
  | 'r' => some '\r'
  | 't' => some '\t'
  | _ => none

/-- The number that the four hexadecimal digits in front write. Four octets are looked at
together, so a text of fewer is truncated. -/
def unit (text : List Char) : Except Fault Nat :=
  if (String.ofList (text.take 4)).utf8ByteSize < 4 then .error (.before (.ended .string) [])
  else match Flowmeter.Text.Hex.number? (text.take 4) with
    | some unit => .ok unit
    | none => .error ⟨.badEscape, (String.ofList text).utf8ByteSize - 4⟩

def isLeading (unit : Nat) : Bool := 0xD800 ≤ unit && unit < 0xDC00

def isTrailing (unit : Nat) : Bool := 0xDC00 ≤ unit && unit < 0xE000

/-- The unit of a second escape, which begins the text. -/
def secondUnit (text : List Char) : Except Fault Nat :=
  match text with
  | [] | ['\\'] => .error (.before (.ended .string) [])
  | '\\' :: 'u' :: rest => unit rest
  | '\\' :: rest => .error (.upon .missingHalf rest)
  | text => .error (.upon .missingHalf text)

/-- The character of a numbered escape and the length of what follows `u`. A character beyond
16 bits takes two escapes, of a leading and a trailing unit. -/
def numbered (text : List Char) : Except Fault (Char × Nat) := do
  let first ← unit text
  if isTrailing first then throw (.before .loneHalf (text.drop 4))
  if isLeading first then
    let second ← secondUnit (text.drop 4)
    if isTrailing second then
      return (Char.ofNat (0x10000 + 0x400 * (first - 0xD800) + (second - 0xDC00)), 10)
    throw (.before .loneHalf (text.drop 10))
  return (Char.ofNat first, 4)

/-- The character of an escape and the length of what follows the backslash. -/
def escape (text : List Char) : Except Fault (Char × Nat) :=
  match text with
  | [] => .error (.before (.ended .string) [])
  | 'u' :: rest => do
    let (c, length) ← numbered rest
    return (c, length + 1)
  | mark :: _ =>
    match simpleEscape? mark with
    | some c => .ok (c, 1)
    | none => .error (.upon .badEscape text)

/-- What stands before the closing quote, and the text behind it. -/
def read : List Char → Except Fault (List Char × List Char)
  | [] => .error (.before (.ended .string) [])
  | c :: rest =>
    if c = '"' then .ok ([], rest)
    else if c = '\\' then do
      let (escaped, length) ← escape rest
      let (more, rest) ← read (rest.drop length)
      return (escaped :: more, rest)
    else if c < ' ' then .error (.upon .controlCharacter (c :: rest))
    else do
      let (more, rest) ← read rest
      return (c :: more, rest)
termination_by text => text.length
decreasing_by all_goals simp only [List.length_cons, List.length_drop]; omega

/-- The length of what follows the backslash of an escape, whatever it stands for. -/
def escapeLength (text : List Char) : Except Fault Nat :=
  match text with
  | [] => .error (.before (.ended .string) [])
  | 'u' :: rest => (unit rest).map fun _ => 5
  | mark :: _ => if (simpleEscape? mark).isSome then .ok 1 else .error (.upon .badEscape text)

/-- The text behind the closing quote. -/
def skip : List Char → Except Fault (List Char)
  | [] => .error (.before (.ended .string) [])
  | c :: rest =>
    if c = '"' then .ok rest
    else if c = '\\' then do
      let length ← escapeLength rest
      skip (rest.drop length)
    else if c < ' ' then .error (.before .controlCharacter (c :: rest))
    else skip rest
termination_by text => text.length
decreasing_by all_goals simp only [List.length_cons, List.length_drop]; omega

/-! ### Writing -/

/-- A character as it stands between quotes: quotes, backslashes and controls are escaped. -/
def escaped (c : Char) : List Char :=
  if c = '"' then ['\\', '"']
  else if c = '\\' then ['\\', '\\']
  else if c = '\x08' then ['\\', 'b']
  else if c = '\x0C' then ['\\', 'f']
  else if c = '\n' then ['\\', 'n']
  else if c = '\r' then ['\\', 'r']
  else if c = '\t' then ['\\', 't']
  else if c < ' ' then
    ['\\', 'u', '0', '0', Nat.digitChar (c.toNat / 16), Nat.digitChar (c.toNat % 16)]
  else [c]

/-- A string between quotes. -/
def write (text : List Char) : List Char := '"' :: (text.flatMap escaped ++ ['"'])

end Flowmeter.Json.Text
