/-! Text that need not be Unicode.

Command line words and file paths are byte strings. A `Raw` text is such a string
read as UTF-8: characters, and between them the stretches that are not UTF-8, each
as long as a well-formed start reaches. No byte of the string is lost. -/
namespace Flowmeter.Text

/-- A character, or bytes that are no part of one. -/
inductive RawChar
  | char (c : Char)
  | stray (bytes : List UInt8)
  deriving DecidableEq, Repr

abbrev Raw := List RawChar

namespace Raw

def ofString (text : String) : Raw := text.toList.map .char

instance : Coe String Raw := ⟨ofString⟩

/-- What the bytes after a first byte must lie between; none if no character starts with it. -/
def tailRanges? (first : UInt8) : Option (List (UInt8 × UInt8)) :=
  if first < 0x80 then some []
  else if first < 0xC2 then none
  else if first < 0xE0 then some [(0x80, 0xBF)]
  else if first == 0xE0 then some [(0xA0, 0xBF), (0x80, 0xBF)]
  else if first == 0xED then some [(0x80, 0x9F), (0x80, 0xBF)]
  else if first < 0xF0 then some [(0x80, 0xBF), (0x80, 0xBF)]
  else if first == 0xF0 then some [(0x90, 0xBF), (0x80, 0xBF), (0x80, 0xBF)]
  else if first < 0xF4 then some [(0x80, 0xBF), (0x80, 0xBF), (0x80, 0xBF)]
  else if first == 0xF4 then some [(0x80, 0x8F), (0x80, 0xBF), (0x80, 0xBF)]
  else none

/-- The bytes that fit the ranges, as far as they do. -/
def fitting : List (UInt8 × UInt8) → List UInt8 → List UInt8
  | (low, high) :: ranges, byte :: rest =>
    if low ≤ byte && byte ≤ high then byte :: fitting ranges rest else []
  | _, _ => []

/-- The code point of a well-formed sequence. -/
def codePoint (first : UInt8) (tail : List UInt8) : Nat :=
  let lead := match tail.length with
    | 0 => first.toNat
    | 1 => first.toNat % 32
    | 2 => first.toNat % 16
    | _ => first.toNat % 8
  tail.foldl (fun n byte => 64 * n + byte.toNat % 64) lead

/-- A byte string read as UTF-8. -/
def ofBytes : List UInt8 → Raw
  | [] => []
  | first :: rest =>
    match tailRanges? first with
    | none => .stray [first] :: ofBytes rest
    | some ranges =>
      let tail := fitting ranges rest
      let here := if tail.length = ranges.length
        then RawChar.char (Char.ofNat (codePoint first tail)) else .stray (first :: tail)
      here :: ofBytes (rest.drop tail.length)
termination_by bytes => bytes.length
decreasing_by all_goals simp only [List.length_cons, List.length_drop]; omega

/-- The text, if all of it is characters. -/
def chars? (raw : Raw) : Option (List Char) :=
  raw.mapM fun
    | .char c => some c
    | .stray _ => none

/-- The text, if all of it is characters. -/
def text? (raw : Raw) : Option String := raw.chars?.map String.ofList

/-- The characters, with a replacement character for each stretch that is none. -/
def shown (raw : Raw) : List Char :=
  raw.map fun
    | .char c => c
    | .stray _ => '\uFFFD'

theorem chars?_ofString (text : String) : chars? (ofString text) = some text.toList := by
  rw [ofString, chars?, List.mapM_map]
  induction text.toList with
  | nil => rfl
  | cons c rest ih => simp_all [Function.comp_def]

theorem text?_ofString (text : String) : text? (ofString text) = some text := by
  simp [text?, chars?_ofString]

end Raw

end Flowmeter.Text
