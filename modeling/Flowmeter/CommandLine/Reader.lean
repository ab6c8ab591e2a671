import Flowmeter.CommandLine.Arguments
import Flowmeter.CommandLine.Similar

/-! Reading a command line.

The words are read from left to right. A long flag has its value behind an equals sign
or in the next word; short flags stand together in one word, and the rest of the word
behind one that takes a value is its value. The value in a word of its own is looked at
when the next flag or the end comes, so a word that fits nowhere is found first. -/
namespace Flowmeter.CommandLine

/-- What a word is by its look. -/
inductive Word
  /-- Two dashes: no flags follow. -/
  | separator
  | long (name : Text.Raw) (value : Option Text.Raw)
  /-- Short flags in one word. -/
  | cluster (letters : Text.Raw)
  | plain (text : Text.Raw)
  deriving DecidableEq, Repr

/-- A long flag's word behind its dashes, split at the first equals sign. -/
def splitValue : Text.Raw → Text.Raw × Option Text.Raw
  | [] => ([], none)
  | .char '=' :: rest => ([], some rest)
  | c :: rest =>
    let (name, value) := splitValue rest
    (c :: name, value)

def Word.of : Text.Raw → Word
  | [.char '-', .char '-'] => separator
  | .char '-' :: .char '-' :: rest => long (splitValue rest).1 (splitValue rest).2
  | [.char '-'] => plain [.char '-']
  | .char '-' :: letters => cluster letters
  | text => plain text

/-- A flag whose value comes in a word of its own, and that word once it has been read. -/
structure Pending where
  flag : Flag
  value : Option Text.Raw := none
  deriving DecidableEq, Repr

/-- What has been read so far. -/
structure Reader where
  arguments : Arguments := {}
  /-- The flags that were given, in order. -/
  given : List Flag := []
  pending : Option Pending := none
  deriving DecidableEq, Repr

namespace Reader

/-- Takes a flag with its value. -/
def accept (reader : Reader) (flag : Flag) (value : Option Text.Raw) : Except Refusal Reader := do
  if flag.takesValue && value.isNone then throw (.missingValue flag)
  if flag ∈ reader.given then throw (.repeated flag)
  let arguments ← reader.arguments.give flag (value.getD [])
  return { reader with arguments, given := reader.given ++ [flag] }

/-- Takes the flag that waits for its value, if there is one. -/
def settle (reader : Reader) : Except Refusal Reader :=
  match reader.pending with
  | none => .ok reader
  | some pending => { reader with pending := none }.accept pending.flag pending.value

/-- Takes the flag that waits, and then another. -/
def take (reader : Reader) (flag : Flag) (value : Option Text.Raw) : Except Refusal Reader := do
  (← reader.settle).accept flag value

/-- Takes the flag that waits, and lets another wait. -/
def await (reader : Reader) (flag : Flag) : Except Refusal Reader := do
  return { ← reader.settle with pending := some { flag } }

/-- The flags that texts name once a word turns out unknown. The one that waits is among them
if it has its value, be that good or bad. -/
def namedFlags (reader : Reader) : List Flag :=
  match reader.pending with
  | some ⟨flag, some _⟩ =>
    if flag ∈ reader.given then reader.given.erase flag else reader.given ++ [flag]
  | _ => reader.given

/-- A text on which the program stops: it is no flag. -/
def unknown (text : Text.Raw) : Refusal := .unknown (String.ofList text.shown) none []

/-- An unknown long flag. -/
def unknownLong (reader : Reader) (name : Text.Raw) : Refusal :=
  .unknown ("--" ++ String.ofList name.shown)
    (Similar.best? name.shown (fun flag => flag.name.toList) Flag.all) reader.namedFlags

/-- A long flag. -/
def long (reader : Reader) (name : Text.Raw) (value : Option Text.Raw) :
    Except Refusal Reader :=
  match name.chars? >>= Flag.ofName? with
  | none => .error (reader.unknownLong name)
  | some flag =>
    match flag.takesValue, value with
    | true, none => reader.await flag
    | false, some value =>
      .error (.surplusValue flag (String.ofList value.shown) reader.given)
    | _, value => reader.take flag value

/-- The value in a word of short flags; an equals sign in front of it does not belong to
it. -/
def attached : Text.Raw → Text.Raw
  | .char '=' :: value => value
  | value => value

/-- Short flags in one word. -/
def cluster (reader : Reader) : Text.Raw → Except Refusal Reader
  | [] => .ok reader
  | .stray bytes :: rest => .error (unknown (.char '-' :: .stray bytes :: rest))
  | .char letter :: rest =>
    match Flag.ofLetter? letter with
    | none => .error (unknown [.char '-', .char letter])
    | some flag =>
      if flag.takesValue then
        if rest.isEmpty then reader.await flag else reader.take flag (some (attached rest))
      else do
        cluster (← reader.take flag none) rest

/-- A word that is no flag: the value of the flag that waits for one. -/
def plain (reader : Reader) (text : Text.Raw) : Except Refusal Reader :=
  match reader.pending with
  | some ⟨flag, none⟩ => .ok { reader with pending := some { flag, value := some text } }
  | _ => .error (unknown text)

/-- Reads the words. -/
def read (reader : Reader) : List Text.Raw → Except Refusal Arguments
  | [] => reader.settle.map (·.arguments)
  | word :: rest =>
    match Word.of word with
    | .separator =>
      match rest with
      | [] => reader.settle.map (·.arguments)
      | text :: _ => .error (unknown text)
    | .long name value => do (← reader.long name value).read rest
    | .cluster letters => do (← reader.cluster letters).read rest
    | .plain text => do (← reader.plain text).read rest

end Reader

/-- What a command line asks for. -/
def Arguments.read (words : List Text.Raw) : Except Refusal Arguments := ({} : Reader).read words

end Flowmeter.CommandLine
