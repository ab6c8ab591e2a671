import Flowmeter.CommandLine.Flag
import Flowmeter.Program
import Flowmeter.Text.Lines
import Flowmeter.Text.Numeral
import Flowmeter.Text.Terminal

/-! Why a command line is not carried out: what is wrong with it, or the request for help
or the version.

What is said is written for a terminal, with what was given and what may be given set
off. `Refusal.text` is what is left of it without a terminal. -/
namespace Flowmeter.CommandLine

/-- What is wrong with the value of a flag. -/
inductive ValueFault
  | numeral (fault : Text.Numeral.Fault)
  /-- The number is not within these bounds. -/
  | outOfRange (number low high : UInt64)
  | noDirection (text : String)
  | noOrder (text : String)
  deriving DecidableEq, Repr

def ValueFault.message : ValueFault → String
  | numeral fault => fault.message
  | outOfRange number low high =>
    toString number.toNat ++ " is not in " ++ toString low.toNat ++ "..=" ++ toString high.toNat
  | noDirection text => "invalid capture mode '" ++ text ++ "', expected a, s or r"
  | noOrder text => "invalid order '" ++ text ++ "', expected a or d"

/-- Why a command line is not carried out. -/
inductive Refusal
  | missingValue (flag : Flag)
  /-- A word that is no flag. The word may be like a flag; `given` are the flags before. -/
  | unknown (word : String) (like? : Option Flag) (given : List Flag)
  /-- A value for a flag that takes none. -/
  | surplusValue (flag : Flag) (value : String) (given : List Flag)
  | repeated (flag : Flag)
  | notUnicode
  | badValue (flag : Flag) (value : String) (fault : ValueFault)
  | help
  | version
  deriving DecidableEq, Repr

namespace Refusal

open Text.Terminal (highlighted)

/-- What is said first. -/
def headline : Refusal → String
  | missingValue flag =>
    "error: a value is required for '" ++ highlighted flag.shown ++ "' but none was supplied"
  | unknown word _ _ => "error: unexpected argument '" ++ highlighted word ++ "' found"
  | surplusValue flag value _ =>
    "error: unexpected value '" ++ highlighted value ++ "' for '" ++ highlighted flag.shown ++
      "' found; no more were expected"
  | repeated flag =>
    "error: the argument '" ++ highlighted flag.shown ++ "' cannot be used multiple times"
  | notUnicode => "error: invalid UTF-8 was detected in one or more arguments"
  | badValue flag value fault =>
    "error: invalid value '" ++ highlighted value ++ "' for '" ++ highlighted flag.shown ++ "': " ++
      fault.message
  | help => Program.purpose
  | version => Program.name ++ " " ++ Program.version

/-- How the program is called with these arguments, or with any. -/
def usage (arguments : List String) : String :=
  "Usage: " ++ Program.name ++ " " ++
    if arguments.isEmpty then "[OPTIONS]" else " ".intercalate arguments

/-- What stands for any of the options. -/
def anyOption : String := "<" ++ "|".intercalate (Flag.options.map Flag.shown) ++ ">"

/-- How the program is called with a flag and others. If options were given before, any may
be; the flag is shown beside them only if it is none of them. -/
def usageBeside (given : List Flag) (flag : Flag) : String :=
  if given.isEmpty then usage [flag.shown]
  else if flag ∈ Flag.options then usage [anyOption]
  else usage [flag.shown, anyOption]

/-- The paragraphs after the headline, each behind an empty line. -/
def paragraphs : Refusal → List String
  | missingValue _ | badValue _ _ _ => []
  | unknown _ none given => [usage (given.map Flag.shown)]
  | unknown _ (some like) given =>
    ["  tip: a similar argument exists: '" ++ highlighted ("--" ++ like.name) ++ "'",
      usage ((if like ∈ given then given else given ++ [like]).map Flag.shown)]
  | surplusValue flag _ given => [usageBeside given flag]
  | repeated _ | notUnicode => [usage []]
  | help =>
    [usage [], "Options:\n" ++ "\n".intercalate (Flag.all.map Flag.helpLine)]
  | version => []

/-- Whether something is wrong with the command line. -/
def isError : Refusal → Bool
  | help | version => false
  | _ => true

/-- All that is said, as a terminal gets it. -/
def styled (refusal : Refusal) : String :=
  let closing := if refusal.isError
    then ["For more information, try '" ++ highlighted "--help" ++ "'."] else []
  "\n\n".intercalate (refusal.headline :: refusal.paragraphs ++ closing) ++ "\n"

/-- All that is said. -/
def text (refusal : Refusal) : String := Text.Terminal.plain refusal.styled

/-- What is wrong, in one line. -/
def summary (refusal : Refusal) : String :=
  String.ofList (Text.firstLine refusal.text.toList)

end Refusal

end Flowmeter.CommandLine
