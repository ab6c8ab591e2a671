import Flowmeter.Text.Raw

/-! What the system tells of a program while it runs and afterwards. -/
namespace Flowmeter.Machine

/-- A program: the file it was started from, and its arguments, its own name first. -/
structure Program where
  fileName : List UInt8
  arguments : List (List UInt8)
  deriving DecidableEq, Repr

/-- How far a program has come. -/
inductive Stage
  | running
  /-- It has ended, and nobody has asked how. -/
  | exited
  | gone
  deriving DecidableEq, Repr

namespace Program

/-- How many octets of a file name the system keeps. -/
def shortNameLength : Nat := 15

/-- The name that stands for a program without arguments. -/
def shortName (program : Program) : String :=
  String.ofList
    (['['] ++ (Text.Raw.ofBytes (program.fileName.take shortNameLength)).shown ++ [']'])

/-- The arguments that are not empty, with spaces between them; none if one of them is not
Unicode. -/
def argumentText? (program : Program) : Option String := do
  let arguments ← program.arguments.mapM fun argument => (Text.Raw.ofBytes argument).text?
  return " ".intercalate (arguments.filter fun argument => !argument.isEmpty)

/-- The command line that the system tells. A program that has ended has no arguments. -/
def command? (program : Program) : Stage → Option String
  | .running => program.argumentText?
  | .exited => some program.shortName
  | .gone => none

/-- Whether the system lists the program. -/
def isListed : Stage → Bool
  | .running | .exited => true
  | .gone => false

/-- How many sockets the system tells of for a program that has none. -/
def socketCount? : Stage → Option Nat
  | .running => some 0
  | .exited | .gone => none

end Program

end Flowmeter.Machine
