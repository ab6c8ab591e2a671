import Flowmeter.Launch.Basic

/-! The program.

The places on the way to the settings file are read before the run, and what the run
put there is written after it. -/
namespace Flowmeter.Main

/-- What stands at an absolute path, if anything. -/
def readNode (path : String) : IO (Option FileNode) := do
  try
    return some (.file (← IO.FS.readBinFile path).toList)
  catch fault =>
    match fault with
    | .inappropriateType .. => return some .directory
    | _ => return none

/-- The absolute path of a place. -/
def pathOf (place : Place) : String := "/" ++ "/".intercalate place

/-- The directories on the way to a path, and what is at its end. -/
def readFiles (path : String) : IO FileTree := do
  let names := Path.components path
  let mut files : FileTree := {}
  for length in List.range names.length do
    let place := names.take (length + 1)
    match ← readNode (pathOf place) with
    | some .directory => files := files.put place .directory
    | some node => return files.put place node
    | none => return files
  return files

/-- Writes what is in `after` and not in `before`. -/
def writeFiles (before after : FileTree) : IO Unit := do
  for (place, node) in (after.nodes.take (after.nodes.length - before.nodes.length)).reverse do
    match node with
    | .directory => IO.FS.createDirAll (pathOf place)
    | .file content => IO.FS.writeBinFile (pathOf place) ⟨content.toArray⟩

/-- Where the user's files are. -/
def readPlaces : IO UserPlaces := do
  return { configHome := ← IO.getEnv "XDG_CONFIG_HOME", home := ← IO.getEnv "HOME" }

end Flowmeter.Main

open Flowmeter in
def main (words : List String) : IO UInt32 := do
  let places ← Main.readPlaces
  let before ← match Settings.path places with
    | .ok path => Main.readFiles path
    | .error _ => pure {}
  let run := Launch.run (words.map Text.Raw.ofString) places before
  Main.writeFiles before run.files
  IO.print run.output
  IO.eprint run.errors
  return run.code
