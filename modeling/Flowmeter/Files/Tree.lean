import Flowmeter.Files.Path

/-! A tree of files.

The tree holds directories and files by their place, the list of names that leads to
them from the root. Paths are followed name by name from the root or the working
directory, so each fault is the first that following the path meets. -/
namespace Flowmeter

/-- Why a file operation failed. -/
inductive FileFault
  | notFound
  | alreadyExists
  | notDirectory
  | isDirectory
  | nameTooLong
  /-- No path holds the character that ends a path for the system. -/
  | holdsEnd
  deriving DecidableEq, Repr

/-- What the system calls a fault. -/
def FileFault.message : FileFault → String
  | notFound => "No such file or directory (os error 2)"
  | alreadyExists => "File exists (os error 17)"
  | notDirectory => "Not a directory (os error 20)"
  | isDirectory => "Is a directory (os error 21)"
  | nameTooLong => "File name too long (os error 36)"
  | holdsEnd => "file name contained an unexpected NUL byte"

/-- What stands at a place. -/
inductive FileNode
  | file (content : List UInt8)
  | directory
  deriving DecidableEq, Repr

/-- The names that lead from the root to a file or directory. -/
abbrev Place := List String

/-- Files and directories by place, newest first, and the working directory. -/
structure FileTree where
  nodes : List (Place × FileNode) := []
  workingDirectory : Place := []
  deriving DecidableEq, Repr

namespace FileTree

/-- What stands at a place; the root is always a directory. -/
def node? (tree : FileTree) (place : Place) : Option FileNode :=
  if place.isEmpty then some .directory else tree.nodes.lookup place

/-- The tree with `node` at a place. -/
def put (tree : FileTree) (place : Place) (node : FileNode) : FileTree :=
  { tree with nodes := (place, node) :: tree.nodes }

/-- The tree of one empty directory, which is the working directory. -/
def inDirectory (place : Place) : FileTree where
  nodes := (List.range (place.length + 1)).map fun length => (place.take length, .directory)
  workingDirectory := place

/-- How many octets a name may have. -/
def maxNameSize : Nat := 255

/-- How many octets a path may have. -/
def maxPathSize : Nat := 4095

/-- Refuses a path that the system cannot be asked about. -/
def checkPath (path : String) : Except FileFault Unit :=
  if path.toList.contains '\x00' then .error .holdsEnd
  else if maxPathSize < path.utf8ByteSize then .error .nameTooLong
  else .ok ()

/-- Where one name leads from a place. -/
def enter (tree : FileTree) (place : Place) (name : String) : Except FileFault Place :=
  if tree.node? place != some .directory then .error .notDirectory
  else if name == "." then .ok place
  else if name == ".." then .ok place.dropLast
  else if maxNameSize < name.utf8ByteSize then .error .nameTooLong
  else if (tree.node? (place ++ [name])).isSome then .ok (place ++ [name])
  else .error .notFound

/-- Where following a path begins. -/
def origin (tree : FileTree) (path : String) : Place :=
  if Path.isAbsolute path then [] else tree.workingDirectory

/-- The place a path leads to. -/
def resolve (tree : FileTree) (path : String) : Except FileFault Place := do
  checkPath path
  if path.isEmpty then throw .notFound
  else
    let names := Path.components path ++ if Path.namesDirectory path then ["."] else []
    names.foldlM tree.enter (tree.origin path)

def contains (tree : FileTree) (path : String) : Bool :=
  match tree.resolve path with
  | .ok _ => true
  | .error _ => false

/-- The content of a file. -/
def read (tree : FileTree) (path : String) : Except FileFault (List UInt8) := do
  match tree.node? (← tree.resolve path) with
  | some (.file content) => return content
  | some .directory => throw .isDirectory
  | none => throw .notFound

/-- The place where a file of a path is, or may be put; and what is in it. -/
def open? (tree : FileTree) (path : String) : Except FileFault (Place × List UInt8) := do
  match tree.resolve path with
  | .ok place =>
    match tree.node? place with
    | some (.file content) => return (place, content)
    | _ => throw .isDirectory
  | .error .notFound =>
    match (Path.components path).reverse with
    | [] => throw .notFound
    | name :: above =>
      let directory ← above.reverse.foldlM tree.enter (tree.origin path)
      if tree.node? directory != some .directory then throw .notDirectory
      if Path.namesDirectory path then throw .isDirectory
      return (directory ++ [name], [])
  | .error fault => throw fault

/-- Writes a file, in place of what it held. -/
def write (tree : FileTree) (path : String) (content : List UInt8) :
    Except FileFault FileTree := do
  let (place, _) ← tree.open? path
  return tree.put place (.file content)

/-- Writes to the end of a file. -/
def append (tree : FileTree) (path : String) (content : List UInt8) :
    Except FileFault FileTree := do
  let (place, before) ← tree.open? path
  return tree.put place (.file (before ++ content))

/-- Goes on from a place into directories by name; those that are missing are made. -/
def makeAlong (tree : FileTree) (place : Place) : List String → Except FileFault FileTree
  | [] => .ok tree
  | name :: rest => do
    match tree.enter place name with
    | .ok next =>
      if tree.node? next != some .directory then
        throw (if rest.isEmpty then .alreadyExists else .notDirectory)
      tree.makeAlong next rest
    | .error .notFound =>
      let next := place ++ [name]
      (tree.put next .directory).makeAlong next rest
    | .error fault => throw fault

/-- Makes the directory of a path and those it lies in, as far as they are missing. -/
def makeDirectories (tree : FileTree) (path : String) : Except FileFault FileTree := do
  checkPath path
  tree.makeAlong (tree.origin path) (Path.components path)

end FileTree

end Flowmeter
