/-! Paths of files.

A path is a text of components between slashes. Empty components and single dots,
a leading one apart, say nothing; they are skipped when a path is taken apart. -/
namespace Flowmeter.Path

/-- The parts of a path that name something, among them `.` and `..`. -/
def components (path : String) : List String :=
  ((path.toList.splitOn '/').filter fun part => !part.isEmpty).map String.ofList

def isAbsolute (path : String) : Bool := path.toList.head? == some '/'

/-- Whether the path can only be one of a directory. -/
def namesDirectory (path : String) : Bool := path.toList.getLast? == some '/'

/-- The path of `name` in the directory `base`. -/
def join (base name : String) : String :=
  if isAbsolute name then name
  else if base.isEmpty || namesDirectory base then base ++ name
  else base ++ "/" ++ name

/-- Drops what says nothing at the end of a path: slashes, and dots behind a slash. Takes
and gives the path reversed. -/
def trimmed : List Char → List Char
  | ['/'] => ['/']
  | '/' :: rest => trimmed rest
  | '.' :: '/' :: rest => trimmed ('/' :: rest)
  | path => path

/-- The path of the directory that a path lies in; none for a path of no component. -/
def parent? (path : String) : Option String :=
  let reversed := trimmed path.toList.reverse
  match reversed with
  | [] | ['/'] => none
  | reversed => some (String.ofList (trimmed (reversed.dropWhile (· != '/'))).reverse)

end Flowmeter.Path
