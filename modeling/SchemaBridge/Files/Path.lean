/-
# Paths

The parts of a path that tell a file from the folder it is in.
-/
import SchemaBridge.Text.Pattern

namespace SchemaBridge.Path

/-- Drop slashes and references to the same folder from the end of a path, whose characters are given
last first. -/
def dropTail : List Char → List Char
  | '.' :: '/' :: r => dropTail ('/' :: r)
  | '/' :: c :: r => dropTail (c :: r)
  | s => s

/-- The last part of a path, and the path of the folder it is in. -/
def split (path : String) : String × String :=
  let s := dropTail path.toList.reverse
  let name := s.takeWhile (· ≠ '/')
  let folder := dropTail (s.dropWhile (· ≠ '/'))
  (String.ofList name.reverse, String.ofList folder.reverse)

/-- The name of the file that a path leads to. -/
def fileName? (path : String) : Option String :=
  let name := (split path).1
  if ["", ".", ".."].contains name then none else some name

/-- The name of a file without what follows its last dot.  A dot at the beginning does not count. -/
def stem? (path : String) : Option String :=
  (fileName? path).map fun name =>
    match Text.breakAtLast? '.' name.toList with
    | some (c :: r, _) => String.ofList (c :: r)
    | _ => name

/-- A path within a folder. -/
def inFolder (folder name : String) : String :=
  if folder = "" then name
  else if folder.toList.getLast? = some '/' then folder ++ name
  else folder ++ "/" ++ name

/-- The path of a file beside another one. -/
def sibling (path name : String) : String :=
  if (fileName? path).isSome then inFolder (split path).2 name else inFolder path name

/-- A text without an ending. -/
def withoutEnding? (ending text : String) : Option String :=
  (Text.dropPiece? ending.toList.reverse text.toList.reverse).map fun r => String.ofList r.reverse

/-- The parts of a path between its slashes; empty ones and references to the same folder are left
out. -/
def parts (path : String) : List String :=
  ((Text.splitAtChar '/' path.toList).map String.ofList).filter fun p => p ≠ "" && p ≠ "."

/-- Whether a path begins at the root. -/
def isAbsolute (path : String) : Bool := path.toList.head? == some '/'

end SchemaBridge.Path
