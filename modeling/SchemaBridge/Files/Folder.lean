/-
# Folders in memory

A folder with files in it, some of them in folders of their own.  A run over such a folder is a
function of its contents.
-/
import SchemaBridge.Error
import SchemaBridge.Files.Path

namespace SchemaBridge

/-- Why a file could not be had. -/
inductive FileFault
  | missing
  | notFolder
  | isFolder
  | nameTooLong
  /-- The bytes of a file are no text. -/
  | notText
  deriving DecidableEq, Repr, Inhabited

namespace FileFault

/-- What the system says of a fault. -/
def message : FileFault → String
  | missing => "No such file or directory (os error 2)"
  | notFolder => "Not a directory (os error 20)"
  | isFolder => "Is a directory (os error 21)"
  | nameTooLong => "File name too long (os error 36)"
  | notText => "stream did not contain valid UTF-8"

/-- The error that a fault ends a run with. -/
def error (f : FileFault) : ConvertError := .file f.message

end FileFault

/-- Files by the parts of their paths. -/
structure Folder where
  files : List (List String × List UInt8)
  deriving DecidableEq, Repr, Inhabited

namespace Folder

/-- A folder without files. -/
def empty : Folder := ⟨[]⟩

/-- The contents of the file at a place. -/
def file? (f : Folder) (place : List String) : Option (List UInt8) := f.files.lookup place

/-- Whether a place is a folder: the outermost one, or one that has files. -/
def isFolder (f : Folder) (place : List String) : Bool :=
  place.isEmpty || f.files.any fun e => place.length < e.1.length && place.isPrefixOf e.1

/-- The place that the parts of a path lead to from a place.  Every part before the last one must be
a folder. -/
def follow (f : Folder) : List String → List String → Except FileFault (List String)
  | place, [] => .ok place
  | place, p :: r =>
    if f.isFolder place then
      if p = ".." then (if place.isEmpty then .error .missing else follow f place.dropLast r)
      else if 255 < p.utf8ByteSize then .error .nameTooLong
      else follow f (place ++ [p]) r
    else if (f.file? place).isSome then .error .notFolder
    else .error .missing

/-- The place that a path leads to. -/
def locate (f : Folder) (path : String) : Except FileFault (List String) := do
  if path = "" || Path.isAbsolute path then throw .missing
  let place ← f.follow [] (Path.parts path)
  if path.toList.getLast? = some '/' && (f.file? place).isSome then throw .notFolder
  return place

/-- Read a file. -/
def read (f : Folder) (path : String) : Except FileFault (List UInt8) := do
  let place ← f.locate path
  if f.isFolder place then throw .isFolder
  match f.file? place with
  | some bytes => return bytes
  | none => throw .missing

/-- Put contents at a place. -/
def put (f : Folder) (place : List String) (bytes : List UInt8) : Folder :=
  ⟨(f.files.filter fun e => e.1 ≠ place) ++ [(place, bytes)]⟩

/-- Write a file. -/
def write (f : Folder) (path : String) (bytes : List UInt8) : Except FileFault Folder := do
  let place ← f.locate path
  if f.isFolder place then throw .isFolder
  return f.put place bytes

/-- Move a file over another one. -/
def move (f : Folder) (path goal : String) : Except FileFault Folder := do
  let bytes ← f.read path
  let place ← f.locate path
  let goalPlace ← f.locate goal
  if f.isFolder goalPlace then throw .isFolder
  return Folder.put ⟨f.files.filter fun e => e.1 ≠ place⟩ goalPlace bytes

/-- Whether a path leads to a file or a folder. -/
def has (f : Folder) (path : String) : Bool :=
  match f.locate path with
  | .ok place => f.isFolder place || (f.file? place).isSome
  | .error _ => false

end Folder

end SchemaBridge
