/-
# Surroundings

All that a run asks of the world outside: files, and connections to servers.  `Surroundings.folder`
is a world that consists of a folder in memory, where no server can be reached.
-/
import SchemaBridge.Config.Basic
import SchemaBridge.Files.Folder
import SchemaBridge.Live.Catalogue
import SchemaBridge.Text.Utf8
import SchemaBridge.Verification.Planner
import SchemaBridge.Verification.Pool

namespace SchemaBridge

/-- The world a run acts on. -/
structure Surroundings (m : Type → Type) where
  read : String → ExceptT ConvertError m (List UInt8)
  write : String → String → ExceptT ConvertError m Unit
  /-- Move a file over another one. -/
  move : String → String → ExceptT ConvertError m Unit
  /-- Whether there is a file at a path. -/
  has : String → m Bool
  /-- Connect to a database whose schema is to be read. -/
  catalogue : Connection → ExceptT ConvertError m Live.Catalogue
  /-- Connect to the endpoint that checks expressions. -/
  verifier : VerifierChoice → ExceptT ConvertError m (Verification.Request → Verification.Response)

namespace Surroundings

/-- Read a file that holds text. -/
def readText {m : Type → Type} [Monad m] (w : Surroundings m) (path : String) :
    ExceptT ConvertError m String := do
  match Text.utf8? (← w.read path) with
  | some text => return text
  | none => throw FileFault.notText.error

/-- The error when a database cannot be reached. -/
def unreachable (role : String) : ConvertError :=
  .pool "Error occurred while creating a new object: error connecting to server"
    ("testing " ++ role ++ " connection")

/-- The endpoint when no server can be reached.  A planner fails only when it is asked. -/
def unreachableVerifier : VerifierChoice → Outcome (Verification.Request → Verification.Response)
  | .server _ => .error (unreachable "verifier")
  | .planner url =>
    .ok fun r => { answer := some (Verification.unreachableAnswer url r), cancels := false }

/-- A step that changes a folder or finds a fault. -/
def change (f : Folder → Except FileFault Folder) : ExceptT ConvertError (StateM Folder) Unit := do
  match f (← get) with
  | .ok folder => set folder
  | .error fault => throw fault.error

/-- A folder in memory. -/
def folder : Surroundings (StateM Folder) where
  read path := do
    match (← get).read path with
    | .ok bytes => return bytes
    | .error fault => throw fault.error
  write path text := change fun f => f.write path text.toUTF8.toList
  move path goal := change fun f => f.move path goal
  has path := do return (← get).has path
  catalogue _ := throw (unreachable "source")
  verifier v := ExceptT.mk (pure (unreachableVerifier v))

end Surroundings

end SchemaBridge
