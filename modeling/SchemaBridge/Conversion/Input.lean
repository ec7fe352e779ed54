/-
# Inputs

What a configuration names as the source of a schema, and how the schema is read from it.
-/
import SchemaBridge.Config.Basic
import SchemaBridge.Digest.Sha256
import SchemaBridge.Dump.Reader
import SchemaBridge.Dynamo.Reader
import SchemaBridge.Live.Reader
import SchemaBridge.Text.Utf8

namespace SchemaBridge

/-- Where a schema is read from. -/
inductive Input
  /-- A dump of a database, or an export if the database is DynamoDB. -/
  | file (dialect : SourceDialect) (path : String)
  /-- A live PostgreSQL database. -/
  | server (connection : Connection)
  deriving DecidableEq, Repr, Inhabited

namespace Input

/-- The dialect of what is read. -/
def dialect : Input → SourceDialect
  | file d _ => d
  | server _ => .postgres

/-- The source that a configuration names. -/
def choose (s : SourceChoice) : Outcome Input :=
  match s.dump, s.connection, s.dialect with
  | some path, _, d => .ok (file d path)
  | none, some c, .postgres => .ok (server c)
  | none, _, d => .error (.config ("no readable source configured for " ++ d.name))

end Input

/-- Read the contents of a file into a model. -/
def readContents (dialect : SourceDialect) (path : String) (b : Builder) (bytes : List UInt8) :
    Outcome Builder := do
  let audit := { b.model.audit with
    bytesRead := bytes.length
    sourceDigest := some (Digest.sha256 bytes) }
  let b := { b with model := { b.model with audit } }
  let text := Text.utf8Lenient bytes
  match dialect with
  | .dynamo => Dynamo.read path b text
  | d =>
    let reader ← Dump.Reader.start d
    return (← reader.read b text).2

end SchemaBridge
