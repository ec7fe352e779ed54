/-
# Configurations

Where a schema is read from, what it is written for, and how it is converted; and what this must satisfy
before it is used.  The first rule that is broken is reported.
-/
import SchemaBridge.Assembly.Draft
import SchemaBridge.Config.TlsMode
import SchemaBridge.Schema.Identifier
import SchemaBridge.Text.Quoted

namespace SchemaBridge

/-- How to reach a PostgreSQL server. -/
structure Connection where
  host : String
  tcpPort : Nat
  database : String
  user : String
  password : String
  /-- The schemas that are read. -/
  schemas : List String
  tlsMode : String
  deriving DecidableEq, Repr, Inhabited

/-- The endpoint that checks expressions. -/
inductive VerifierChoice
  /-- A server that prepares queries. -/
  | server (connection : Connection)
  /-- A planner that is reached by a URL. -/
  | planner (url : String)
  deriving DecidableEq, Repr, Inhabited

/-- Where the schema comes from. -/
structure SourceChoice where
  dialect : SourceDialect
  /-- Path of a dump or an export. -/
  dump : Option String
  connection : Option Connection
  deriving DecidableEq, Repr, Inhabited

/-- What the schema is written for. -/
structure TargetChoice where
  dialect : TargetDialect
  verifier : Option VerifierChoice
  /-- How long one check may take. -/
  timeoutSeconds : Nat
  deriving DecidableEq, Repr, Inhabited

/-- How the schema is converted. -/
structure ConversionChoice where
  collision : CollisionPolicy
  /-- Name of the key of tables that have none. -/
  syntheticKey : String
  /-- Number of checks under way at a time. -/
  workers : Option Nat
  /-- Whether a partial model is saved. -/
  savesPartial : Bool
  /-- What the names of the files that are written begin with. -/
  outputName : Option String
  deriving DecidableEq, Repr, Inhabited

/-- What a conversion is told: where the schema comes from, for whom it is meant, and how it is
converted. -/
structure Config where
  source : SourceChoice
  target : TargetChoice
  conversion : ConversionChoice
  deriving DecidableEq, Repr, Inhabited

/-- The target if a configuration names none. -/
def TargetChoice.default : TargetChoice :=
  { dialect := .google, verifier := none, timeoutSeconds := 10 }

/-- How a schema is converted if a configuration does not say. -/
def ConversionChoice.default : ConversionChoice :=
  { collision := .rename
    syntheticKey := "synth_id"
    workers := none
    savesPartial := false
    outputName := none }

namespace ConversionChoice

/-- Number of checks under way at a time. -/
def workerCount (c : ConversionChoice) : Nat := c.workers.getD 4

/-- Choose the number of workers, if it is left open: two for each processor, within bounds. -/
def tuned (c : ConversionChoice) (processors : Nat) : ConversionChoice :=
  { c with workers := some (c.workers.getD (max 2 (min 16 (2 * processors)))) }

end ConversionChoice

/-- A configuration in which the number of workers is settled, for a machine of so many
processors. -/
def Config.tuned (c : Config) (processors : Nat) : Config :=
  { c with conversion := c.conversion.tuned processors }

/-- A connection on one line, its password left out. -/
def Connection.display (c : Connection) : String :=
  "ConnectionConfig \x7b host: " ++ Text.quoted c.host
    ++ ", port: " ++ Text.decimal c.tcpPort
    ++ ", database: " ++ Text.quoted c.database
    ++ ", user: " ++ Text.quoted c.user
    ++ ", password: \"[REDACTED]\""
    ++ ", schemas: " ++ Text.quotedList c.schemas
    ++ ", ssl_mode: " ++ Text.quoted c.tlsMode ++ " \x7d"

/-! ## Valid configurations -/

/-- Refuse a configuration unless a condition holds. -/
def Config.demand (condition : Bool) (text : String) : Outcome Unit :=
  if condition then .ok () else .error (.config text)

/-- A connection names its host, database and user, and a mode of transport security. -/
def Connection.validate (c : Connection) (field : String) : Outcome Unit := do
  Config.demand (c.host ≠ "") (field ++ ".host is required")
  Config.demand (c.database ≠ "") (field ++ ".database is required")
  Config.demand (c.user ≠ "") (field ++ ".user is required")
  let _ ← TlsMode.parse c.tlsMode

/-- A source is a dump or a connection, but not both, and connections are for PostgreSQL. -/
def SourceChoice.validate (s : SourceChoice) : Outcome Unit :=
  match s.dump, s.connection with
  | some _, some _ =>
    .error (.config "source.dump and source.connection are mutually exclusive")
  | none, none => .error (.config "one of source.dump or source.connection is required")
  | some path, none => Config.demand (path ≠ "") "source.dump cannot be empty"
  | none, some c => do
    Config.demand (s.dialect = .postgres)
      ("source.connection is only supported for postgres, got '" ++ s.dialect.name ++ "'")
    c.validate "source.connection"
    Config.demand (!c.schemas.isEmpty)
      "source.connection.schemas must list at least one schema"

/-- Whether a text begins as a web address does. -/
def isWebAddress (url : String) : Bool :=
  ["http://", "https://"].any fun p => (Text.dropPiece? p.toList url.toList).isSome

/-- A verifier that prepares queries understands PostgreSQL alone. -/
def TargetChoice.validate (t : TargetChoice) : Outcome Unit := do
  match t.verifier with
  | some (.server c) =>
    Config.demand (t.dialect = .postgres)
      ("target.verifier kind 'postgres' requires target.dialect postgresql, got '"
        ++ t.dialect.name ++ "'")
    c.validate "target.verifier"
  | some (.planner url) =>
    Config.demand (isWebAddress url)
      ("target.verifier.url must be an http(s) URL, got '" ++ url ++ "'")
  | none => pure ()
  Config.demand (t.timeoutSeconds ≠ 0) "target.timeout_secs must be at least 1"

/-- There must be a worker, and the name for synthetic keys must be one. -/
def ConversionChoice.validate (c : ConversionChoice) : Outcome Unit := do
  Config.demand (c.workers ≠ some 0) "conversion.verify_workers must be at least 1"
  match Identifier.validate c.syntheticKey with
  | .ok () => return ()
  | .error e => throw (.config ("conversion.synthetic_key_column: " ++ e.message))

/-- Check a configuration. -/
def Config.validate (c : Config) : Outcome Unit := do
  c.source.validate
  c.target.validate
  c.conversion.validate

end SchemaBridge
