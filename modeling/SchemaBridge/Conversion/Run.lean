/-
# Runs

A run reads a schema, maps it to the target and verifies its expressions; or it takes the model from
a session and only verifies it.  What comes of it is kept as a session, as statements for the target
and as a report, in three files whose names begin alike.
-/
import SchemaBridge.Config.Basic
import SchemaBridge.Config.Encode
import SchemaBridge.Conversion.Input
import SchemaBridge.Conversion.Surroundings
import SchemaBridge.Ddl.Script
import SchemaBridge.Files.Path
import SchemaBridge.Mapper.Run
import SchemaBridge.Report.Encode
import SchemaBridge.Session.Envelope
import SchemaBridge.Verification.Run

namespace SchemaBridge

/-- What the names of the files begin with: what is configured, else the name of the dump without its
ending, else the name of the database. -/
def Config.outputName (c : Config) : String :=
  let derived := (c.source.dump.bind Path.stem?).orElse fun _ => c.source.connection.map (·.database)
  c.conversion.outputName.getD (derived.getD "schema")

/-- What the names begin with when a session is resumed: its path without the ending. -/
def resumedName (session : String) : String :=
  let name := (Path.fileName? session).getD "schema"
  let stem := (Path.withoutEnding? ".session.json" name).orElse fun _ =>
    Path.withoutEnding? ".json" name
  Path.sibling session (stem.getD name)

/-- Paths of the files that a run writes. -/
structure Outputs where
  session : String
  ddl : String
  report : String
  deriving DecidableEq, Repr, Inhabited

/-- The files of a run with a name. -/
def Outputs.named (name : String) : Outputs :=
  { session := name ++ ".session.json", ddl := name ++ ".ddl.sql", report := name ++ ".report.json" }

/-- What a run is given. -/
structure Job where
  config : Config
  /-- Identity of the request. -/
  requestId : String
  startedAt : Instant
  /-- Whether the run is cancelled before it begins. -/
  cancelled : Bool
  /-- A verifier that takes the place of the configured one. -/
  channel : Option (Verification.Request → Verification.Response)

/-- Load a session. -/
def Session.load {m : Type → Type} [Monad m] (w : Surroundings m) (path : String) :
    ExceptT ConvertError m (Session.Header × Model) := do
  let text ← w.readText path
  ExceptT.mk (pure (Session.decode text))

/-- Read the schema at an input into a builder. -/
def Input.read {m : Type → Type} [Monad m] (w : Surroundings m) (b : Builder) :
    Input → ExceptT ConvertError m Builder
  | .file d path => do
    let bytes ← w.read path
    ExceptT.mk (pure (readContents d path b bytes))
  | .server c => do
    let catalogue ← w.catalogue c
    ExceptT.mk (pure (Live.read catalogue b))

/-- A model, and whether the run that made it was cancelled. -/
structure Converted where
  model : Model
  cancelled : Bool
  deriving Repr, Inhabited

namespace Job

/-- Where the schema is built up. -/
def builder (job : Job) (source : SourceDialect) : Builder :=
  let c := job.config
  let audit := { Audit.start job.requestId job.startedAt with configFingerprint := some c.fingerprint }
  let b := Builder.start source c.target.dialect c.conversion.collision audit
  if job.cancelled then b.cancel else b

/-- How the target is asked. -/
def limits (job : Job) : Verification.Limits :=
  { workers := job.config.conversion.workerCount
    timeoutMilliseconds := 1000 * job.config.target.timeoutSeconds }

/-- The model of a session as this run takes it over. -/
def adopt (job : Job) (path : String) (m : Model) : Model :=
  let audit := m.audit.restart job.requestId job.startedAt path
  { m with audit := { audit with configFingerprint := some job.config.fingerprint } }

variable {m : Type → Type} [Monad m]

/-- The endpoint that checks expressions.  One that cannot be reached is missing. -/
def endpoint (job : Job) (w : Surroundings m) : m Verification.Endpoint := do
  match job.channel, job.config.target.verifier with
  | some respond, _ => return .channel respond
  | none, none => return .missing Verification.notConfigured
  | none, some v =>
    match ← (w.verifier v).run with
    | .ok respond => return .channel respond
    | .error e => return .missing e.message

/-- Verify a model. -/
def verify (job : Job) (w : Surroundings m) (model : Model) : ExceptT ConvertError m Converted := do
  let endpoint ← (job.endpoint w : m Verification.Endpoint)
  let result := Verification.verify job.limits endpoint job.cancelled model
  match result.summary with
  | .ok _ => return { model := result.model, cancelled := result.cancelled }
  | .error e => throw e

/-- Read a schema into a new builder, map it and verify its expressions.  A partial model is not
verified. -/
def convertWith (job : Job) (w : Surroundings m) (source : SourceDialect)
    (read : Builder → ExceptT ConvertError m Builder) : ExceptT ConvertError m Converted := do
  let b ← read (job.builder source)
  let mapped := Mapper.map job.config.conversion.syntheticKey b.finish
  if mapped.isPartial then return { model := mapped, cancelled := job.cancelled }
  else job.verify w mapped

/-- Convert the schema that the configuration names. -/
def convert (job : Job) (w : Surroundings m) : ExceptT ConvertError m Converted := do
  let input ← ExceptT.mk (pure (Input.choose job.config.source))
  job.convertWith w input.dialect fun b => input.read w b

/-- Go on with the model of a session.  A partial one is refused. -/
def resume (job : Job) (w : Surroundings m) (path : String) : ExceptT ConvertError m Converted := do
  let (header, model) ← Session.load w path
  if header.isPartial || model.isPartial then
    throw (.partialSession (path ++ " holds a partial model and cannot be resumed"))
  job.verify w (job.adopt path model)

end Job

/-! ## Keeping results -/

/-- A model at the end of a run. -/
def Model.finished (model : Model) (now : Instant) : Model :=
  { model with audit := model.audit.finish now (issueCounts model.issues) }

/-- Save a session: beside its place first, then in it. -/
def Session.save {m : Type → Type} [Monad m] (w : Surroundings m) (path : String) (model : Model)
    (now : Instant) : ExceptT ConvertError m Unit := do
  let draft := Path.sibling path ((Path.stem? path).getD path ++ ".tmp")
  w.write draft (Session.encode model now)
  w.move draft path

/-- Write the outputs of a run.  The session of a partial model is kept only if that is allowed. -/
def persist {m : Type → Type} [Monad m] (w : Surroundings m) (c : Config) (o : Outputs)
    (model : Model) (now : Instant) : ExceptT ConvertError m Report := do
  if !model.isPartial || c.conversion.savesPartial then Session.save w o.session model now
  let script ← ExceptT.mk (pure (Ddl.script model.target model))
  w.write o.ddl script
  let report := Report.assemble model
  w.write o.report (Json.prettyText report.encode)
  return report

end SchemaBridge
