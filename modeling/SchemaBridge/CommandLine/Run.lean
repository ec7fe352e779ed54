/-
# Commands

What the commands do and print.  Reports go to the output, errors end the program with their exit
code.
-/
import SchemaBridge.CommandLine.Arguments
import SchemaBridge.Config.Decode
import SchemaBridge.Conversion.Run
import SchemaBridge.Report.Text

namespace SchemaBridge.CommandLine

/-- What a command leaves: its output, and the error it ended with. -/
structure Ending where
  output : String
  error : Option ConvertError
  deriving DecidableEq, Repr, Inhabited

namespace Ending

/-- The code that a run ends with: that of its error, or 0 if there is none. -/
def exitCode (e : Ending) : Nat := (e.error.map (·.exitCode)).getD 0

/-- The ending of a step that produces output. -/
def ofOutcome : Outcome String → Ending
  | .ok output => ⟨output, none⟩
  | .error e => ⟨"", some e⟩

end Ending

/-- What is known when a program is launched. -/
structure Launch where
  requestId : String
  now : Instant
  processors : Nat
  deriving DecidableEq, Repr, Inhabited

/-- A report as it is printed. -/
def printed (json : Bool) (r : Report) : String :=
  if json then Json.prettyText r.encode ++ "\n" else "\n" ++ r.text ++ "\n"

/-- The summary of a valid configuration. -/
def configSummary (path : String) (c : Config) : String :=
  "Configuration is valid: " ++ path ++ "\n"
    ++ "  Source: " ++ c.source.dialect.name ++ "\n"
    ++ "  Target: " ++ c.target.dialect.name ++ "\n"
    ++ "  Verifier: " ++ (if c.target.verifier.isSome then "configured" else "none") ++ "\n"

variable {m : Type → Type} [Monad m]

/-- Load a configuration. -/
def loadConfig (w : Surroundings m) (p : Launch) (path : String) :
    ExceptT ConvertError m Config := do
  let text ← w.readText path
  let c ← ExceptT.mk (pure (Config.parse text))
  return c.tuned p.processors

/-- Write the outputs of a run and say which files there are. -/
def conclude (w : Surroundings m) (p : Launch) (c : Config) (outputName : String) (dryRun json : Bool)
    (model : Model) : ExceptT ConvertError m String := do
  if dryRun then return printed json (Report.assemble model)
  else
    let o := Outputs.named outputName
    let report ← persist w c o (model.finished p.now) p.now
    if json then return printed json report
    else
      let saved ← (w.has o.session : m Bool)
      let paths := [o.ddl, o.report] ++ (if saved then [o.session] else [])
      return String.join (paths.map fun f => "Wrote " ++ f ++ "\n") ++ printed json report

/-- Run the part of a command that needs a configuration; then tell whether it was cancelled. -/
def runConfigured (w : Surroundings m) (p : Launch) (path : String) (json : Bool) (command : Command) :
    ExceptT ConvertError m (String × Bool) := do
  let c ← loadConfig w p path
  let job : Job :=
    { config := c, requestId := p.requestId, startedAt := p.now, cancelled := false, channel := none }
  match command with
  | .validate => return (configSummary path c, false)
  | .convert dryRun name =>
    let r ← job.convert w
    return (← conclude w p c (name.getD c.outputName) dryRun json r.model, r.cancelled)
  | .resume session name =>
    let r ← job.resume w session
    return (← conclude w p c (name.getD (resumedName session)) false json r.model, r.cancelled)
  | .report session =>
    let (_, model) ← Session.load w session
    return (printed json (Report.assemble model), false)

/-- Run a command.  A report needs no configuration. -/
def run (w : Surroundings m) (p : Launch) (path : String) (json : Bool) (command : Command) :
    m Ending := do
  match command with
  | .report session =>
    let r ← (Session.load w session).run
    return .ofOutcome (r.map fun loaded => printed json (Report.assemble loaded.2))
  | command =>
    match ← (runConfigured w p path json command).run with
    | .error e => return ⟨"", some e⟩
    | .ok (output, cancelled) => return ⟨output, if cancelled then some .cancelled else none⟩

end SchemaBridge.CommandLine
