/-
# Reports

A report sums up a model for a reader: what it holds, how well its types fit, what became of its
expressions, and the issues, grouped by table.  It is made of the model alone.
-/
import SchemaBridge.Schema.Model

namespace SchemaBridge

namespace Report

/-- Number of objects of each kind. -/
structure Summary where
  tables : Nat
  columns : Nat
  indexes : Nat
  foreignKeys : Nat
  checks : Nat
  verified : Nat
  rejected : Nat
  unverified : Nat
  issues : Nat
  /-- Whether the run was aborted. -/
  isPartial : Bool
  deriving DecidableEq, Repr, Inhabited

/-- Number of columns of each confidence. -/
structure Tiers where
  exact : Nat
  lossy : Nat
  unsupported : Nat
  /-- Columns that were not mapped. -/
  unmapped : Nat
  deriving DecidableEq, Repr, Inhabited

/-- A primary key that was added. -/
structure SyntheticKey where
  table : String
  column : String
  deriving DecidableEq, Repr, Inhabited

/-- An expression without a good verdict. -/
structure ExpressionEntry where
  /-- The column or check it belongs to, with its table. -/
  object : String
  kind : ExpressionKind
  source : String
  translated : Option String
  /-- What the target said. -/
  rejection : Option String
  deriving DecidableEq, Repr, Inhabited

/-- How well a table was converted. -/
inductive Rating
  | excellent
  | good
  | ok
  | poor
  deriving DecidableEq, Repr, Inhabited

namespace Rating

/-- The rating's name in reports. -/
def name : Rating → String
  | excellent => "excellent"
  | good => "good"
  | ok => "ok"
  | poor => "poor"

/-- Any error makes a table poor; more warnings than a third of its columns leave it just right. -/
def ofCounts (errors warnings columns : Nat) : Rating :=
  if 0 < errors then poor
  else if columns < 3 * warnings then ok
  else if 0 < warnings then good
  else excellent

end Rating

/-- What is said about one table. -/
structure TableEntry where
  name : String
  sourceName : String
  columns : Nat
  rating : Rating
  errors : Nat
  warnings : Nat
  infos : Nat
  /-- The issues of the table, as shown. -/
  issues : List String
  deriving DecidableEq, Repr, Inhabited

end Report

/-- What a run comes to, counted and listed. -/
structure Report where
  source : SourceDialect
  target : TargetDialect
  summary : Report.Summary
  byCategory : List (IssueCategory × Nat)
  bySeverity : List (Severity × Nat)
  tiers : Report.Tiers
  syntheticKeys : List Report.SyntheticKey
  rejected : List Report.ExpressionEntry
  unverified : List Report.ExpressionEntry
  tables : List Report.TableEntry
  /-- Issues about the whole schema, as shown. -/
  schemaIssues : List String
  audit : Audit
  deriving DecidableEq, Repr, Inhabited

namespace Report

/-- The columns of all tables. -/
def columnsOf (m : Model) : List Column := m.tableList.flatMap (·.columns)

/-- Number of expressions with a status. -/
def countStatus (m : Model) (s : VerificationStatus) : Nat :=
  m.expressions.countP fun e => e.2.status = s

/-- The totals of a model. -/
def summaryOf (m : Model) : Summary :=
  { tables := m.tables.length
    columns := (columnsOf m).length
    indexes := (m.tableList.flatMap (·.indexes)).length
    foreignKeys := (m.tableList.flatMap (·.foreignKeys)).length
    checks := (m.tableList.flatMap (·.checks)).length
    verified := countStatus m .verified
    rejected := countStatus m .rejected
    unverified := countStatus m .unverified
    issues := m.issues.length
    isPartial := m.isPartial }

/-- Number of columns that are mapped with a confidence, or not at all. -/
def countConfidence (m : Model) (c : Option Confidence) : Nat :=
  (columnsOf m).countP fun k => k.confidence = c

/-- The columns of a model, counted by confidence. -/
def tiersOf (m : Model) : Tiers :=
  { exact := countConfidence m (some .exact)
    lossy := countConfidence m (some .lossy)
    unsupported := countConfidence m (some .unsupported)
    unmapped := countConfidence m none }

/-- The synthetic columns of a model with their tables. -/
def syntheticKeysOf (m : Model) : List SyntheticKey :=
  m.tableList.flatMap fun t => (t.columns.filter (·.synthetic)).map fun c => ⟨t.name, c.name⟩

/-- What is listed of an expression. -/
def entryOf (m : Model) (slot : ExpressionSlot) (e : Expression) : ExpressionEntry :=
  { object := m.describe slot.issueTarget
    kind := slot.kind
    source := e.source
    translated := e.translated
    rejection := e.rejection }

/-- The expressions of a status. -/
def entriesOf (m : Model) (s : VerificationStatus) : List ExpressionEntry :=
  (m.expressions.filter fun e => e.2.status = s).map fun (slot, e) => entryOf m slot e

/-- Number of issues of each severity that occurs. -/
def severityCounts (issues : List Issue) : List (Severity × Nat) :=
  Severity.all.filterMap fun s =>
    let n := issues.countP fun i => i.severity = s
    if n = 0 then none else some (s, n)

/-- The issues that belong to a table. -/
def issuesOfTable (m : Model) (id : TableId) : List Issue :=
  m.issues.filter fun i => i.target.table? = some id

/-- What is listed of a table. -/
def tableEntry (m : Model) (t : Table) : TableEntry :=
  let issues := issuesOfTable m t.id
  let count := fun (s : Severity) => issues.countP fun i => i.severity = s
  { name := t.name
    sourceName := t.sourceName
    columns := t.columns.length
    rating := .ofCounts (count .error) (count .warning) t.columns.length
    errors := count .error
    warnings := count .warning
    infos := count .info
    issues := issues.map (·.display) }

/-- The report on a model. -/
def assemble (m : Model) : Report :=
  { source := m.source
    target := m.target
    summary := summaryOf m
    byCategory := issueCounts m.issues
    bySeverity := severityCounts m.issues
    tiers := tiersOf m
    syntheticKeys := syntheticKeysOf m
    rejected := entriesOf m .rejected
    unverified := entriesOf m .unverified
    tables := m.tableList.map (tableEntry m)
    schemaIssues := (m.issues.filter fun i => i.target = .schema).map (·.display)
    audit := m.audit }

end Report

end SchemaBridge
