/-
# The schema model

The value every stage of a conversion reads and writes: tables under their identifiers, in
ascending order, the issues found so far, the metadata of the run and the counter identifiers come
from.

`expressions` lists every expression with the slot it lives in; `expression?` and
`modifyExpression` reach it again through that slot.
-/
import SchemaBridge.Schema.Audit
import SchemaBridge.Schema.Table

namespace SchemaBridge

/-- Where an expression lives. -/
inductive ExpressionSlot
  | default (table : TableId) (column : ColumnId)
  | generated (table : TableId) (column : ColumnId)
  | check (table : TableId) (check : CheckId)
  deriving DecidableEq, Repr, Inhabited

/-- What an expression is for. -/
inductive ExpressionKind
  | check
  | default
  | generated
  deriving DecidableEq, Repr, Inhabited

namespace ExpressionKind

/-- The kind's name in requests and reports. -/
def name : ExpressionKind → String
  | check => "check"
  | default => "default"
  | generated => "generated"

end ExpressionKind

namespace ExpressionSlot

/-- The table that an expression belongs to. -/
def table : ExpressionSlot → TableId
  | default t _ | generated t _ | check t _ => t

/-- What an expression is for. -/
def kind : ExpressionSlot → ExpressionKind
  | default _ _ => .default
  | generated _ _ => .generated
  | check _ _ => .check

/-- The object an issue about the expression concerns. -/
def issueTarget : ExpressionSlot → IssueTarget
  | default t c | generated t c => .column t c
  | check t c => .check t c

end ExpressionSlot

/-- The schema model. -/
structure Model where
  source : SourceDialect
  target : TargetDialect
  /-- Tables under their identifiers, in ascending order of these. -/
  tables : List (TableId × Table)
  issues : List Issue
  audit : Audit
  /-- The identifier that is given out next. -/
  nextId : Nat
  deriving DecidableEq, Repr, Inhabited

namespace Model

/-- A model without tables. -/
def empty (source : SourceDialect) (target : TargetDialect) (audit : Audit) : Model :=
  { source, target, tables := [], issues := [], audit, nextId := 1 }

/-- Give out an identifier. -/
def allocate (m : Model) : Nat × Model := (m.nextId, { m with nextId := m.nextId + 1 })

/-- As long as there are identifiers left, the counter of a model counts like a word. -/
theorem nextId_allocate {m : Model} (h : m.nextId + 1 < wordSize) :
    m.allocate.2.nextId = nextWord m.nextId :=
  (nextWord_eq h).symm

/-- Put a value under a key into a list in ascending order of keys, in place of one it has. -/
def insertSorted (id : TableId) (t : Table) : List (TableId × Table) → List (TableId × Table)
  | [] => [(id, t)]
  | (k, u) :: r =>
    if id.val < k.val then (id, t) :: (k, u) :: r
    else if id = k then (id, t) :: r
    else (k, u) :: insertSorted id t r

/-- Add a table under its identifier. -/
def insertTable (m : Model) (t : Table) : Model :=
  { m with tables := insertSorted t.id t m.tables }

/-- The table under an identifier. -/
def table? (m : Model) (id : TableId) : Option Table :=
  (m.tables.find? (·.1 = id)).map (·.2)

/-- The tables, in order. -/
def tableList (m : Model) : List Table := m.tables.map (·.2)

/-- Change the table under an identifier. -/
def modifyTable (m : Model) (id : TableId) (f : Table → Table) : Model :=
  { m with tables := m.tables.map fun (k, t) => if k = id then (k, f t) else (k, t) }

/-- Change every table. -/
def mapTables (m : Model) (f : Table → Table) : Model :=
  { m with tables := m.tables.map fun (k, t) => (k, f t) }

/-- The first table of that name, ignoring the case of ASCII letters. -/
def tableByName? (m : Model) (name : String) : Option Table :=
  m.tableList.find? fun t => Text.sameFolded t.name name

/-- Add an issue at the end. -/
def addIssue (m : Model) (i : Issue) : Model := { m with issues := m.issues ++ [i] }

/-- Drop every issue of a stage. -/
def clearIssues (m : Model) (s : Stage) : Model :=
  { m with issues := m.issues.filter fun i => i.stage ≠ s }

/-- The issues about one thing. -/
def issuesFor (m : Model) (target : IssueTarget) : List Issue :=
  m.issues.filter fun i => i.target = target

/-- Whether there is an issue of a category. -/
def hasIssue (m : Model) (c : IssueCategory) : Bool := m.issues.any fun i => i.category = c

/-- A model is partial when a run that built or checked it was aborted. -/
def isPartial (m : Model) : Bool := m.hasIssue .aborted

/-! ## Expressions -/

/-- Expressions of one column with their slots. -/
def columnExpressions (t : TableId) (c : Column) : List (ExpressionSlot × Expression) :=
  (c.default.toList.map fun e => (.default t c.id, e)) ++
    (c.generated.toList.map fun e => (.generated t c.id, e))

/-- Expressions of one table with their slots: those of the columns, then the checks. -/
def tableExpressions (t : Table) : List (ExpressionSlot × Expression) :=
  t.columns.flatMap (columnExpressions t.id) ++
    t.checks.map fun c => (.check t.id c.id, c.expr)

/-- Every expression with its slot. -/
def expressions (m : Model) : List (ExpressionSlot × Expression) :=
  m.tableList.flatMap tableExpressions

/-- The expression in a slot. -/
def expression? (m : Model) (slot : ExpressionSlot) : Option Expression := do
  let t ← m.table? slot.table
  match slot with
  | .default _ c => (← t.column? c).default
  | .generated _ c => (← t.column? c).generated
  | .check _ c => return (← t.checks.find? (·.id = c)).expr

/-- Change the expression in a slot of a table. -/
def modifyTableExpression (slot : ExpressionSlot) (f : Expression → Expression) (t : Table) :
    Table :=
  match slot with
  | .default _ c => t.modifyColumn c fun col => { col with default := col.default.map f }
  | .generated _ c => t.modifyColumn c fun col => { col with generated := col.generated.map f }
  | .check _ c =>
    { t with checks := Table.modifyFirst (·.id = c) (fun k => { k with expr := f k.expr }) t.checks }

/-- Change the expression in a slot. -/
def modifyExpression (m : Model) (slot : ExpressionSlot) (f : Expression → Expression) : Model :=
  m.modifyTable slot.table (modifyTableExpression slot f)

/-! ## Description -/

/-- Name of an issue target for a reader, such as `orders.total`. -/
def describe (m : Model) (target : IssueTarget) : String :=
  match target.table?.bind m.table? with
  | none => "schema"
  | some t =>
    match target with
    | .column _ c => t.name ++ "." ++ t.columnName c
    | .index _ i => t.name ++ "." ++ ((t.indexes.find? (·.id = i)).map (·.name)).getD "?"
    | .foreignKey _ f => t.name ++ "." ++ ((t.foreignKeys.find? (·.id = f)).map (·.name)).getD "?"
    | .check _ c => t.name ++ "." ++ ((t.checks.find? (·.id = c)).map (·.name)).getD "?"
    | .schema | .table _ => t.name

/-- An issue changes no table. -/
@[simp] theorem addIssue_tables (m : Model) (i : Issue) : (m.addIssue i).tables = m.tables := rfl

/-- An issue takes no identifier. -/
@[simp] theorem addIssue_nextId (m : Model) (i : Issue) : (m.addIssue i).nextId = m.nextId := rfl

/-- An issue comes after all others. -/
@[simp] theorem addIssue_issues (m : Model) (i : Issue) :
    (m.addIssue i).issues = m.issues ++ [i] := rfl

/-- Dropping issues changes no table. -/
@[simp] theorem clearIssues_tables (m : Model) (s : Stage) :
    (m.clearIssues s).tables = m.tables := rfl

/-- Changing a table changes no issue. -/
@[simp] theorem modifyTable_issues (m : Model) (id : TableId) (f : Table → Table) :
    (m.modifyTable id f).issues = m.issues := rfl

end Model

end SchemaBridge
