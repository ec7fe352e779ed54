/-
# Statements for the target

The statements that make a table, an index and a foreign key.  An expression the target rejected is
left out; a comment before the statement of its table says which and why.
-/
import SchemaBridge.Schema.Identifier
import SchemaBridge.Schema.Model
import SchemaBridge.Verification.Translate

namespace SchemaBridge.Ddl

/-- What statements are written for: the dialect of the expressions and that of the statements. -/
structure Style where
  source : SourceDialect
  target : TargetDialect
  deriving DecidableEq, Repr, Inhabited

/-- The text of an expression in a statement, unless it was rejected. -/
def expressionText (s : Style) (t : Table) (e : Expression) : Option String :=
  match e.status with
  | .verified => some e.text
  | .unverified => some (Verification.translate s.source s.target t e.source)
  | .rejected => none

/-- The comment on a rejected expression. -/
def rejectedNote (what : String) (e : Expression) : String :=
  "-- rejected: " ++ what ++ ": " ++ Text.flatten e.source ++ " ("
    ++ Text.flatten (e.rejection.getD "no detail") ++ ")\n"

/-! ## Tables -/

/-- The clause of a computed column. -/
def generatedClause (d : TargetDialect) (text : String) : String :=
  match d with
  | .google => " AS (" ++ text ++ ") STORED"
  | .postgres => " GENERATED ALWAYS AS (" ++ text ++ ") STORED"

/-- The clause for the expression of a column, and the comment on it if it was rejected. -/
def columnClause (s : Style) (t : Table) (c : Column) : String × List String :=
  let object := t.name ++ "." ++ c.name
  match c.generated, c.default with
  | some g, _ =>
    match expressionText s t g with
    | some text => (generatedClause s.target text, [])
    | none => ("", [rejectedNote (object ++ " generated as") g])
  | none, some d =>
    match expressionText s t d with
    | some text => (" DEFAULT (" ++ text ++ ")", [])
    | none => ("", [rejectedNote (object ++ " default") d])
  | none, none => ("", [])

/-- A column; one that was not mapped is a string. -/
def columnItem (s : Style) (t : Table) (c : Column) : Outcome String := do
  let type := c.targetType.getD (.string none)
  return (← Identifier.quote s.target c.name) ++ " " ++ type.render s.target
    ++ (if c.nullable then "" else " NOT NULL") ++ (columnClause s t c).1

/-- A check, unless it was rejected. -/
def checkItem? (s : Style) (t : Table) (c : CheckConstraint) : Outcome (Option String) :=
  match expressionText s t c.expr with
  | some text => do
    return some ("CONSTRAINT " ++ (← Identifier.quote s.target c.name) ++ " CHECK (" ++ text ++ ")")
  | none => .ok none

/-- The comment on a check that was rejected. -/
def checkNotes (s : Style) (t : Table) (c : CheckConstraint) : List String :=
  match expressionText s t c.expr with
  | some _ => []
  | none => [rejectedNote (t.name ++ " check " ++ c.name) c.expr]

/-- The comments before the statement of a table. -/
def tableNotes (s : Style) (t : Table) : List String :=
  t.columns.flatMap (fun c => (columnClause s t c).2) ++ t.checks.flatMap (checkNotes s t)

/-- The columns of a key, with their directions if these are to be written. -/
def keyList (d : TargetDialect) (t : Table) (directions : Bool) (keys : List KeyPart) :
    Outcome String := do
  let part := fun (k : KeyPart) => do
    let name ← Identifier.quote d (t.columnName k.column)
    return if directions && k.desc then name ++ " DESC" else name
  return ", ".intercalate (← keys.mapM part)

/-- The statement that makes a table.  GoogleSQL writes the primary key after the columns, with the
directions of its parts. -/
def createTable (s : Style) (t : Table) : Outcome String := do
  let columns ← t.columns.mapM (columnItem s t)
  let checks ← t.checks.mapM (checkItem? s t)
  let items := columns ++ checks.filterMap id
  let name ← Identifier.quote s.target t.name
  let head := String.join (tableNotes s t) ++ "CREATE TABLE " ++ name ++ " (\n    "
  match s.target with
  | .google =>
    return head ++ ",\n    ".intercalate items ++ "\n) PRIMARY KEY ("
      ++ (← keyList s.target t true t.primaryKey) ++ ")"
  | .postgres =>
    let key ← if t.hasPrimaryKey then do
        pure ["PRIMARY KEY (" ++ (← keyList s.target t false t.primaryKey) ++ ")"]
      else pure []
    return head ++ ",\n    ".intercalate (items ++ key) ++ "\n)"

/-! ## Indexes and foreign keys -/

/-- The statement that makes an index. -/
def createIndex (s : Style) (t : Table) (i : Index) : Outcome String := do
  return "CREATE " ++ (if i.unique then "UNIQUE " else "") ++ "INDEX "
    ++ (← Identifier.quote s.target i.name) ++ " ON " ++ (← Identifier.quote s.target t.name) ++ " ("
    ++ (← keyList s.target t true i.keys) ++ ")"

/-- The clause for an action other than `NO ACTION`. -/
def actionClause (lead : String) (a : FkAction) : String :=
  if a = .noAction then "" else lead ++ a.sql

/-- The statement that adds a foreign key.  GoogleSQL has no action on update. -/
def addForeignKey (s : Style) (t parent : Table) (f : ForeignKey) : Outcome String := do
  let columns ← Identifier.quoteList s.target (f.columns.map t.columnName)
  let referenced ← Identifier.quoteList s.target (f.referencedColumns.map parent.columnName)
  let onUpdate := match s.target with
    | .google => ""
    | .postgres => actionClause " ON UPDATE " f.onUpdate.effective
  return "ALTER TABLE " ++ (← Identifier.quote s.target t.name) ++ " ADD CONSTRAINT "
    ++ (← Identifier.quote s.target f.name) ++ " FOREIGN KEY (" ++ columns ++ ") REFERENCES "
    ++ (← Identifier.quote s.target parent.name) ++ " (" ++ referenced ++ ")"
    ++ actionClause " ON DELETE " f.onDelete.effective ++ onUpdate

end SchemaBridge.Ddl
