/-
# Reading a live database

Tables are read one at a time in the order of the catalogue.  Partial indexes and views have no
counterpart in a model; each of them becomes an issue.
-/
import SchemaBridge.Assembly.Builder
import SchemaBridge.Live.Catalogue

namespace SchemaBridge.Live

/-! ## Rows and drafts -/

/-- The type of a column; a type with labels is an enumeration, whatever its name. -/
def ColumnRow.sourceType (r : ColumnRow) : SourceType :=
  let parsed := SourceType.parse r.type
  match r.labels with
  | some values => { parsed with name := "enum", values }
  | none => parsed

/-- A column as a row describes it.  A default that draws on a sequence makes it an identity
column. -/
def ColumnRow.draft (r : ColumnRow) : ColumnDraft :=
  let generates := r.generated = "s"
  let numbered := !generates && r.expression.any isSequenceDefault
  { name := r.name
    sourceType := r.sourceType
    nullable := r.nullable
    default := if generates || numbered then none else r.expression
    generated := if generates then r.expression else none
    identity := numbered || r.identity ≠ "" }

/-- The part of an index that a row describes. -/
def IndexRow.keyDraft (r : IndexRow) : KeyDraft :=
  (String.ofList (plainName r.key.toList), r.descending)

/-- The index that consecutive rows of one name describe. -/
def indexDraft? : List IndexRow → Option IndexDraft
  | [] => none
  | r :: rest =>
    some { name := some r.name
           columns := (r :: rest).map (·.keyDraft)
           unique := r.unique }

/-- The indexes among index rows; partial ones are left out. -/
def indexDrafts (rows : List IndexRow) : List IndexDraft :=
  ((rows.filter (!·.isPartial)).splitBy (·.name == ·.name)).filterMap indexDraft?

/-- Names of the partial indexes among index rows, each once. -/
def partialIndexes (rows : List IndexRow) : List String :=
  ((rows.filter (·.isPartial)).map (·.name)).eraseDups

/-- The action that a code of the catalogue stands for. -/
def actionOfCode : String → FkAction
  | "r" => .restrict
  | "c" => .cascade
  | "n" => .setNull
  | "d" => .setDefault
  | _ => .noAction

/-- The draft of a foreign key. -/
def ForeignKeyRow.draft (r : ForeignKeyRow) : ForeignKeyDraft :=
  { name := some r.name
    columns := r.columns
    referencedNamespace := some r.referencedNamespace
    referencedTable := r.referencedTable
    referencedColumns := r.referencedColumns
    onDelete := actionOfCode r.deleteCode
    onUpdate := actionOfCode r.updateCode }

/-- The draft of a check, without the parentheses around all of it. -/
def CheckRow.draft (r : CheckRow) : CheckDraft :=
  { name := some r.name, expr := String.ofList (checkBody r.expression.toList) }

/-- One table of the catalogue, and the names of its partial indexes. -/
def Catalogue.table (c : Catalogue) (nspace name : String) : Outcome (TableDraft × List String) := do
  let columns ← c.columns nspace name
  let primaryKey ← c.primaryKey nspace name
  let indexes ← c.indexes nspace name
  let foreignKeys ← c.foreignKeys nspace name
  let checks ← c.checks nspace name
  let draft : TableDraft :=
    { nspace := some nspace
      name
      columns := columns.map (·.draft)
      primaryKey := primaryKey.map fun n => (n, false)
      indexes := indexDrafts indexes
      foreignKeys := foreignKeys.map (·.draft)
      checks := checks.map (·.draft) }
  return (draft, partialIndexes indexes)

/-! ## Reading -/

/-- Record an index that is not converted. -/
def reportPartialIndex (b : Builder) (id : TableId) (table index : String) : Builder :=
  b.issue .unsupportedConstraint (.table id)
    ("Partial index " ++ index ++ " on " ++ table ++ " not converted.")

/-- Record a view. -/
def reportView (b : Builder) (v : ViewRow) : Builder :=
  b.issue .unsupportedConstruct .schema
    ("Skipped " ++ (if v.materialized then "materialized view " else "view ") ++ v.nspace ++ "."
      ++ v.name)

/-- Add one table to the model. -/
def readTable (c : Catalogue) (b : Builder) (nspace name : String) : Outcome Builder := do
  let (draft, skipped) ← c.table nspace name
  match b.addTable draft with
  | (.error e, _) => throw e
  | (.ok none, b) => return b
  | (.ok (some id), b) =>
    return skipped.foldl (fun b i => reportPartialIndex b id (nspace ++ "." ++ name) i) b

/-- Add tables one after another until the run is cancelled. -/
def readTables (c : Catalogue) (b : Builder) : List (String × String) → Outcome Builder
  | [] => .ok b
  | (nspace, name) :: rest =>
    match b.shouldStop with
    | (true, b) => .ok b
    | (false, b) => do readTables c (← readTable c b nspace name) rest

/-- Read a database into a model. -/
def read (c : Catalogue) (b : Builder) : Outcome Builder := do
  c.probe
  let tables ← c.tables
  let b ← readTables c b tables
  match b.shouldStop with
  | (true, b) => return b
  | (false, b) => return (← c.views).foldl reportView b

end SchemaBridge.Live
