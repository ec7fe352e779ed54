/-
# The schema builder

Readers describe tables by name.  The builder gives out identifiers, flattens the schemas of the
source into one namespace under the collision policy, resolves columns as they are named and,
once every table is known, foreign keys.

Operations that can fail return their result beside the builder they leave, since part of their
work may already be done.
-/
import SchemaBridge.Assembly.Draft
import SchemaBridge.Schema.Model
import SchemaBridge.Text.Pattern

namespace SchemaBridge

/-- A declared name: the schema, if any, and the name, both in lower case. -/
abbrev SourceKey := Option String × String

/-- The key under which a table of the source is remembered. -/
def sourceKey (nspace : Option String) (name : String) : SourceKey :=
  (nspace.map Text.lowerText, Text.lowerText name)

/-- A foreign key that waits for every table to be known. -/
structure PendingForeignKey where
  table : TableId
  /-- Schema of the referencing table. -/
  nspace : Option String
  draft : ForeignKeyDraft
  deriving DecidableEq, Repr, Inhabited

/-- A model that is being built, the tables of the source by their declared names, and the foreign
keys that wait. -/
structure Builder where
  model : Model
  policy : CollisionPolicy
  /-- Whether the run has been cancelled from outside. -/
  cancelled : Bool
  /-- The table each declared name stands for. -/
  bySource : List (SourceKey × TableId)
  pending : List PendingForeignKey
  /-- Whether the cancellation has been noticed. -/
  aborted : Bool
  deriving DecidableEq, Repr, Inhabited

namespace Builder

/-- A builder of an empty model. -/
def start (source : SourceDialect) (target : TargetDialect) (policy : CollisionPolicy)
    (audit : Audit) : Builder :=
  { model := .empty source target audit
    policy
    cancelled := false
    bySource := []
    pending := []
    aborted := false }

/-- Number of tables that have been added. -/
def tableCount (b : Builder) : Nat := b.model.tables.length

/-- Cancel the run. -/
def cancel (b : Builder) : Builder := { b with cancelled := true }

/-- Record an issue of the reader. -/
def issue (b : Builder) (c : IssueCategory) (target : IssueTarget) (detail : String) : Builder :=
  { b with model := b.model.addIssue (.raise c .reader target detail) }

/-- Whether reading must stop.  The first question after a cancellation records it. -/
def shouldStop (b : Builder) : Bool × Builder :=
  if !b.aborted && b.cancelled then
    let b := b.issue .aborted .schema
      ("Reading cancelled after " ++ Text.decimal b.tableCount
        ++ " tables; the model is partial.")
    (true, { b with aborted := true })
  else (b.aborted, b)

/-- Find a table by its declared schema and name.  A table declared without a schema matches any
schema, and any table matches a name without one, as long as only one does. -/
def lookup (b : Builder) (nspace : Option String) (name : String) : Option TableId :=
  match b.bySource.lookup (sourceKey nspace name) with
  | some id => some id
  | none =>
    let folded := Text.lowerText name
    match b.bySource.filter fun e =>
        e.1.2 == folded && (nspace.isNone || e.1.1.isNone) with
    | [e] => some e.2
    | _ => none

/-- Remember which table a declared name stands for; the last declaration counts. -/
def remember (b : Builder) (key : SourceKey) (id : TableId) : Builder :=
  { b with bySource := b.bySource.filter (·.1 ≠ key) ++ [(key, id)] }

/-- A name for a renamed table that no table has. -/
def freshTableName (b : Builder) (nspace : Option String) (name : String) : String :=
  let base := match nspace with
    | some ns => ns ++ "_" ++ name
    | none => name ++ "_1"
  Text.freshName (fun n => (b.model.tableByName? n).isSome) base 2 b.tableCount

/-- What is made of each column that is named, or the first name that is no column. -/
def resolveEach {α β : Type} (t : Table) (name : α → String) (make : α → ColumnId → β) :
    List α → Except String (List β)
  | [] => .ok []
  | a :: r =>
    match t.columnByName? (name a) with
    | none => .error (name a)
    | some c => (resolveEach t name make r).map (make a c.id :: ·)

/-- Columns of the given names, or the first name that is no column. -/
def resolveColumns (t : Table) (names : List String) : Except String (List ColumnId) :=
  resolveEach t id (fun _ c => c) names

/-- Key parts for the given names, or the first name that is no column. -/
def resolveKeys (t : Table) (columns : List KeyDraft) : Except String (List KeyPart) :=
  resolveEach t (·.1) (fun k c => ⟨c, k.2⟩) columns

/-- Set the primary key.  Its columns become non-nullable; a column that does not exist makes the
schema unusable. -/
def setPrimaryKey (b : Builder) (id : TableId) (columns : List KeyDraft) : Outcome Unit × Builder :=
  match b.model.table? id with
  | none => (.error (.sourceParse id.text "unknown table"), b)
  | some t =>
    match resolveKeys t columns with
    | .error n =>
      (.error (.sourceParse t.sourceName
        ("primary key references unknown column '" ++ n ++ "'")), b)
    | .ok keys =>
      let require := fun (t : Table) (k : KeyPart) =>
        t.modifyColumn k.column fun c => { c with nullable := false }
      let change := fun (t : Table) => { keys.foldl require t with primaryKey := keys }
      (.ok (), { b with model := b.model.modifyTable id change })

/-- Add an index.  One whose key is not made of plain columns is left out with an issue. -/
def addIndex (b : Builder) (id : TableId) (draft : IndexDraft) : Builder :=
  let (raw, model) := b.model.allocate
  let b := { b with model }
  match model.table? id with
  | none => b
  | some t =>
    let name := draft.name.getD
      (t.name ++ "_" ++ "_".intercalate (draft.columns.map (·.1)) ++ "_"
        ++ (if draft.unique then "key" else "idx"))
    match resolveKeys t draft.columns with
    | .ok keys =>
      let index : Index := { id := ⟨raw⟩, name, keys, unique := draft.unique }
      { b with model := model.modifyTable id fun t => { t with indexes := t.indexes ++ [index] } }
    | .error missing =>
      b.issue .unsupportedConstraint (.table id)
        ("Index " ++ name ++ " on " ++ t.name ++ " dropped: '" ++ missing
          ++ "' is not a plain column of the table.")

/-- Queue a foreign key until every table is known. -/
def addForeignKey (b : Builder) (id : TableId) (draft : ForeignKeyDraft) : Builder :=
  let nspace := (b.model.table? id).bind (·.nspace)
  { b with pending := b.pending ++ [{ table := id, nspace, draft }] }

/-- Add a check.  One without a name is named for its table and the number of checks before it. -/
def addCheck (b : Builder) (id : TableId) (draft : CheckDraft) : Builder :=
  let (raw, model) := b.model.allocate
  let change := fun (t : Table) =>
    let name := draft.name.getD (t.name ++ "_check" ++ Text.decimal (t.checks.length + 1))
    { t with checks := t.checks ++ [{ id := ⟨raw⟩, name, expr := .fresh draft.expr }] }
  { b with model := model.modifyTable id change }

/-- Change the first column of a name. -/
def modifyColumnByName (b : Builder) (id : TableId) (column : String) (f : Column → Column) :
    Builder :=
  let change := fun (t : Table) =>
    { t with columns := Table.modifyFirst (fun c => Text.sameFolded c.name column) f t.columns }
  { b with model := b.model.modifyTable id change }

/-- Give a column a default; one that draws on a sequence makes it an identity column. -/
def setColumnDefault (b : Builder) (id : TableId) (column expr : String) : Builder :=
  match b.model.table? id with
  | none => b
  | some t =>
    match t.columnByName? column with
    | none =>
      b.issue .missingReference (.table id)
        ("Default for unknown column " ++ t.name ++ "." ++ column ++ " ignored.")
    | some _ =>
      b.modifyColumnByName id column fun c =>
        if isSequenceDefault expr then { c with identity := true, default := none }
        else { c with default := some (.fresh expr) }

/-- Make a column an identity column. -/
def setIdentity (b : Builder) (id : TableId) (column : String) : Builder :=
  b.modifyColumnByName id column fun c => { c with identity := true }

/-- Columns of a draft with identifiers, or the first name used twice. -/
def allocateColumns (model : Model) (seen : List String) :
    List ColumnDraft → Except String (List Column) × Model
  | [] => (.ok [], model)
  | d :: r =>
    let folded := Text.lowerText d.name
    if folded ∈ seen then (.error d.name, model)
    else
      let (raw, model) := model.allocate
      let column : Column :=
        { id := ⟨raw⟩
          name := d.name
          sourceType := d.sourceType
          targetType := none
          confidence := none
          nullable := d.nullable
          default := d.default.map .fresh
          generated := d.generated.map .fresh
          identity := d.identity
          synthetic := false }
      match allocateColumns model (folded :: seen) r with
      | (.ok columns, model) => (.ok (column :: columns), model)
      | (.error e, model) => (.error e, model)

/-- The name a new table gets, and the declared name of the table that held its own; or nothing
when the policy leaves the table out. -/
def chooseName (b : Builder) (draft : TableDraft) :
    Outcome (Option (String × Option String)) × Builder :=
  match b.model.tableByName? draft.name with
  | none => (.ok (some (draft.name, none)), b)
  | some existing =>
    let label := qualifiedName draft.nspace draft.name
    let other := qualifiedName existing.nspace existing.sourceName
    match b.policy with
    | .error => (.error (.sourceParse label ("table name collides with " ++ other)), b)
    | .skip =>
      (.ok none, b.issue .nameCollision .schema
        ("Table " ++ label ++ " skipped: its name collides with " ++ other ++ "."))
    | .rename => (.ok (some (b.freshTableName draft.nspace draft.name, some other)), b)

/-- Add the keys, indexes and checks of a draft to its table. -/
def addConstraints (b : Builder) (id : TableId) (draft : TableDraft) : Outcome Unit × Builder :=
  match (if draft.primaryKey.isEmpty then (.ok (), b) else b.setPrimaryKey id draft.primaryKey) with
  | (.error e, b) => (.error e, b)
  | (.ok (), b) =>
    let b := draft.indexes.foldl (·.addIndex id ·) b
    let b := draft.foreignKeys.foldl (·.addForeignKey id ·) b
    (.ok (), draft.checks.foldl (·.addCheck id ·) b)

/-- Put a new table with nothing but columns under its identifier, and record whose name it has not
got. -/
def placeTable (b : Builder) (id : TableId) (draft : TableDraft) (name : String)
    (collided : Option String) (columns : List Column) : Builder :=
  let table : Table :=
    { Table.empty id name with nspace := draft.nspace, sourceName := draft.name, columns }
  let b := match collided with
    | none => b
    | some other =>
      b.issue .nameCollision (.table id)
        ("Table " ++ qualifiedName draft.nspace draft.name ++ " renamed to '" ++ name
          ++ "': its name collides with " ++ other ++ ".")
  let b := { b with model := b.model.insertTable table }
  b.remember (sourceKey draft.nspace draft.name) id

/-- Add a table.  The result is its identifier, or none if the policy left it out. -/
def addTable (b : Builder) (draft : TableDraft) : Outcome (Option TableId) × Builder :=
  match b.chooseName draft with
  | (.error e, b) => (.error e, b)
  | (.ok none, b) => (.ok none, b)
  | (.ok (some (name, collided)), b) =>
    let (raw, model) := b.model.allocate
    match allocateColumns model [] draft.columns with
    | (.error n, model) =>
      (.error (.sourceParse (qualifiedName draft.nspace draft.name)
        ("duplicate column '" ++ n ++ "'")), { b with model })
    | (.ok columns, model) =>
      let b := ({ b with model } : Builder).placeTable ⟨raw⟩ draft name collided columns
      match b.addConstraints ⟨raw⟩ draft with
      | (.error e, b) => (.error e, b)
      | (.ok (), b) => (.ok (some ⟨raw⟩), b)

/-! ## Foreign keys -/

/-- The table a foreign key refers to.  A schema that is given must match; a name without one is
looked for in the schema of the referencing table, then anywhere. -/
def parentOf (b : Builder) (p : PendingForeignKey) : Option TableId :=
  match p.draft.referencedNamespace with
  | some ns => b.lookup (some ns) p.draft.referencedTable
  | none =>
    (b.lookup p.nspace p.draft.referencedTable).orElse fun _ =>
      b.lookup none p.draft.referencedTable

/-- Names of the columns a foreign key refers to; without a list they are the primary key. -/
def referencedNames (parent : Table) (draft : ForeignKeyDraft) : List String :=
  if draft.referencedColumns.isEmpty then
    parent.primaryKey.map fun k => parent.columnName k.column
  else draft.referencedColumns

/-- What becomes of a foreign key between two tables: its columns on both sides, or why it is
dropped. -/
def resolveReference (child parent : Table) (draft : ForeignKeyDraft) :
    Except String (List ColumnId × List ColumnId) :=
  match resolveColumns child draft.columns with
  | .error missing => .error ("column '" ++ missing ++ "' not found.")
  | .ok columns =>
    match resolveColumns parent (referencedNames parent draft) with
    | .error missing =>
      .error ("referenced column " ++ parent.name ++ "." ++ missing ++ " not found.")
    | .ok referenced =>
      if referenced.length = columns.length ∧ referenced ≠ [] then .ok (columns, referenced)
      else .error ("column count does not match " ++ parent.name ++ ".")

/-- Resolve one foreign key, or drop it with an issue. -/
def resolveForeignKey (b : Builder) (p : PendingForeignKey) : Builder :=
  let (raw, model) := b.model.allocate
  let b := { b with model }
  match model.table? p.table with
  | none => b
  | some child =>
    let name := p.draft.name.getD ("fk_" ++ child.name ++ "_" ++ "_".intercalate p.draft.columns)
    let dropped := fun (why : String) =>
      b.issue .missingReference (.table p.table)
        ("Foreign key " ++ name ++ " on " ++ child.name ++ " dropped: " ++ why)
    match b.parentOf p with
    | none => dropped ("referenced table '" ++ p.draft.referencedTable ++ "' not found.")
    | some parentId =>
      match model.table? parentId with
      | none =>
        match resolveColumns child p.draft.columns with
        | .error missing => dropped ("column '" ++ missing ++ "' not found.")
        | .ok _ => b
      | some parent =>
        match resolveReference child parent p.draft with
        | .error why => dropped why
        | .ok (columns, referencedColumns) =>
          let key : ForeignKey :=
            { id := ⟨raw⟩
              name
              columns
              referencedTable := parentId
              referencedColumns
              onDelete := .declared p.draft.onDelete
              onUpdate := .declared p.draft.onUpdate }
          { b with
            model := model.modifyTable p.table fun t =>
              { t with foreignKeys := t.foreignKeys ++ [key] } }

/-- Resolve the foreign keys that wait and return the model. -/
def finish (b : Builder) : Model :=
  (b.pending.foldl resolveForeignKey { b with pending := [] }).model

end Builder

end SchemaBridge
