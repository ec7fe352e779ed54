/-
# Keys and indexes in the target

Every table of the target has a primary key.  A table without one gets a synthetic column of UUIDs
in front of the others.  An index on a column that cannot be part of a key is dropped.  Indexes share one
namespace with the tables, so an index whose name is taken gets another one.
-/
import SchemaBridge.Mapper.Columns
import SchemaBridge.Text.Pattern

namespace SchemaBridge.Mapper

/-! ## Primary keys -/

/-- Length of a UUID as text. -/
def uuidLength : Nat := 36

/-- The default of a synthetic key. -/
def syntheticDefault : TargetDialect → String
  | .google => "GENERATE_UUID()"
  | .postgres => "spanner.generate_uuid()"

/-- The column of a synthetic key: a text that is never missing. -/
def syntheticColumn (d : TargetDialect) (id : ColumnId) (name : String) : Column :=
  { Column.plain id name (SourceType.parse "uuid") with
    targetType := some (.string (some uuidLength))
    confidence := some .exact
    nullable := false
    synthetic := true
    default := some (.fresh (syntheticDefault d)) }

/-- What is said of a table that is given a key. -/
def syntheticIssue (id : TableId) (table column : String) : Issue :=
  issue .syntheticKey (.table id)
    (table ++ " has no primary key; added synthetic key column " ++ column ++ " (UUID).")

/-- The columns of a primary key whose types cannot be part of a key. -/
def keyIssues (d : TargetDialect) (id : TableId) (t : Table) : List Issue :=
  t.primaryKey.filterMap fun k => do
    let c ← t.column? k.column
    let type ← c.targetType
    if type.isKeyable then none
    else
      return issue .unsupportedConstraint (.column id c.id)
        ("Primary key column " ++ t.name ++ "." ++ c.name ++ " has type " ++ type.render d
          ++ ", which cannot be part of a key.")

/-- A name for a synthetic key that no column has. -/
def syntheticName (t : Table) (base : String) : String :=
  Text.freshName (fun n => (t.columnByName? n).isSome) base 1 t.columns.length

/-- See to the primary key of a table. -/
def mapPrimaryKey (synthetic : String) (m : Model) (id : TableId) : Model :=
  match m.table? id with
  | none => m
  | some t =>
    match t.syntheticKey? with
    | some c => m.addIssue (syntheticIssue id t.name c.name)
    | none =>
      if t.hasPrimaryKey then { m with issues := m.issues ++ keyIssues m.target id t }
      else
        let name := syntheticName t synthetic
        let (raw, m) := m.allocate
        let column := syntheticColumn m.target ⟨raw⟩ name
        let m := m.modifyTable id fun t =>
          { t with columns := column :: t.columns, primaryKey := [⟨⟨raw⟩, false⟩] }
        m.addIssue (syntheticIssue id t.name name)

/-! ## Indexes -/

/-- Whether a column has a type that cannot be part of a key. -/
def isUnkeyable (c : Column) : Bool :=
  match c.targetType with
  | some t => !t.isKeyable
  | none => false

/-- The first column of an index that cannot be part of a key. -/
def unkeyableColumn? (columns : List Column) (i : Index) : Option Column :=
  i.keys.findSome? fun k => (columns.find? (·.id = k.column)).filter isUnkeyable

/-- A name for an index that is not among names in lower case. -/
def freshIndexName (used : List String) (table name : String) : String :=
  Text.freshName (fun n => used.contains (Text.lowerText n)) (table ++ "_" ++ name) 2 used.length

/-- What is said of an index on a column that no key may have. -/
def droppedIndexIssue (id : TableId) (table : String) (i : Index) (c : Column) : Issue :=
  issue .unsupportedConstraint (.table id)
    ("Index " ++ i.name ++ " on " ++ table ++ " dropped: column " ++ c.name
      ++ " cannot be indexed.")

/-- What is said of an index whose name was taken. -/
def renamedIndexIssue (id : TableId) (table : String) (i : Index) (name : String) : Issue :=
  issue .nameCollision (.index id i.id)
    ("Index " ++ i.name ++ " on " ++ table ++ " renamed to " ++ name
      ++ ": index names must be unique.")

/-- What becomes of the indexes of a model: the names in use, in lower case, the indexes kept so far
and the issues. -/
structure IndexState where
  used : List String
  kept : List Index
  issues : List Issue

/-- Keep one index, under another name if its own is taken, or drop it. -/
def keepIndex (id : TableId) (t : Table) (s : IndexState) (i : Index) : IndexState :=
  match unkeyableColumn? t.columns i with
  | some c => { s with issues := s.issues ++ [droppedIndexIssue id t.name i c] }
  | none =>
    let folded := Text.lowerText i.name
    if s.used.contains folded then
      let name := freshIndexName s.used t.name i.name
      { used := Text.lowerText name :: s.used
        kept := s.kept ++ [{ i with name }]
        issues := s.issues ++ [renamedIndexIssue id t.name i name] }
    else { s with used := folded :: s.used, kept := s.kept ++ [i] }

/-- Map the indexes of tables one after another, given the names in use. -/
def mapTableIndexes (used : List String) :
    List (TableId × Table) → List (TableId × Table) × List Issue
  | [] => ([], [])
  | (id, t) :: r =>
    let s := t.indexes.foldl (keepIndex id t) ⟨used, [], []⟩
    let (tables, issues) := mapTableIndexes s.used r
    ((id, { t with indexes := s.kept }) :: tables, s.issues ++ issues)

/-- Map the indexes of every table. -/
def mapIndexes (m : Model) : Model :=
  let (tables, found) := mapTableIndexes (m.tableList.map fun t => Text.lowerText t.name) m.tables
  { m with tables, issues := m.issues ++ found }

end SchemaBridge.Mapper
