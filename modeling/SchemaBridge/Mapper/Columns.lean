/-
# Columns in the target

Every column gets the target type of its source type, with the confidence of the choice.  What the
target type cannot hold exactly, a choice among several fitting types, and values that the source
numbers by itself are each recorded.
-/
import SchemaBridge.Schema.Model
import SchemaBridge.TypeMap.Target

namespace SchemaBridge.Mapper

/-- An issue of the mapper. -/
def issue (c : IssueCategory) (target : IssueTarget) (detail : String) : Issue :=
  .raise c .mapper target detail

/-- What the mapping of a column cannot carry over. -/
def lossIssue (d : TargetDialect) (table : String) (target : IssueTarget) (c : Column)
    (m : Mapping) : List Issue :=
  if m.confidence = .exact then []
  else
    [issue .lossyType target
      (Text.trimEndText
        (table ++ "." ++ c.name ++ ": " ++ c.sourceType.raw ++ " mapped to " ++ m.target.render d
          ++ " (" ++ m.confidence.name ++ "). " ++ m.note.getD ""))]

/-- Why one of several fitting types was picked for a column. -/
def ambiguityIssue (table : String) (target : IssueTarget) (c : Column) (m : Mapping) :
    List Issue :=
  match m.ambiguity with
  | none => []
  | some why => [issue .ambiguousMapping target (table ++ "." ++ c.name ++ ": " ++ why)]

/-- A column whose values the source numbers by itself. -/
def identityIssue (table : String) (target : IssueTarget) (c : Column) : List Issue :=
  if c.identity then
    [issue .unsupportedConstraint target
      (table ++ "." ++ c.name ++ " is auto-incrementing; values must be supplied on insert.")]
  else []

/-- The issues of one column; a synthetic column has none. -/
def columnIssues (source : SourceDialect) (d : TargetDialect) (id : TableId) (table : String)
    (c : Column) : List Issue :=
  if c.synthetic then []
  else
    let m := TypeMap.map source c.sourceType
    let target := IssueTarget.column id c.id
    lossIssue d table target c m ++ ambiguityIssue table target c m ++ identityIssue table target c

/-- A column with its target type; a synthetic column has one already. -/
def mapColumn (source : SourceDialect) (c : Column) : Column :=
  if c.synthetic then c
  else
    let m := TypeMap.map source c.sourceType
    { c with targetType := some m.target, confidence := some m.confidence }

/-- Map the columns of a table. -/
def mapColumns (m : Model) (id : TableId) : Model :=
  match m.table? id with
  | none => m
  | some t =>
    let found := t.columns.flatMap (columnIssues m.source m.target id t.name)
    let m := m.modifyTable id fun t => { t with columns := t.columns.map (mapColumn m.source) }
    { m with issues := m.issues ++ found }

/-- A column that is mapped keeps its identifier. -/
@[simp] theorem mapColumn_id (source : SourceDialect) (c : Column) :
    (mapColumn source c).id = c.id := by
  unfold mapColumn
  split <;> rfl

/-- A column that is mapped keeps its name. -/
@[simp] theorem mapColumn_name (source : SourceDialect) (c : Column) :
    (mapColumn source c).name = c.name := by
  unfold mapColumn
  split <;> rfl

/-- A column that is mapped is synthetic if it was. -/
@[simp] theorem mapColumn_synthetic (source : SourceDialect) (c : Column) :
    (mapColumn source c).synthetic = c.synthetic := by
  unfold mapColumn
  split <;> rfl

/-- Mapping a column twice comes to mapping it once. -/
@[simp] theorem mapColumn_mapColumn (source : SourceDialect) (c : Column) :
    mapColumn source (mapColumn source c) = mapColumn source c := by
  unfold mapColumn
  split
  · simp [*]
  · simp [*]

end SchemaBridge.Mapper
