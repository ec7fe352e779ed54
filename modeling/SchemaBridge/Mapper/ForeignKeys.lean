/-
# Foreign keys in the target

A foreign key stays if the columns it refers to are a key of the other table.  The target knows
`NO ACTION` and, on delete, `CASCADE`; any other action becomes `NO ACTION`.
-/
import SchemaBridge.Mapper.Columns

namespace SchemaBridge.Mapper

/-- The action of the target on delete, and how severe the change is. -/
def deleteAction : FkAction → FkAction × Option Severity
  | .noAction => (.noAction, none)
  | .cascade => (.cascade, none)
  | .restrict => (.noAction, some .info)
  | .setNull | .setDefault => (.noAction, some .warning)

/-- The action of the target on update, and how severe the change is. -/
def updateAction : FkAction → FkAction × Option Severity
  | .noAction => (.noAction, none)
  | .restrict => (.noAction, some .info)
  | .cascade | .setNull | .setDefault => (.noAction, some .warning)

/-- What becomes of a foreign key: the actions it gets, or none if it is dropped. -/
abbrev KeyPlan := ForeignKeyId × Option (FkAction × FkAction)

/-- What is said of a foreign key that refers to no key. -/
def droppedKeyIssue (id : TableId) (t parent : Table) (f : ForeignKey) : Issue :=
  issue .unsupportedConstraint (.table id)
    ("Foreign key " ++ f.name ++ " on " ++ t.name ++ " dropped: referenced columns ("
      ++ ", ".intercalate (f.referencedColumns.map parent.columnName)
      ++ ") are not a primary or unique key of " ++ parent.name ++ ".")

/-- Column pairs of a foreign key whose types differ in kind. -/
def mismatchIssues (d : TargetDialect) (id : TableId) (t parent : Table) (f : ForeignKey) :
    List Issue :=
  (f.columns.zip f.referencedColumns).filterMap fun (child, referenced) => do
    let a ← (t.column? child).bind (·.targetType)
    let b ← (parent.column? referenced).bind (·.targetType)
    if a.kind = b.kind ∧ a.array = b.array then none
    else
      return issue .typeMismatch (.foreignKey id f.id)
        ("Foreign key " ++ f.name ++ ": " ++ t.name ++ "." ++ t.columnName child ++ " is "
          ++ a.render d ++ " but " ++ parent.name ++ "." ++ parent.columnName referenced ++ " is "
          ++ b.render d ++ ".")

/-- The change of one action, if it is one. -/
def actionIssue (id : TableId) (t : Table) (f : ForeignKey) (clause : String) (declared : FkAction) :
    Option Severity → List Issue
  | none => []
  | some severity =>
    [(issue .unsupportedConstraint (.foreignKey id f.id)
      ("Foreign key " ++ f.name ++ " on " ++ t.name ++ ": " ++ clause ++ " " ++ declared.sql
        ++ " is not supported; using NO ACTION.")).withSeverity severity]

/-- What becomes of a foreign key of a table, and what has to be said of it. -/
def planKey (m : Model) (id : TableId) (t : Table) (f : ForeignKey) : KeyPlan × List Issue :=
  match m.table? f.referencedTable with
  | none => ((f.id, none), [])
  | some parent =>
    if !parent.isUniqueKey f.referencedColumns then
      ((f.id, none), [droppedKeyIssue id t parent f])
    else
      let (onDelete, deleteSeverity) := deleteAction f.onDelete.source
      let (onUpdate, updateSeverity) := updateAction f.onUpdate.source
      ((f.id, some (onDelete, onUpdate)),
        mismatchIssues m.target id t parent f
          ++ actionIssue id t f "ON DELETE" f.onDelete.source deleteSeverity
          ++ actionIssue id t f "ON UPDATE" f.onUpdate.source updateSeverity)

/-- A foreign key with the actions it gets. -/
def setActions (onDelete onUpdate : FkAction) (f : ForeignKey) : ForeignKey :=
  { f with
    onDelete := { f.onDelete with target := some onDelete }
    onUpdate := { f.onUpdate with target := some onUpdate } }

/-- Carry out what was decided for a foreign key. -/
def applyPlan (keys : List ForeignKey) : KeyPlan → List ForeignKey
  | (id, none) => keys.filter fun f => f.id ≠ id
  | (id, some (onDelete, onUpdate)) =>
    Table.modifyFirst (fun f => f.id = id) (setActions onDelete onUpdate) keys

/-- Map the foreign keys of one table, with the parents of the whole model in sight. -/
def mapTableForeignKeys (m : Model) (id : TableId) (t : Table) : Table × List Issue :=
  let planned := t.foreignKeys.map (planKey m id t)
  ({ t with foreignKeys := (planned.map (·.1)).foldl applyPlan t.foreignKeys },
    planned.flatMap (·.2))

/-- Map the foreign keys of every table. -/
def mapForeignKeys (m : Model) : Model :=
  let mapped := m.tables.map fun (id, t) => (id, mapTableForeignKeys m id t)
  { m with
    tables := mapped.map fun (id, t, _) => (id, t)
    issues := m.issues ++ mapped.flatMap fun (_, _, found) => found }

end SchemaBridge.Mapper
