/-
# The model as JSON

Every part of the model as a JSON object with its fields ordered by key.  What has a usual value
is left out: an absent option, a flag that does not hold, an empty parameter list.
-/
import SchemaBridge.Json.Writer
import SchemaBridge.Schema.Model
import SchemaBridge.Schema.Moment

namespace SchemaBridge.Session

open Json (object optionalField flagField)

/-- A number. -/
def encodeNat (n : Nat) : Json := .int n

/-- A list, item by item. -/
def encodeList {α : Type} (f : α → Json) (l : List α) : Json := .arr (l.map f)

/-- A list that is written only when it is not empty. -/
def listField {α : Type} (key : String) (f : α → Json) (l : List α) : List (String × Json) :=
  if l.isEmpty then [] else [(key, encodeList f l)]

/-- A type of the source, without what is empty. -/
def encodeSourceType (t : SourceType) : Json :=
  object <|
    [("name", .str t.name)] ++ listField "mods" .int t.mods ++ listField "values" .str t.values
      ++ (if t.arrayDims = 0 then [] else [("array_dims", encodeNat t.arrayDims)])
      ++ [("raw", .str t.raw)]

/-- A type of the target, without what is not set. -/
def encodeTargetType (t : TargetType) : Json :=
  object <|
    [("kind", .str t.kind.name)] ++ optionalField "length" encodeNat t.length
      ++ flagField "array" t.array

/-- An expression, without what is not set. -/
def encodeExpression (e : Expression) : Json :=
  object <|
    [("source", .str e.source)] ++ optionalField "translated" .str e.translated
      ++ [("status", .str e.status.name)] ++ optionalField "rejection" .str e.rejection

/-- A part of a key; ascending order is not written. -/
def encodeKeyPart (k : KeyPart) : Json :=
  object <| [("column", encodeNat k.column.val)] ++ flagField "desc" k.desc

/-- A column, without what is not set. -/
def encodeColumn (c : Column) : Json :=
  object <|
    [("id", encodeNat c.id.val), ("name", .str c.name),
      ("source_type", encodeSourceType c.sourceType)]
      ++ optionalField "target_type" encodeTargetType c.targetType
      ++ optionalField "confidence" (.str ·.name) c.confidence
      ++ [("nullable", .bool c.nullable)]
      ++ optionalField "default" encodeExpression c.default
      ++ optionalField "generated" encodeExpression c.generated
      ++ flagField "identity" c.identity ++ flagField "synthetic" c.synthetic

/-- An index. -/
def encodeIndex (i : Index) : Json :=
  object
    [("id", encodeNat i.id.val), ("name", .str i.name), ("keys", encodeList encodeKeyPart i.keys),
      ("unique", .bool i.unique)]

/-- An action with what the target makes of it, if that is known. -/
def encodePolicy (p : FkPolicy) : Json :=
  object <| [("source", .str p.source.name)] ++ optionalField "target" (.str ·.name) p.target

/-- Columns by their identifiers. -/
def encodeColumnIds (ids : List ColumnId) : Json := encodeList (encodeNat ·.val) ids

/-- A foreign key. -/
def encodeForeignKey (f : ForeignKey) : Json :=
  object
    [("id", encodeNat f.id.val), ("name", .str f.name), ("columns", encodeColumnIds f.columns),
      ("referenced_table", encodeNat f.referencedTable.val),
      ("referenced_columns", encodeColumnIds f.referencedColumns),
      ("on_delete", encodePolicy f.onDelete), ("on_update", encodePolicy f.onUpdate)]

/-- A check. -/
def encodeCheck (c : CheckConstraint) : Json :=
  object [("id", encodeNat c.id.val), ("name", .str c.name), ("expr", encodeExpression c.expr)]

/-- A table, without what is not set. -/
def encodeTable (t : Table) : Json :=
  object <|
    [("id", encodeNat t.id.val), ("name", .str t.name)]
      ++ optionalField "namespace" .str t.nspace
      ++ [("source_name", .str t.sourceName), ("columns", encodeList encodeColumn t.columns),
        ("primary_key", encodeList encodeKeyPart t.primaryKey),
        ("indexes", encodeList encodeIndex t.indexes),
        ("foreign_keys", encodeList encodeForeignKey t.foreignKeys),
        ("checks", encodeList encodeCheck t.checks)]

/-- What an issue is about, with its kind. -/
def encodeTarget : IssueTarget → Json
  | .schema => object [("kind", .str "schema")]
  | .table t => object [("kind", .str "table"), ("table", encodeNat t.val)]
  | .column t c =>
    object [("kind", .str "column"), ("table", encodeNat t.val), ("column", encodeNat c.val)]
  | .index t i =>
    object [("kind", .str "index"), ("table", encodeNat t.val), ("index", encodeNat i.val)]
  | .foreignKey t f =>
    object
      [("kind", .str "foreign_key"), ("table", encodeNat t.val), ("foreign_key", encodeNat f.val)]
  | .check t c =>
    object [("kind", .str "check"), ("table", encodeNat t.val), ("check", encodeNat c.val)]

/-- An issue. -/
def encodeIssue (i : Issue) : Json :=
  object
    [("category", .str i.category.name), ("severity", .str i.severity.name),
      ("stage", .str i.stage.name), ("target", encodeTarget i.target), ("detail", .str i.detail)]

/-- Numbers of issues under the names of their categories. -/
def encodeCounts (counts : List (IssueCategory × Nat)) : Json :=
  object (counts.map fun (c, n) => (c.name, encodeNat n))

/-- A moment. -/
def encodeInstant (i : Instant) : Json := .str (Moment.text i)

/-- The metadata of a run, without what is not set. -/
def encodeAudit (a : Audit) : Json :=
  object <|
    [("migration_request_id", .str a.requestId), ("migration_type", .str "schema_only")]
      ++ optionalField "config_fingerprint" .str a.configFingerprint
      ++ optionalField "source_digest" .str a.sourceDigest
      ++ [("bytes_read", encodeNat a.bytesRead), ("started_at", encodeInstant a.startedAt)]
      ++ optionalField "completed_at" encodeInstant a.completedAt
      ++ optionalField "duration_ms" encodeNat a.durationMs
      ++ optionalField "resumed_from" .str a.resumedFrom
      ++ [("verification_runs", encodeNat a.verificationRuns),
        ("issue_counts", encodeCounts a.issueCounts)]

/-- Tables under their identifiers. -/
def encodeTables (tables : List (TableId × Table)) : Json :=
  object (tables.map fun (id, t) => (Text.decimal id.val, encodeTable t))

/-- The model as JSON. -/
def encodeModel (m : Model) : Json :=
  object
    [("source_dialect", .str m.source.name), ("target_dialect", .str m.target.name),
      ("tables", encodeTables m.tables), ("issues", encodeList encodeIssue m.issues),
      ("audit", encodeAudit m.audit), ("next_id", encodeNat m.nextId)]

end SchemaBridge.Session
