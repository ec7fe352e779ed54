/-
# The model from JSON

Decoders for every part of the model.  A missing option, flag or list has its usual value; null
stands for a missing option only.
-/
import SchemaBridge.Json.Decode
import SchemaBridge.Schema.Model
import SchemaBridge.Schema.Moment

namespace SchemaBridge.Session

open Json (Decoder decodeText decodeBool decodeList decodeName decodeWord32 decodeWord64 decodeInt64
  recordFields required optional withDefault)

/-- The identifier of a table. -/
def decodeTableId : Decoder TableId := fun v => (decodeWord32 v).map (⟨·⟩)

/-- The identifier of a column. -/
def decodeColumnId : Decoder ColumnId := fun v => (decodeWord32 v).map (⟨·⟩)

/-- The identifier of an index. -/
def decodeIndexId : Decoder IndexId := fun v => (decodeWord32 v).map (⟨·⟩)

/-- The identifier of a foreign key. -/
def decodeForeignKeyId : Decoder ForeignKeyId := fun v => (decodeWord32 v).map (⟨·⟩)

/-- The identifier of a check. -/
def decodeCheckId : Decoder CheckId := fun v => (decodeWord32 v).map (⟨·⟩)

/-- A type of the source; what is left out is empty. -/
def decodeSourceType : Decoder SourceType := fun v => do
  let fs ← recordFields ["name", "mods", "values", "array_dims", "raw"] v
  return {
    name := ← required fs "name" decodeText
    mods := ← withDefault fs "mods" [] (decodeList decodeInt64)
    values := ← withDefault fs "values" [] (decodeList decodeText)
    arrayDims := ← withDefault fs "array_dims" 0 decodeWord32
    raw := ← required fs "raw" decodeText }

/-- A type of the target. -/
def decodeTargetType : Decoder TargetType := fun v => do
  let fs ← recordFields ["kind", "length", "array"] v
  return {
    kind := ← required fs "kind" (decodeName "a target kind" TargetKind.ofName?)
    length := ← optional fs "length" decodeWord32
    array := ← withDefault fs "array" false decodeBool }

/-- An expression with its verdict, if it has one. -/
def decodeExpression : Decoder Expression := fun v => do
  let fs ← recordFields ["source", "translated", "status", "rejection"] v
  return {
    source := ← required fs "source" decodeText
    translated := ← optional fs "translated" decodeText
    status := ← withDefault fs "status" .unverified (decodeName "a status" VerificationStatus.ofName?)
    rejection := ← optional fs "rejection" decodeText }

/-- A part of a key, in ascending order if nothing is said. -/
def decodeKeyPart : Decoder KeyPart := fun v => do
  let fs ← recordFields ["column", "desc"] v
  return {
    column := ← required fs "column" decodeColumnId
    desc := ← withDefault fs "desc" false decodeBool }

/-- A column. -/
def decodeColumn : Decoder Column := fun v => do
  let fs ← recordFields ["id", "name", "source_type", "target_type", "confidence", "nullable",
    "default", "generated", "identity", "synthetic"] v
  return {
    id := ← required fs "id" decodeColumnId
    name := ← required fs "name" decodeText
    sourceType := ← required fs "source_type" decodeSourceType
    targetType := ← optional fs "target_type" decodeTargetType
    confidence := ← optional fs "confidence" (decodeName "a confidence" Confidence.ofName?)
    nullable := ← required fs "nullable" decodeBool
    default := ← optional fs "default" decodeExpression
    generated := ← optional fs "generated" decodeExpression
    identity := ← withDefault fs "identity" false decodeBool
    synthetic := ← withDefault fs "synthetic" false decodeBool }

/-- An index. -/
def decodeIndex : Decoder Index := fun v => do
  let fs ← recordFields ["id", "name", "keys", "unique"] v
  return {
    id := ← required fs "id" decodeIndexId
    name := ← required fs "name" decodeText
    keys := ← required fs "keys" (decodeList decodeKeyPart)
    unique := ← required fs "unique" decodeBool }

/-- An action on deletion or update. -/
def decodeAction : Decoder FkAction := decodeName "an action" FkAction.ofName?

/-- An action with what the target makes of it. -/
def decodePolicy : Decoder FkPolicy := fun v => do
  let fs ← recordFields ["source", "target"] v
  return {
    source := ← required fs "source" decodeAction
    target := ← optional fs "target" decodeAction }

/-- A foreign key. -/
def decodeForeignKey : Decoder ForeignKey := fun v => do
  let fs ← recordFields ["id", "name", "columns", "referenced_table", "referenced_columns",
    "on_delete", "on_update"] v
  return {
    id := ← required fs "id" decodeForeignKeyId
    name := ← required fs "name" decodeText
    columns := ← required fs "columns" (decodeList decodeColumnId)
    referencedTable := ← required fs "referenced_table" decodeTableId
    referencedColumns := ← required fs "referenced_columns" (decodeList decodeColumnId)
    onDelete := ← withDefault fs "on_delete" (.declared .noAction) decodePolicy
    onUpdate := ← withDefault fs "on_update" (.declared .noAction) decodePolicy }

/-- A check. -/
def decodeCheck : Decoder CheckConstraint := fun v => do
  let fs ← recordFields ["id", "name", "expr"] v
  return {
    id := ← required fs "id" decodeCheckId
    name := ← required fs "name" decodeText
    expr := ← required fs "expr" decodeExpression }

/-- A table. -/
def decodeTable : Decoder Table := fun v => do
  let fs ← recordFields ["id", "name", "namespace", "source_name", "columns", "primary_key",
    "indexes", "foreign_keys", "checks"] v
  return {
    id := ← required fs "id" decodeTableId
    name := ← required fs "name" decodeText
    nspace := ← optional fs "namespace" decodeText
    sourceName := ← required fs "source_name" decodeText
    columns := ← required fs "columns" (decodeList decodeColumn)
    primaryKey := ← withDefault fs "primary_key" [] (decodeList decodeKeyPart)
    indexes := ← withDefault fs "indexes" [] (decodeList decodeIndex)
    foreignKeys := ← withDefault fs "foreign_keys" [] (decodeList decodeForeignKey)
    checks := ← withDefault fs "checks" [] (decodeList decodeCheck) }

/-- The kind of an issue target and the value that holds its other fields. -/
def splitTarget : Json → Except String (String × Json)
  | .obj fields =>
    match fields.lookup "kind" with
    | some (.str kind) => .ok (kind, .obj (fields.filter fun f => f.1 ≠ "kind"))
    | _ => Json.expected "a target with a kind"
  | .arr (.str kind :: items) => .ok (kind, .arr items)
  | _ => Json.expected "a target"

/-- What an issue is about; its kind tells which fields follow. -/
def decodeTarget : Decoder IssueTarget := fun v => do
  let (kind, rest) ← splitTarget v
  match kind with
  | "schema" =>
    match rest with
    | .arr (_ :: _) => Json.expected "fewer items"
    | _ => return .schema
  | "table" =>
    let fs ← recordFields ["table"] rest
    return .table (← required fs "table" decodeTableId)
  | "column" =>
    let fs ← recordFields ["table", "column"] rest
    return .column (← required fs "table" decodeTableId) (← required fs "column" decodeColumnId)
  | "index" =>
    let fs ← recordFields ["table", "index"] rest
    return .index (← required fs "table" decodeTableId) (← required fs "index" decodeIndexId)
  | "foreign_key" =>
    let fs ← recordFields ["table", "foreign_key"] rest
    return .foreignKey (← required fs "table" decodeTableId)
      (← required fs "foreign_key" decodeForeignKeyId)
  | "check" =>
    let fs ← recordFields ["table", "check"] rest
    return .check (← required fs "table" decodeTableId) (← required fs "check" decodeCheckId)
  | _ => Json.expected "a target of a known kind"

/-- An issue. -/
def decodeIssue : Decoder Issue := fun v => do
  let fs ← recordFields ["category", "severity", "stage", "target", "detail"] v
  return {
    category := ← required fs "category" (decodeName "a category" IssueCategory.ofName?)
    severity := ← required fs "severity" (decodeName "a severity" Severity.ofName?)
    stage := ← required fs "stage" (decodeName "a stage" Stage.ofName?)
    target := ← required fs "target" decodeTarget
    detail := ← required fs "detail" decodeText }

/-- Issue counts, in the order of the categories. -/
def decodeCounts : Decoder (List (IssueCategory × Nat))
  | .obj fields => do
    let counts ← fields.mapM fun (k, v) => do
      match IssueCategory.ofName? k with
      | some c => return (c, ← decodeWord64 v)
      | none => Json.expected "a category"
    return IssueCategory.all.filterMap fun c => (counts.lookup c).map fun n => (c, n)
  | _ => Json.expected "an object"

/-- A moment in one of the forms that are read. -/
def decodeInstant : Decoder Instant
  | .str s =>
    match Moment.parse? s with
    | some i => .ok i
    | none => Json.expected "a moment"
  | _ => Json.expected "a moment"

/-- The metadata of a run; what is left out is as at its start. -/
def decodeAudit : Decoder Audit := fun v => do
  let fs ← recordFields ["migration_request_id", "migration_type", "config_fingerprint",
    "source_digest", "bytes_read", "started_at", "completed_at", "duration_ms", "resumed_from",
    "verification_runs", "issue_counts"] v
  let _ ← required fs "migration_type"
    (decodeName "a migration type" fun s => if s = "schema_only" then some () else none)
  return {
    requestId := ← required fs "migration_request_id" decodeText
    configFingerprint := ← optional fs "config_fingerprint" decodeText
    sourceDigest := ← optional fs "source_digest" decodeText
    bytesRead := ← withDefault fs "bytes_read" 0 decodeWord64
    startedAt := ← required fs "started_at" decodeInstant
    completedAt := ← optional fs "completed_at" decodeInstant
    durationMs := ← optional fs "duration_ms" decodeWord64
    resumedFrom := ← optional fs "resumed_from" decodeText
    verificationRuns := ← withDefault fs "verification_runs" 0 decodeWord32
    issueCounts := ← withDefault fs "issue_counts" [] decodeCounts }

/-- The identifier a field name of the table list stands for: decimal digits without a zero before
them. -/
def tableKey? (key : String) : Option TableId :=
  match key.toList with
  | ['0'] => some ⟨0⟩
  | '0' :: _ => none
  | ds => ((Text.readNat? ds).filter (· ≤ 4294967295)).map (⟨·⟩)

/-- The tables under their identifiers, in ascending order. -/
def decodeTables : Decoder (List (TableId × Table))
  | .obj fields => do
    let tables ← fields.mapM fun (k, v) => do
      match tableKey? k with
      | some id => return (id, ← decodeTable v)
      | none => Json.expected "a table identifier"
    return tables.foldl (fun done (id, t) => Model.insertSorted id t done) []
  | _ => Json.expected "an object"

/-- The model from JSON. -/
def decodeModel : Decoder Model := fun v => do
  let fs ← recordFields ["source_dialect", "target_dialect", "tables", "issues", "audit",
    "next_id"] v
  return {
    source := ← required fs "source_dialect"
      (decodeName "a source dialect" SourceDialect.ofName?)
    target := ← required fs "target_dialect"
      (decodeName "a target dialect" TargetDialect.ofName?)
    tables := ← required fs "tables" decodeTables
    issues := ← withDefault fs "issues" [] (decodeList decodeIssue)
    audit := ← required fs "audit" decodeAudit
    nextId := ← withDefault fs "next_id" 1 decodeWord32 }

end SchemaBridge.Session
