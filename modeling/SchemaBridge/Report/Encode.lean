/-
# Reports as JSON

A report as a JSON object, its fields in the order in which a reader wants them.
-/
import SchemaBridge.Report.Basic
import SchemaBridge.Session.Encode

namespace SchemaBridge.Report

open Json (optionalField)
open Session (encodeNat encodeList)

/-- The totals as JSON. -/
def encodeSummary (s : Summary) : Json :=
  .obj
    [("tables", encodeNat s.tables), ("columns", encodeNat s.columns),
      ("indexes", encodeNat s.indexes), ("foreign_keys", encodeNat s.foreignKeys),
      ("checks", encodeNat s.checks), ("expressions_verified", encodeNat s.verified),
      ("expressions_rejected", encodeNat s.rejected),
      ("expressions_unverified", encodeNat s.unverified), ("issues", encodeNat s.issues),
      ("partial", .bool s.isPartial)]

/-- The numbers of columns by confidence as JSON. -/
def encodeTiers (t : Tiers) : Json :=
  .obj
    [("exact", encodeNat t.exact), ("lossy", encodeNat t.lossy),
      ("unsupported", encodeNat t.unsupported), ("unmapped", encodeNat t.unmapped)]

/-- A synthetic key as JSON. -/
def encodeSyntheticKey (k : SyntheticKey) : Json :=
  .obj [("table", .str k.table), ("column", .str k.column)]

/-- An expression of the report as JSON, without what is not set. -/
def encodeEntry (e : ExpressionEntry) : Json :=
  .obj
    ([("object", .str e.object), ("kind", .str e.kind.name), ("source", .str e.source)]
      ++ optionalField "translated" .str e.translated
      ++ optionalField "message" .str e.rejection)

/-- A table of the report as JSON. -/
def encodeTableEntry (t : TableEntry) : Json :=
  .obj
    [("name", .str t.name), ("source_name", .str t.sourceName), ("columns", encodeNat t.columns),
      ("rating", .str t.rating.name), ("errors", encodeNat t.errors),
      ("warnings", encodeNat t.warnings), ("infos", encodeNat t.infos),
      ("issues", encodeList .str t.issues)]

/-- A report as JSON. -/
def encode (r : Report) : Json :=
  .obj
    [("source_dialect", .str r.source.name), ("target_dialect", .str r.target.name),
      ("summary", encodeSummary r.summary),
      ("issues_by_category", .obj (r.byCategory.map fun (c, n) => (c.name, encodeNat n))),
      ("issues_by_severity", .obj (r.bySeverity.map fun (s, n) => (s.name, encodeNat n))),
      ("confidence", encodeTiers r.tiers),
      ("synthetic_keys", encodeList encodeSyntheticKey r.syntheticKeys),
      ("rejected_expressions", encodeList encodeEntry r.rejected),
      ("unverified_expressions", encodeList encodeEntry r.unverified),
      ("tables", encodeList encodeTableEntry r.tables),
      ("schema_issues", encodeList .str r.schemaIssues),
      ("audit", Session.encodeAudit r.audit)]

end SchemaBridge.Report
