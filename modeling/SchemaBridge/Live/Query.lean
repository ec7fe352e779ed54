/-
# Questions to a catalogue

The queries by which a live PostgreSQL database is asked for its schema.  Every query has a fixed
text; the schemas, or the schema and the table, are its parameters.
-/

namespace SchemaBridge.Live

/-- What a catalogue is asked. -/
inductive Query
  /-- Whether the server answers at all. -/
  | probe
  /-- The tables of some schemas. -/
  | tables
  /-- The views of some schemas. -/
  | views
  /-- The columns of a table. -/
  | columns
  | primaryKey
  /-- The index keys of a table, the primary key left out. -/
  | indexes
  | foreignKeys
  | checks
  deriving DecidableEq, Repr, Inhabited

namespace Query

/-- The lines of a query. -/
def lines : Query → List String
  | probe => ["SELECT 1"]
  | tables =>
    ["SELECT n.nspname, c.relname",
      "FROM pg_catalog.pg_class c",
      "JOIN pg_catalog.pg_namespace n ON n.oid = c.relnamespace",
      "WHERE c.relkind IN ('r', 'p')",
      "  AND NOT c.relispartition",
      "  AND n.nspname = ANY($1)",
      "ORDER BY n.nspname, c.relname"]
  | views =>
    ["SELECT n.nspname, c.relname, c.relkind = 'm'",
      "FROM pg_catalog.pg_class c",
      "JOIN pg_catalog.pg_namespace n ON n.oid = c.relnamespace",
      "WHERE c.relkind IN ('v', 'm')",
      "  AND n.nspname = ANY($1)",
      "ORDER BY n.nspname, c.relname"]
  | columns =>
    ["SELECT",
      "    a.attname,",
      "    pg_catalog.format_type(a.atttypid, a.atttypmod),",
      "    NOT a.attnotnull,",
      "    pg_catalog.pg_get_expr(d.adbin, d.adrelid),",
      "    a.attgenerated::text,",
      "    a.attidentity::text,",
      "    (SELECT array_agg(e.enumlabel::text ORDER BY e.enumsortorder)",
      "       FROM pg_catalog.pg_enum e",
      "      WHERE e.enumtypid = a.atttypid)",
      "FROM pg_catalog.pg_attribute a",
      "JOIN pg_catalog.pg_class c ON c.oid = a.attrelid",
      "JOIN pg_catalog.pg_namespace n ON n.oid = c.relnamespace",
      "LEFT JOIN pg_catalog.pg_attrdef d ON d.adrelid = a.attrelid AND d.adnum = a.attnum",
      "WHERE n.nspname = $1 AND c.relname = $2",
      "  AND a.attnum > 0 AND NOT a.attisdropped",
      "ORDER BY a.attnum"]
  | primaryKey =>
    ["SELECT a.attname",
      "FROM pg_catalog.pg_constraint c",
      "JOIN pg_catalog.pg_class t ON t.oid = c.conrelid",
      "JOIN pg_catalog.pg_namespace n ON n.oid = t.relnamespace",
      "JOIN pg_catalog.pg_attribute a ON a.attrelid = t.oid",
      "WHERE n.nspname = $1",
      "  AND t.relname = $2",
      "  AND c.contype = 'p'",
      "  AND a.attnum = ANY(c.conkey)",
      "ORDER BY array_position(c.conkey, a.attnum)"]
  | indexes =>
    ["SELECT",
      "    i.relname,",
      "    ix.indisunique,",
      "    ix.indpred IS NOT NULL,",
      "    pg_catalog.pg_get_indexdef(ix.indexrelid, k.ord, true),",
      "    (ix.indoption[k.ord - 1]::int & 1) = 1",
      "FROM pg_catalog.pg_index ix",
      "JOIN pg_catalog.pg_class i ON i.oid = ix.indexrelid",
      "JOIN pg_catalog.pg_class t ON t.oid = ix.indrelid",
      "JOIN pg_catalog.pg_namespace n ON n.oid = t.relnamespace",
      "CROSS JOIN LATERAL generate_series(1, ix.indnkeyatts::int) AS k(ord)",
      "WHERE n.nspname = $1",
      "  AND t.relname = $2",
      "  AND NOT ix.indisprimary",
      "ORDER BY i.relname, k.ord"]
  | foreignKeys =>
    ["SELECT",
      "    c.conname,",
      "    array_agg(a.attname::text ORDER BY array_position(c.conkey, a.attnum)),",
      "    rn.nspname,",
      "    rt.relname,",
      "    array_agg(ra.attname::text ORDER BY array_position(c.confkey, ra.attnum)),",
      "    c.confdeltype::text,",
      "    c.confupdtype::text",
      "FROM pg_catalog.pg_constraint c",
      "JOIN pg_catalog.pg_class t ON t.oid = c.conrelid",
      "JOIN pg_catalog.pg_namespace n ON n.oid = t.relnamespace",
      "JOIN pg_catalog.pg_class rt ON rt.oid = c.confrelid",
      "JOIN pg_catalog.pg_namespace rn ON rn.oid = rt.relnamespace",
      "JOIN pg_catalog.pg_attribute a ON a.attrelid = t.oid AND a.attnum = ANY(c.conkey)",
      "JOIN pg_catalog.pg_attribute ra ON ra.attrelid = rt.oid",
      "    AND ra.attnum = c.confkey[array_position(c.conkey, a.attnum)]",
      "WHERE n.nspname = $1",
      "  AND t.relname = $2",
      "  AND c.contype = 'f'",
      "GROUP BY c.conname, rn.nspname, rt.relname, c.confdeltype, c.confupdtype",
      "ORDER BY c.conname"]
  | checks =>
    ["SELECT c.conname, pg_catalog.pg_get_expr(c.conbin, c.conrelid)",
      "FROM pg_catalog.pg_constraint c",
      "JOIN pg_catalog.pg_class t ON t.oid = c.conrelid",
      "JOIN pg_catalog.pg_namespace n ON n.oid = t.relnamespace",
      "WHERE n.nspname = $1",
      "  AND t.relname = $2",
      "  AND c.contype = 'c'",
      "ORDER BY c.conname"]

/-- The text of a query as the server receives it.  All but the probe are set off by line breaks
and indented alike. -/
def text : Query → String
  | probe => "SELECT 1"
  | q =>
    let indent := "            "
    "\n" ++ String.join (q.lines.map fun l => indent ++ l ++ "\n") ++ "        "

end Query

end SchemaBridge.Live
