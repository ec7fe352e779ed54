/-
# Scripts for the target

Tables first, then indexes, then foreign keys, so that a script applies from top to bottom even where
tables refer to each other in a circle.
-/
import SchemaBridge.Ddl.Statement
import SchemaBridge.Schema.Audit

namespace SchemaBridge.Ddl

/-- The foreign keys of a table whose parents are in the model. -/
def foreignKeyStatements (s : Style) (m : Model) (t : Table) : Outcome (List String) := do
  let one := fun (f : ForeignKey) => match m.table? f.referencedTable with
    | some parent => (addForeignKey s t parent f).map some
    | none => .ok none
  return (← t.foreignKeys.mapM one).filterMap id

/-- The statements of a model in a dialect, without what ends them. -/
def statements (d : TargetDialect) (m : Model) : Outcome (List String) := do
  let s : Style := ⟨m.source, d⟩
  let tables ← m.tableList.mapM (createTable s)
  let indexes ← m.tableList.mapM fun t => t.indexes.mapM (createIndex s t)
  let keys ← m.tableList.mapM (foreignKeyStatements s m)
  return tables ++ indexes.flatten ++ keys.flatten

/-- The lines a script begins with. -/
def header (d : TargetDialect) (m : Model) : String :=
  "-- Generated by schema-convert " ++ toolVersion ++ " (" ++ m.source.name ++ " -> "
    ++ d.name ++ ")\n-- Request: " ++ m.audit.requestId ++ "\n"
    ++ (if m.isPartial then "-- WARNING: partial model; some tables or checks are missing\n" else "")

/-- The script of a model in a dialect. -/
def script (d : TargetDialect) (m : Model) : Outcome String := do
  let ss ← statements d m
  return header d m ++ String.join (ss.map fun s => "\n" ++ s ++ ";\n")

end SchemaBridge.Ddl
