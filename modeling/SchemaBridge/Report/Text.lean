/-
# Reports as text

What a reader sees on a terminal: a few lines of totals, then the issues by category, the keys that
were added, the rejected expressions, and one line for each table.
-/
import SchemaBridge.Report.Basic

namespace SchemaBridge.Report

/-- A text with spaces after it, up to a number of characters. -/
def padded (width : Nat) (s : String) : String :=
  s ++ String.ofList (List.replicate (width - s.length) ' ')

/-- A number in the text of a report. -/
def number (n : Nat) : String := Text.decimal n

/-- A heading and lines under it, or nothing if there are no lines. -/
def block (heading : String) (lines : List String) : List String :=
  if lines.isEmpty then [] else ("\n" ++ heading) :: lines

/-- What is converted into what, for which request, and whether the run was broken off. -/
def headLines (r : Report) : List String :=
  ["Schema conversion report (" ++ r.source.name ++ " -> " ++ r.target.name ++ ")",
    "Request: " ++ r.audit.requestId]
    ++ (if r.summary.isPartial then
        ["WARNING: the run was aborted; this model is partial"] else [])

/-- The totals of a report. -/
def totalLines (r : Report) : List String :=
  let s := r.summary
  ["\n" ++ number s.tables ++ " tables, " ++ number s.columns ++ " columns, " ++ number s.indexes
      ++ " indexes, " ++ number s.foreignKeys ++ " foreign keys, " ++ number s.checks ++ " checks",
    "Type mapping: " ++ number r.tiers.exact ++ " exact, " ++ number r.tiers.lossy ++ " lossy, "
      ++ number r.tiers.unsupported ++ " unsupported",
    "Expressions: " ++ number s.verified ++ " verified, " ++ number s.rejected ++ " rejected, "
      ++ number s.unverified ++ " unverified"]

/-- The number of issues of a category. -/
def categoryLine (c : IssueCategory × Nat) : String :=
  "  " ++ padded 24 c.1.name ++ " " ++ number c.2

/-- An expression that was rejected, with the reason. -/
def rejectedLine (e : ExpressionEntry) : String :=
  "  " ++ e.object ++ ": " ++ e.source ++ " (" ++ e.rejection.getD "" ++ ")"

/-- A table with its rating and the numbers of its issues. -/
def tableLine (t : TableEntry) : String :=
  "  " ++ padded 32 t.name ++ " " ++ padded 10 t.rating.name ++ " " ++ number t.errors ++ " errors, "
    ++ number t.warnings ++ " warnings"

/-- The lines of a report. -/
def lines (r : Report) : List String :=
  headLines r ++ totalLines r
    ++ block ("Issues (" ++ number r.summary.issues ++ "):") (r.byCategory.map categoryLine)
    ++ block "Synthetic keys:" (r.syntheticKeys.map fun k => "  " ++ k.table ++ "." ++ k.column)
    ++ block "Rejected expressions:" (r.rejected.map rejectedLine)
    ++ "\nTables:" :: r.tables.map tableLine
    ++ r.schemaIssues.map fun i => "  " ++ i

/-- The text of a report. -/
def text (r : Report) : String := String.join (r.lines.map fun l => l ++ "\n")

end SchemaBridge.Report
