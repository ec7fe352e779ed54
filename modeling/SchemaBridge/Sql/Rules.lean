/-
# Rules of the grammar

The grammar is recursive: an expression may hold expressions and queries, a query may hold both.
Each part of it is written against `Rules`, the parsers for what may stand inside.  The knot is tied
where the whole grammar is put together, at a depth that bounds the nesting.
-/
import SchemaBridge.Sql.TypeName

namespace SchemaBridge.Sql

/-- Parsers for what may stand inside. -/
structure Rules where
  dialect : Dialect
  /-- An expression whose operators bind more strongly than a strength. -/
  tighter : Nat → Parser Expr
  /-- A query without parentheses around it. -/
  query : Parser Pieces

namespace Rules

open Sql.Parser

/-- Any expression. -/
def expr (r : Rules) : Parser Expr := r.tighter 0

/-- An expression whose operators bind more strongly than those of a kind. -/
def above (r : Rules) (b : Binding) : Parser Expr := r.tighter (b.strength r.dialect)

/-- Expressions separated by commas. -/
def exprs (r : Rules) : Parser (List Expr) := commaSeparated r.expr

/-- Whether the rules are those of PostgreSQL. -/
def isPostgres (r : Rules) : Bool := r.dialect = .postgres

/-- Whether the rules are those of MySQL. -/
def isMysql (r : Rules) : Bool := r.dialect = .mysql

/-- Whether the rules are those of no dialect in particular. -/
def isGeneric (r : Rules) : Bool := r.dialect = .generic

/-- Whether the next token begins a query. -/
def queryFollows : Parser Bool := return ["SELECT", "WITH"].contains (← peekKey)

end Rules

/-- A form made of pieces. -/
def form (ps : List Pieces) : Expr := .form (Pieces.join ps)

/-- An expression as a piece. -/
def piece (e : Expr) : Pieces := .expr e .nil

/-- A text as a piece. -/
def words (s : String) : Pieces := .text s .nil

/-- A fixed text as an expression. -/
def verbatim (s : String) : Expr := .form (words s)

end SchemaBridge.Sql
