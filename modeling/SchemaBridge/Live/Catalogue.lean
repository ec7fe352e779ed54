/-
# Catalogues

What a live PostgreSQL database says about its schema: rows in the form in which the queries
return them.  A `Catalogue` is a database as the reader sees it, one answer to each question; any
answer may be a refusal.  A name is written bare if it can be and between double quotes otherwise, and
the body of a check is put between parentheses; `plainName` and `checkBody` undo this.
-/
import SchemaBridge.Error
import SchemaBridge.Live.Query
import SchemaBridge.Text.Pattern

namespace SchemaBridge.Live

/-- A view as the server lists it. -/
structure ViewRow where
  nspace : String
  name : String
  materialized : Bool
  deriving DecidableEq, Repr, Inhabited

/-- A column as the server describes it. -/
structure ColumnRow where
  name : String
  /-- The type as the server writes it. -/
  type : String
  nullable : Bool
  /-- The default, or what a generated column is generated from. -/
  expression : Option String
  /-- The text `s` for a stored generated column. -/
  generated : String
  /-- Empty if the column is no identity column. -/
  identity : String
  /-- Labels of the type, if it is an enumeration. -/
  labels : Option (List String)
  deriving DecidableEq, Repr, Inhabited

/-- One key of an index. -/
structure IndexRow where
  /-- Name of the index. -/
  name : String
  unique : Bool
  /-- Whether the index covers only the rows that satisfy a predicate. -/
  isPartial : Bool
  /-- The column, quoted if need be, or an expression. -/
  key : String
  descending : Bool
  deriving DecidableEq, Repr, Inhabited

/-- A foreign key as the server describes it. -/
structure ForeignKeyRow where
  name : String
  columns : List String
  referencedNamespace : String
  referencedTable : String
  referencedColumns : List String
  /-- Code of the action on deletion. -/
  deleteCode : String
  /-- Code of the action on update. -/
  updateCode : String
  deriving DecidableEq, Repr, Inhabited

/-- A check as the server describes it. -/
structure CheckRow where
  name : String
  expression : String
  deriving DecidableEq, Repr, Inhabited

/-- The answers of a database.  Those about a table take its schema and its name. -/
structure Catalogue where
  probe : Outcome Unit
  /-- Tables in the order in which they are read, each with its schema. -/
  tables : Outcome (List (String × String))
  views : Outcome (List ViewRow)
  columns : String → String → Outcome (List ColumnRow)
  primaryKey : String → String → Outcome (List String)
  indexes : String → String → Outcome (List IndexRow)
  foreignKeys : String → String → Outcome (List ForeignKeyRow)
  checks : String → String → Outcome (List CheckRow)

/-! ## Spellings -/

/-- Write a doubled quote once. -/
def singleQuotes : List Char → List Char
  | '"' :: '"' :: r => '"' :: singleQuotes r
  | c :: r => c :: singleQuotes r
  | [] => []

/-- What stands between a first and a last character, if a text has both. -/
def between? (first last : Char) : List Char → Option (List Char)
  | [] => none
  | c :: r => if c = first ∧ r.getLast? = some last then some r.dropLast else none

/-- The name that a catalogue spells, without its quotes.  An expression is left as it is. -/
def plainName (spelled : List Char) : List Char :=
  match between? '"' '"' spelled with
  | some inner => singleQuotes inner
  | none => spelled

/-- Whether the parentheses of a text pair up, when `depth` of them are open before it. -/
def balancedFrom : Nat → List Char → Bool
  | depth, [] => depth = 0
  | depth, '(' :: r => balancedFrom (depth + 1) r
  | 0, ')' :: _ => false
  | depth + 1, ')' :: r => balancedFrom depth r
  | depth, _ :: r => balancedFrom depth r

/-- Whether the parentheses of a text pair up. -/
def balanced (s : List Char) : Bool := balancedFrom 0 s

/-- The body of a check: the text without white space around it, and without one pair of outer
parentheses if what these enclose is balanced by itself. -/
def checkBody (expression : List Char) : List Char :=
  let trimmed := Text.trim expression
  match between? '(' ')' trimmed with
  | some inner => if balanced inner then inner else trimmed
  | none => trimmed

end SchemaBridge.Live
