/-
# Definitions of tables and indexes

What a statement that defines something says, as far as a schema needs it: columns with their types
and options, constraints of a table, indexes, and the changes made to a table afterwards.  Of types
and expressions only the text is asked for, so they stand here as printed, and so does every option
that has no meaning of its own here.
-/
import SchemaBridge.Schema.Table
import SchemaBridge.Sql.Token

namespace SchemaBridge.Sql

/-- The table and columns a foreign key refers to, and what happens to the referencing rows. -/
structure Reference where
  table : List Ident
  columns : List Ident
  onDelete : Option FkAction
  onUpdate : Option FkAction
  deriving DecidableEq, Repr, Inhabited

/-- An option of a column. -/
inductive ColumnOption
  | null
  | notNull
  | default (text : String)
  | primaryKey
  | unique
  | references (reference : Reference)
  | check (text : String)
  /-- A computed column. -/
  | generated (text : String)
  /-- `GENERATED ... AS IDENTITY`. -/
  | identity
  /-- An option of any other kind, as printed. -/
  | other (text : String)
  deriving DecidableEq, Repr, Inhabited

/-- A column of a table that is defined. -/
structure ColumnDefinition where
  name : Ident
  /-- The type, as printed. -/
  type : String
  options : List ColumnOption
  deriving DecidableEq, Repr, Inhabited

/-- A constraint of a table. -/
inductive TableConstraint
  | primaryKey (columns : List Ident)
  /-- `name` is that of the index if it has one of its own, else that of the constraint. -/
  | unique (name : Option Ident) (columns : List Ident)
  | index (name : Option Ident) (columns : List Ident)
  | foreignKey (name : Option Ident) (columns : List Ident) (reference : Reference)
  | check (name : Option Ident) (text : String)
  /-- A constraint without a counterpart, as printed. -/
  | other (text : String)
  deriving DecidableEq, Repr, Inhabited

/-- A change of a table. -/
inductive TableChange
  | addConstraint (constraint : TableConstraint)
  | setDefault (column : Ident) (text : String)
  | addColumn (column : ColumnDefinition)
  /-- From now on rows are numbered by a column. -/
  | addIdentity (column : Ident)
  /-- A change that is none of the schema's. -/
  | other
  deriving DecidableEq, Repr, Inhabited

/-- What an index is about. -/
inductive IndexKey
  /-- A column, by its name alone. -/
  | column (name : Ident)
  /-- Any other expression, as printed. -/
  | other (text : String)
  deriving DecidableEq, Repr, Inhabited

/-- One part of an index, and whether it is taken in descending order. -/
structure IndexPart where
  key : IndexKey
  desc : Bool
  deriving DecidableEq, Repr, Inhabited

/-- A statement, as far as it defines something. -/
inductive Definition
  | createTable (name : List Ident) (columns : List ColumnDefinition)
    (constraints : List TableConstraint)
  | alterTable (name : List Ident) (changes : List TableChange)
  /-- An index, perhaps only of the rows that satisfy a predicate. -/
  | createIndex (name : Option (List Ident)) (table : List Ident) (unique : Bool)
    (parts : List IndexPart) (predicate : Option String)
  /-- A statement of any other kind. -/
  | other
  deriving DecidableEq, Repr, Inhabited

/-- What reads the statements of a text, or says why it cannot. -/
abbrev StatementReader := Dialect → String → Except String (List Definition)

end SchemaBridge.Sql
