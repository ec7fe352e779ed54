/-
# Drafts

A schema as its source declares it: tables, columns, keys and constraints that refer to each other
by name.  Drafts carry no identifiers; the builder gives these out and resolves the names.
-/
import SchemaBridge.Schema.Table

namespace SchemaBridge

/-- What to do with a second table of a name. -/
inductive CollisionPolicy
  /-- Give it a new name. -/
  | rename
  /-- Refuse the schema. -/
  | error
  /-- Leave it out. -/
  | skip
  deriving DecidableEq, Repr, Inhabited

namespace CollisionPolicy

/-- The policy's name in configurations. -/
def name : CollisionPolicy → String
  | rename => "rename"
  | error => "error"
  | skip => "skip"

/-- The policy of a name. -/
def ofName? : String → Option CollisionPolicy
  | "rename" => some rename
  | "error" => some error
  | "skip" => some skip
  | _ => none

/-- A policy is found again by its name. -/
theorem ofName?_name (p : CollisionPolicy) : ofName? p.name = some p := by cases p <;> rfl

end CollisionPolicy

/-- A column as a reader describes it. -/
structure ColumnDraft where
  name : String
  sourceType : SourceType
  nullable : Bool
  default : Option String
  generated : Option String
  identity : Bool
  deriving DecidableEq, Repr, Inhabited

/-- A nullable column with nothing but a name and a type. -/
def ColumnDraft.plain (name : String) (sourceType : SourceType) : ColumnDraft :=
  { name, sourceType, nullable := true, default := none, generated := none, identity := false }

/-- A column name and whether it is taken in descending order. -/
abbrev KeyDraft := String × Bool

/-- An index or unique constraint. -/
structure IndexDraft where
  name : Option String
  columns : List KeyDraft
  unique : Bool
  deriving DecidableEq, Repr, Inhabited

/-- A foreign key as a reader describes it, with names for the columns on both sides. -/
structure ForeignKeyDraft where
  name : Option String
  columns : List String
  referencedNamespace : Option String
  referencedTable : String
  /-- Referenced columns; none stands for the primary key. -/
  referencedColumns : List String
  onDelete : FkAction
  onUpdate : FkAction
  deriving DecidableEq, Repr, Inhabited

/-- A check as a reader describes it. -/
structure CheckDraft where
  name : Option String
  expr : String
  deriving DecidableEq, Repr, Inhabited

/-- A table as a reader describes it. -/
structure TableDraft where
  nspace : Option String
  name : String
  columns : List ColumnDraft
  primaryKey : List KeyDraft
  indexes : List IndexDraft
  foreignKeys : List ForeignKeyDraft
  checks : List CheckDraft
  deriving DecidableEq, Repr, Inhabited

/-- A table without contents. -/
def TableDraft.empty (nspace : Option String) (name : String) : TableDraft :=
  { nspace, name, columns := [], primaryKey := [], indexes := [], foreignKeys := [], checks := [] }

/-- A table name with the schema it is declared in, if any. -/
def qualifiedName (nspace : Option String) (name : String) : String :=
  match nspace with
  | some ns => ns ++ "." ++ name
  | none => name

/-- Whether a default takes the next value of a sequence, as those of numbered columns do. -/
def isSequenceDefault (expr : String) : Bool :=
  (Text.dropPiece? "nextval(".toList (Text.lower (Text.trimStart expr.toList))).isSome

end SchemaBridge
