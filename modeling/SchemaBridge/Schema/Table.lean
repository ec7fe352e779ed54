/-
# Tables

Columns, keys, indexes, foreign keys and checks of one table.  Columns are found by identifier or,
ignoring the case of ASCII letters, by name.

A default, generated column or check expression is kept as written in the source, with its text for the
target and the verdict once the target has seen it.  A verdict is given once; `reset` takes it back.

## Key statements

* `isUniqueKey` asks whether a list of columns is the primary key or a unique index, as a set.
-/
import SchemaBridge.Error
import SchemaBridge.Schema.Issue
import SchemaBridge.Schema.SourceType
import SchemaBridge.Schema.TargetType

namespace SchemaBridge

/-! ## Expressions -/

/-- An expression of the source and what is known of it. -/
structure Expression where
  /-- Text as written in the source. -/
  source : String
  /-- Text in the target dialect, once verification has run. -/
  translated : Option String
  status : VerificationStatus
  /-- What the target said when it rejected the expression. -/
  rejection : Option String
  deriving DecidableEq, Repr, Inhabited

namespace Expression

/-- An expression nobody has looked at. -/
def fresh (source : String) : Expression := ⟨source, none, .unverified, none⟩

/-- Forget what verification found. -/
def reset (e : Expression) : Expression :=
  { e with translated := none, status := .unverified, rejection := none }

/-- Give an unverified expression a status. -/
def transition (e : Expression) (goal : VerificationStatus) : Outcome Expression :=
  if e.status = .unverified then .ok { e with status := goal }
  else .error (.invalidTransition e.status goal)

/-- The target accepts an expression as it was translated.  There must be no verdict yet. -/
def markVerified (e : Expression) (translated : String) : Outcome Expression := do
  let e ← e.transition .verified
  return { e with translated := some translated }

/-- The target rejects an expression as it was translated.  There must be no verdict yet. -/
def markRejected (e : Expression) (translated reason : String) : Outcome Expression := do
  let e ← e.transition .rejected
  return { e with translated := some translated, rejection := some reason }

/-- The text to emit: the text in the target dialect if there is one, else the source. -/
def text (e : Expression) : String := e.translated.getD e.source

/-- An expression keeps its source when its verdict is dropped. -/
@[simp] theorem reset_source (e : Expression) : e.reset.source = e.source := rfl

/-- A fresh expression has no verdict to drop. -/
@[simp] theorem reset_fresh (s : String) : (fresh s).reset = fresh s := rfl

/-- A verdict is dropped once. -/
theorem reset_reset (e : Expression) : e.reset.reset = e.reset := rfl

end Expression

/-! ## Tables -/

/-- One element of a key: a column and its direction. -/
structure KeyPart where
  column : ColumnId
  desc : Bool
  deriving DecidableEq, Repr, Inhabited

/-- A column with its types, its place in keys apart. -/
structure Column where
  id : ColumnId
  name : String
  sourceType : SourceType
  /-- Type in the target, once mapped. -/
  targetType : Option TargetType
  /-- Confidence of the mapping. -/
  confidence : Option Confidence
  nullable : Bool
  default : Option Expression
  /-- Expression of a computed column. -/
  generated : Option Expression
  /-- Whether the source numbers the rows by this column. -/
  identity : Bool
  /-- Whether the column was added as a primary key. -/
  synthetic : Bool
  deriving DecidableEq, Repr, Inhabited

/-- A nullable column with nothing but a name and a type. -/
def Column.plain (id : ColumnId) (name : String) (sourceType : SourceType) : Column :=
  { id, name, sourceType
    targetType := none
    confidence := none
    nullable := true
    default := none
    generated := none
    identity := false
    synthetic := false }

/-- An index with its key. -/
structure Index where
  id : IndexId
  name : String
  keys : List KeyPart
  unique : Bool
  deriving DecidableEq, Repr, Inhabited

/-- What happens to referencing rows. -/
inductive FkAction
  | noAction
  | restrict
  | cascade
  | setNull
  | setDefault
  deriving DecidableEq, Repr, Inhabited

namespace FkAction

/-- All actions. -/
def all : List FkAction := [noAction, restrict, cascade, setNull, setDefault]

/-- The clause as written in statements. -/
def sql : FkAction → String
  | noAction => "NO ACTION"
  | restrict => "RESTRICT"
  | cascade => "CASCADE"
  | setNull => "SET NULL"
  | setDefault => "SET DEFAULT"

/-- The action's name in sessions. -/
def name : FkAction → String
  | noAction => "no_action"
  | restrict => "restrict"
  | cascade => "cascade"
  | setNull => "set_null"
  | setDefault => "set_default"

/-- The action of a name. -/
def ofName? (s : String) : Option FkAction := all.find? (·.name == s)

/-- An action is found again by its name. -/
theorem ofName?_name (a : FkAction) : ofName? a.name = some a := by cases a <;> decide

/-- The action a clause stands for, ignoring case and the amount of white space. -/
def parse? (s : String) : Option FkAction :=
  let clause := Text.upperText (Text.flatten s)
  all.find? (·.sql == clause)

end FkAction

/-- The declared action and the one chosen for the target. -/
structure FkPolicy where
  source : FkAction
  target : Option FkAction
  deriving DecidableEq, Repr, Inhabited

namespace FkPolicy

/-- The policy of an action that is not mapped yet. -/
def declared (a : FkAction) : FkPolicy := ⟨a, none⟩

/-- The action to emit: the chosen one, or before mapping the declared one. -/
def effective (p : FkPolicy) : FkAction := p.target.getD p.source

end FkPolicy

/-- A foreign key: columns of its own table and of another one, and what is done when that one
changes. -/
structure ForeignKey where
  id : ForeignKeyId
  name : String
  columns : List ColumnId
  referencedTable : TableId
  /-- Referenced columns, in the order of `columns`. -/
  referencedColumns : List ColumnId
  onDelete : FkPolicy
  onUpdate : FkPolicy
  deriving DecidableEq, Repr, Inhabited

/-- A check with its name. -/
structure CheckConstraint where
  id : CheckId
  name : String
  expr : Expression
  deriving DecidableEq, Repr, Inhabited

/-- A table with all that belongs to it. -/
structure Table where
  id : TableId
  /-- Name in the one namespace of the target. -/
  name : String
  /-- Schema or database the table came from. -/
  nspace : Option String
  /-- Name as declared in the source. -/
  sourceName : String
  columns : List Column
  primaryKey : List KeyPart
  indexes : List Index
  foreignKeys : List ForeignKey
  checks : List CheckConstraint
  deriving DecidableEq, Repr, Inhabited

namespace Table

/-- A table without contents. -/
def empty (id : TableId) (name : String) : Table :=
  { id, name
    nspace := none
    sourceName := name
    columns := []
    primaryKey := []
    indexes := []
    foreignKeys := []
    checks := [] }

/-- The column under an identifier. -/
def column? (t : Table) (id : ColumnId) : Option Column := t.columns.find? (·.id = id)

/-- Whether a column is one of the table. -/
def hasColumn (t : Table) (id : ColumnId) : Bool := (t.column? id).isSome

/-- The first column of that name, ignoring the case of ASCII letters. -/
def columnByName? (t : Table) (name : String) : Option Column :=
  t.columns.find? fun c => Text.sameFolded c.name name

/-- Name of a column for display. -/
def columnName (t : Table) (id : ColumnId) : String := ((t.column? id).map (·.name)).getD "?"

/-- Change the first element that satisfies a test. -/
def modifyFirst {α : Type} (p : α → Bool) (f : α → α) : List α → List α
  | [] => []
  | a :: r => if p a then f a :: r else a :: modifyFirst p f r

/-- Change the first column with an identifier. -/
def modifyColumn (t : Table) (id : ColumnId) (f : Column → Column) : Table :=
  { t with columns := modifyFirst (·.id = id) f t.columns }

/-- Whether the table has a primary key. -/
def hasPrimaryKey (t : Table) : Bool := !t.primaryKey.isEmpty

/-- Whether a column is part of the primary key. -/
def inPrimaryKey (t : Table) (id : ColumnId) : Bool := t.primaryKey.any (·.column = id)

/-- The first synthetic column. -/
def syntheticKey? (t : Table) : Option Column := t.columns.find? (·.synthetic)

/-- Whether the parts of a key are as many as `wanted` and all among them. -/
def coversKey (wanted : List ColumnId) (keys : List KeyPart) : Bool :=
  keys.length == wanted.length && keys.all fun k => wanted.contains k.column

/-- Whether a list of columns is not empty, repeats none, and is the primary key or a unique
index. -/
def isUniqueKey (t : Table) (columns : List ColumnId) : Bool :=
  let wanted := columns.eraseDups
  !wanted.isEmpty && wanted.length == columns.length &&
    (coversKey wanted t.primaryKey || t.indexes.any fun i => i.unique && coversKey wanted i.keys)

/-- What a change keeps of every element it keeps of a list. -/
theorem modifyFirst_map {α β : Type} (p : α → Bool) (f : α → α) (g : α → β)
    (h : ∀ a, g (f a) = g a) (l : List α) : (modifyFirst p f l).map g = l.map g := by
  induction l with
  | nil => rfl
  | cons a r ih =>
    unfold modifyFirst
    split
    · simp [h]
    · simp [ih]

/-- The first element that was changed is found as before. -/
theorem find?_modifyFirst_self {α : Type} {p : α → Bool} {f : α → α} (h : ∀ a, p (f a) = p a)
    (l : List α) : (modifyFirst p f l).find? p = (l.find? p).map f := by
  induction l with
  | nil => rfl
  | cons a r ih =>
    unfold modifyFirst
    by_cases ha : p a = true
    · rw [if_pos ha, List.find?_cons_of_pos (by rw [h, ha]), List.find?_cons_of_pos ha]
      rfl
    · rw [if_neg ha, List.find?_cons_of_neg ha, List.find?_cons_of_neg ha, ih]

end Table

end SchemaBridge
