/-
# Structural validity

`Model.validate` walks through a model once and names the first thing that is wrong: an identifier
out of range or used twice, a name used twice, or a reference that leads nowhere.  The walk carries
the identifiers it has met.
-/
import SchemaBridge.Schema.Model

namespace SchemaBridge.Model

/-- Fail with a reason why the model is corrupt. -/
def corrupt {α : Type} (text : String) : Outcome α := .error (.corruptSession text)

/-- Meet an identifier: it must be in range and new. -/
def reserve (nextId : Nat) (seen : List Nat) (raw : Nat) (what : String) : Outcome (List Nat) :=
  if raw = 0 ∨ raw ≥ nextId then
    corrupt (what ++ " id " ++ Text.decimal raw ++ " outside allocated range")
  else if raw ∈ seen then
    corrupt ("duplicate identifier " ++ Text.decimal raw ++ " (" ++ what ++ ")")
  else .ok (raw :: seen)

/-- Columns of a table: identifiers, and names that differ after lower-casing. -/
def validateColumns (nextId : Nat) (table : String) :
    List Nat → List String → List Column → Outcome (List Nat)
  | seen, _, [] => .ok seen
  | seen, names, c :: r => do
    let seen ← reserve nextId seen c.id.val "column"
    let folded := Text.lowerText c.name
    if folded ∈ names then
      corrupt ("table '" ++ table ++ "': duplicate column name '" ++ c.name ++ "'")
    else validateColumns nextId table seen (folded :: names) r

/-- Indexes of a table: identifiers, and key columns that exist. -/
def validateIndexes (nextId : Nat) (t : Table) : List Nat → List Index → Outcome (List Nat)
  | seen, [] => .ok seen
  | seen, i :: r => do
    let seen ← reserve nextId seen i.id.val "index"
    if i.keys.isEmpty then corrupt ("index '" ++ i.name ++ "' has no key columns")
    else match i.keys.find? fun k => !t.hasColumn k.column with
      | some k =>
        corrupt ("index '" ++ i.name ++ "' references unknown column " ++ k.column.text)
      | none => validateIndexes nextId t seen r

/-- Checks of a table: identifiers. -/
def validateChecks (nextId : Nat) : List Nat → List CheckConstraint → Outcome (List Nat)
  | seen, [] => .ok seen
  | seen, c :: r => do
    let seen ← reserve nextId seen c.id.val "check"
    validateChecks nextId seen r

/-- What one foreign key refers to must exist. -/
def validateReference (m : Model) (t : Table) (f : ForeignKey) : Outcome Unit :=
  if f.columns.isEmpty ∨ f.columns.length ≠ f.referencedColumns.length then
    corrupt ("foreign key '" ++ f.name ++ "': column lists are empty or differ in length")
  else match f.columns.find? fun c => !t.hasColumn c with
    | some c => corrupt ("foreign key '" ++ f.name ++ "' references unknown column " ++ c.text)
    | none => match m.table? f.referencedTable with
      | none =>
        corrupt ("foreign key '" ++ f.name ++ "' references unknown table "
          ++ f.referencedTable.text)
      | some parent => match f.referencedColumns.find? fun c => !parent.hasColumn c with
        | some c =>
          corrupt ("foreign key '" ++ f.name ++ "' references unknown column " ++ c.text
            ++ " of '" ++ parent.name ++ "'")
        | none => .ok ()

/-- Foreign keys of a table: identifiers and references. -/
def validateForeignKeys (m : Model) (t : Table) : List Nat → List ForeignKey → Outcome (List Nat)
  | seen, [] => .ok seen
  | seen, f :: r => do
    let seen ← reserve m.nextId seen f.id.val "foreign key"
    validateReference m t f
    validateForeignKeys m t seen r

/-- One table under its key, given the identifiers and the table names met before. -/
def validateTable (m : Model) (seen : List Nat) (names : List String) (key : TableId) (t : Table) :
    Outcome (List Nat × List String) := do
  if key ≠ t.id then corrupt ("table " ++ t.id.text ++ " stored under key " ++ key.text)
  let seen ← reserve m.nextId seen t.id.val "table"
  let folded := Text.lowerText t.name
  if folded ∈ names then corrupt ("duplicate table name '" ++ t.name ++ "'")
  let seen ← validateColumns m.nextId t.name seen [] t.columns
  match t.primaryKey.find? fun k => !t.hasColumn k.column with
  | some k =>
    corrupt ("table '" ++ t.name ++ "': primary key references unknown column " ++ k.column.text)
  | none =>
    let seen ← validateIndexes m.nextId t seen t.indexes
    let seen ← validateChecks m.nextId seen t.checks
    let seen ← validateForeignKeys m t seen t.foreignKeys
    return (seen, folded :: names)

/-- Check one table after another; identifiers and names that have been seen must not come again. -/
def validateTables (m : Model) :
    List Nat → List String → List (TableId × Table) → Outcome Unit
  | _, _, [] => .ok ()
  | seen, names, (key, t) :: r => do
    let (seen, names) ← validateTable m seen names key t
    validateTables m seen names r

/-- Issues must belong to tables of the model. -/
def validateIssues (m : Model) : List Issue → Outcome Unit
  | [] => .ok ()
  | i :: r =>
    match i.target.table? with
    | none => validateIssues m r
    | some id =>
      if (m.table? id).isSome then validateIssues m r
      else corrupt ("issue '" ++ i.category.name ++ "' attached to unknown table " ++ id.text)

/-- Check the structure of a model. -/
def validate (m : Model) : Outcome Unit := do
  validateTables m [] [] m.tables
  validateIssues m m.issues

end SchemaBridge.Model
