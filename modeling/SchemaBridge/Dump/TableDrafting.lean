/-
# Drafts from definitions

A table as a statement defines it becomes a draft for the builder: columns with what their options
say, and the constraints of columns and table together.  A few things are read from the words of a
statement as they stand: the name after a keyword, a name with the schema before it, and a summary
for messages.
-/
import SchemaBridge.Assembly.Draft
import SchemaBridge.Sql.Definition
import SchemaBridge.Text.Casing
import SchemaBridge.Text.Pattern

namespace SchemaBridge.Dump

/-! ## Words and names -/

/-- Largest number of characters in a summary. -/
def summaryLength : Nat := 80

/-- A text on one line, cut when it is too long. -/
def summary (text : String) : String :=
  let flat := (Text.flatten text).toList
  if flat.length > summaryLength then
    String.ofList (flat.take (summaryLength - 3) ++ ['.', '.', '.'])
  else String.ofList flat

/-- Whether a character quotes names, in one dialect or another. -/
def isNameQuote (c : Char) : Bool := c == '"' || c == '\x60'

/-- A name without the quotes around it. -/
def unquoted (name : List Char) : List Char := Text.strip isNameQuote name

/-- The schema, if any, and the name in a text such as `sales.orders`. -/
def splitDotted (text : List Char) : Option (List Char) × List Char :=
  match Text.breakAtLast? '.' text with
  | some (nspace, name) => (some (unquoted nspace), unquoted name)
  | none => (none, unquoted text)

/-- The key under which a type is known: its name without schema and quotes, in lower case. -/
def typeKey (name : List Char) : String := String.ofList (Text.lower (splitDotted name).2)

/-- Whether a word is one of some keywords, in whatever case. -/
def isKeyword (ks : List String) (w : List Char) : Bool :=
  ks.any fun k => Text.asciiFold k.toList == Text.asciiFold w

/-- The word after the first run of keywords, without an opening parenthesis or a comma at its
end. -/
def wordAfter? (ks : List String) : List (List Char) → Option (List Char)
  | [] => none
  | [_] => none
  | w :: n :: r =>
    if isKeyword ks w && !isKeyword ks n then
      some (Text.dropEndWhile (fun c => c == '(' || c == ',') n)
    else wordAfter? ks (n :: r)

/-! ## Drafts -/

open Sql (Ident ColumnDefinition ColumnOption TableConstraint Reference)

/-- Labels of the types a dump has made, by the key of the type; the last type of a key counts. -/
abbrev EnumLabels := List (String × List String)

/-- The schema, if any, and the name of a qualified name. -/
def splitName (name : List Ident) : Option String × String :=
  match name.reverse with
  | [] => (none, "")
  | [only] => (none, only.value)
  | table :: nspace :: _ => (some nspace.value, table.value)

/-- The declared type of a column; a type the dump has made stands for its labels. -/
def columnType (enums : EnumLabels) (type : String) : SourceType :=
  let t := SourceType.parse type
  match enums.lookup (typeKey t.name.toList) with
  | some labels => { t with name := "enum", values := labels }
  | none => t

/-- Types that number the rows. -/
def serialTypes : List String :=
  ["serial", "serial2", "serial4", "serial8", "smallserial", "bigserial"]

/-- What an option says of its column. -/
def applyOption (c : ColumnDraft) : ColumnOption → ColumnDraft
  | .null => { c with nullable := true }
  | .notNull => { c with nullable := false }
  | .default text =>
    if isSequenceDefault text then { c with identity := true } else { c with default := some text }
  | .primaryKey => { c with nullable := false }
  | .generated text => { c with generated := some text }
  | .identity => { c with identity := true }
  | .other text =>
    if Text.contains (Text.upperText text) "AUTO_INCREMENT" then { c with identity := true } else c
  | .unique | .references _ | .check _ => c

/-- The draft of a column.  Each option does to it what it says, in order. -/
def columnDraft (enums : EnumLabels) (c : ColumnDefinition) : ColumnDraft :=
  let t := columnType enums c.type
  let serial := serialTypes.contains t.name
  let base := { ColumnDraft.plain c.name.value t with identity := serial, nullable := !serial }
  c.options.foldl applyOption base

/-- Names without their quotes. -/
def values (is : List Ident) : List String := is.map (·.value)

/-- Columns of a key, all in ascending order. -/
def ascending (is : List Ident) : List KeyDraft := is.map fun i => (i.value, false)

/-- The draft of a foreign key with these columns. -/
def foreignKeyDraft (name : Option Ident) (columns : List String) (r : Reference) :
    ForeignKeyDraft :=
  let (nspace, table) := splitName r.table
  { name := name.map (·.value)
    columns
    referencedNamespace := nspace
    referencedTable := table
    referencedColumns := values r.columns
    onDelete := r.onDelete.getD .noAction
    onUpdate := r.onUpdate.getD .noAction }

/-- What an option of a column says of its table. -/
def applyInline (column : String) (t : TableDraft) : ColumnOption → TableDraft
  | .primaryKey => { t with primaryKey := t.primaryKey ++ [(column, false)] }
  | .unique =>
    { t with
      indexes := t.indexes ++ [{ name := none, columns := [(column, false)], unique := true }] }
  | .check text => { t with checks := t.checks ++ [{ name := none, expr := text }] }
  | .references r =>
    { t with foreignKeys := t.foreignKeys ++ [foreignKeyDraft none [column] r] }
  | _ => t

/-- Add a column and the constraints that stand with it. -/
def addColumn (enums : EnumLabels) (t : TableDraft) (c : ColumnDefinition) : TableDraft :=
  let t := c.options.foldl (applyInline c.name.value) t
  { t with columns := t.columns ++ [columnDraft enums c] }

/-- Add a constraint of the table, or say what it is that cannot be converted. -/
def applyConstraint (t : TableDraft) : TableConstraint → Except String TableDraft
  | .primaryKey columns => .ok { t with primaryKey := ascending columns }
  | .unique name columns =>
    .ok { t with
      indexes := t.indexes ++
        [{ name := name.map (·.value), columns := ascending columns, unique := true }] }
  | .index name columns =>
    .ok { t with
      indexes := t.indexes ++
        [{ name := name.map (·.value), columns := ascending columns, unique := false }] }
  | .foreignKey name columns r =>
    .ok { t with foreignKeys := t.foreignKeys ++ [foreignKeyDraft name (values columns) r] }
  | .check name text =>
    .ok { t with checks := t.checks ++ [{ name := name.map (·.value), expr := text }] }
  | .other text => .error ("Constraint '" ++ text ++ "'")

/-- Add constraints of the table; those that cannot be converted are listed. -/
def applyConstraints (t : TableDraft) : List TableConstraint → TableDraft × List String
  | [] => (t, [])
  | c :: r =>
    match applyConstraint t c with
    | .ok t => applyConstraints t r
    | .error what =>
      let (t, whats) := applyConstraints t r
      (t, what :: whats)

/-- The draft of a table and the constraints that cannot be converted. -/
def tableDraft (enums : EnumLabels) (name : List Ident) (columns : List ColumnDefinition)
    (constraints : List TableConstraint) : TableDraft × List String :=
  let (nspace, table) := splitName name
  applyConstraints (columns.foldl (addColumn enums) (.empty nspace table)) constraints

end SchemaBridge.Dump
