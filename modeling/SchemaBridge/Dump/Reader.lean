/-
# The dump reader

Reads the statements of a dump one by one into a builder.  A table that cannot be read ends the
reading; another statement that cannot be read, or that names a table nobody has made, becomes an
issue.  The reader remembers the labels of the types a dump makes, also from one text to the next.
How SQL is parsed is a parameter of a reader; one that is started has the grammar of this library.
-/
import SchemaBridge.Assembly.Builder
import SchemaBridge.Dump.IndexText
import SchemaBridge.Dump.Statement
import SchemaBridge.Dump.TableDrafting
import SchemaBridge.Sql.Defining

namespace SchemaBridge.Dump

open Sql (Definition Ident TableChange TableConstraint)

/-- A reader of dumps. -/
structure Reader where
  dialect : SourceDialect
  enums : EnumLabels
  /-- How the statements that define something are parsed. -/
  parse : Sql.StatementReader := Sql.readStatements
  deriving Inhabited

namespace Reader

/-- A reader for dumps of a dialect that has them. -/
def start (dialect : SourceDialect) : Outcome Reader :=
  if dialect = .dynamo then
    .error (.config "dump reader handles postgres and mysql; use the dynamodb reader")
  else .ok { dialect, enums := [] }

/-- What a text defines, or why it cannot be parsed. -/
def definitions (r : Reader) (text : String) : Except String (List Definition) :=
  r.parse (.ofSource r.dialect) text

/-- Record that a statement names a table nobody has made. -/
def missingTable (b : Builder) (s : Statement) (table : String) : Builder :=
  b.issue .missingReference .schema
    ("Statement at line " ++ Text.decimal s.line ++ " refers to unknown table '" ++ table ++ "': "
      ++ summary s.text)

/-! ## Tables -/

/-- The definitions of a statement that makes a table, and a note for each detail of an index that
was lost in reading it. -/
def tableDefinitions (r : Reader) (s : Statement) : Outcome (List Definition × List String) :=
  let (text, shortened) :=
    if r.dialect = .mysql then dropLengths s.text else (s.text, [])
  let notes := shortened.map fun c =>
    "Index prefix length on column '" ++ c ++ "' dropped; the whole column is indexed"
  match r.definitions text with
  | .ok ds => .ok (ds, notes)
  | .error e =>
    let failed : Outcome (List Definition × List String) :=
      .error (.sourceParse
        ("statement at line " ++ Text.decimal s.line ++ " (" ++ summary s.text ++ ")")
        e)
    let (reduced, dropped) := dropIndexLines text
    if dropped.isEmpty then failed
    else
      match r.definitions reduced with
      | .ok ds =>
        .ok (ds, notes ++ dropped.map fun l => "Index definition '" ++ l ++ "' could not be read")
      | .error _ => failed

/-- Add the tables that a list of definitions makes. -/
def addTables (enums : EnumLabels) (notes : List String) (b : Builder) :
    List Definition → Outcome Builder
  | [] => .ok b
  | .createTable name columns constraints :: rest =>
    let (draft, unsupported) := tableDraft enums name columns constraints
    match b.addTable draft with
    | (.error e, _) => .error e
    | (.ok none, b) => addTables enums notes b rest
    | (.ok (some id), b) =>
      let lost := unsupported.map (fun what => what ++ " on " ++ draft.name ++ " not converted.")
        ++ notes.map fun note => note ++ " on " ++ draft.name ++ "."
      addTables enums notes
        (lost.foldl (fun b t => b.issue .unsupportedConstraint (.table id) t) b) rest
  | _ :: rest => addTables enums notes b rest

/-- Read a statement that makes a table. -/
def createTable (r : Reader) (b : Builder) (s : Statement) : Outcome Builder := do
  let (definitions, notes) ← r.tableDefinitions s
  addTables r.enums notes b definitions

/-! ## Changes of tables -/

/-- What a change has to contain to concern the schema, in upper case. -/
def relevantPhrases : List String :=
  ["ADD CONSTRAINT", "ADD PRIMARY KEY", "ADD FOREIGN KEY", "ADD UNIQUE", "ADD CHECK", "ADD INDEX",
    "ADD KEY", "SET DEFAULT"]

/-- Add a constraint to a table that is there. -/
def addConstraint (b : Builder) (id : TableId) (table : String) (c : TableConstraint) :
    Outcome Builder :=
  match applyConstraint (.empty none table) c with
  | .error what =>
    .ok (b.issue .unsupportedConstraint (.table id) (what ++ " on " ++ table ++ " not converted."))
  | .ok draft => (b.addConstraints id draft).1.map fun _ => (b.addConstraints id draft).2

/-- Make one change of a table.  New columns and identity columns are not made here. -/
def applyChange (id : TableId) (table : String) (b : Builder) : TableChange → Outcome Builder
  | .addConstraint c => addConstraint b id table c
  | .setDefault column text => .ok (b.setColumnDefault id column.value text)
  | .addColumn _ | .addIdentity _ | .other => .ok b

/-- Make the changes that a list of definitions asks for. -/
def applyChanges (s : Statement) (b : Builder) : List Definition → Outcome Builder
  | [] => .ok b
  | .alterTable name changes :: rest => do
    let (nspace, table) := splitName name
    match b.lookup nspace table with
    | none => applyChanges s (missingTable b s table) rest
    | some id => applyChanges s (← changes.foldlM (applyChange id table) b) rest
  | _ :: rest => applyChanges s b rest

/-- Make a column an identity column, as its words say. -/
def addIdentity (b : Builder) (s : Statement) : Builder :=
  let ws := Text.words s.text.toList
  match wordAfter? ["TABLE", "ONLY"] ws, wordAfter? ["COLUMN"] ws with
  | some table, some column =>
    let (nspace, name) := splitDotted table
    match b.lookup (nspace.map String.ofList) (String.ofList name) with
    | some id => b.setIdentity id (String.ofList column)
    | none => missingTable b s (String.ofList name)
  | _, _ => b

/-- Read a statement that changes a table. -/
def alterTable (r : Reader) (b : Builder) (s : Statement) : Outcome Builder :=
  let upper := Text.upper s.text.toList
  if Text.occurs " ADD GENERATED ".toList upper then .ok (addIdentity b s)
  else if relevantPhrases.any fun p => Text.occurs p.toList upper then
    match r.definitions s.text with
    | .ok ds => applyChanges s b ds
    | .error e =>
      .ok (b.issue .unsupportedConstruct .schema
        ("Could not parse ALTER TABLE at line " ++ Text.decimal s.line ++ ": " ++ e))
  else .ok b

/-! ## Indexes and types -/

/-- A part of an index; one that is no plain column goes by its text. -/
def keyDraft (p : Sql.IndexPart) : KeyDraft :=
  match p.key with
  | .column i => (i.value, p.desc)
  | .other text => (text, p.desc)

/-- Add the index of a definition, whatever rows it covers. -/
def addIndex (s : Statement) (b : Builder) : Definition → Builder
  | .createIndex name table unique parts _ =>
    let (nspace, tableName) := splitName table
    match b.lookup nspace tableName with
    | none => missingTable b s tableName
    | some id =>
      b.addIndex id
        { name := name.map fun n => (splitName n).2, columns := parts.map keyDraft, unique }
  | _ => b

/-- Read a statement that makes an index. -/
def createIndex (r : Reader) (b : Builder) (s : Statement) : Builder :=
  match r.definitions s.text with
  | .ok ds => ds.foldl (addIndex s) b
  | .error e =>
    b.issue .unsupportedConstruct .schema
      ("Could not parse CREATE INDEX at line " ++ Text.decimal s.line ++ ": " ++ e)

/-- The labels in a statement that makes a type, if it has parentheses.  They reach from the first
opening parenthesis to the last closing one, which must not stand before it, unless it is the
character just before it. -/
def enumValues? (text : List Char) : Outcome (Option (List String)) :=
  match SourceType.parameterSpan? text, Text.breakOn? ['('] text with
  | some (_, labels, _), _ =>
    .ok (some (SourceType.parse (String.ofList ("enum(".toList ++ labels ++ [')']))).values)
  | none, some (before, _) =>
    if before.getLast? = some ')' then .ok (some [])
    else if ')' ∈ before then .error .crash
    else .ok none
  | none, none => .ok none

/-- Remember the labels of a type. -/
def createEnum (r : Reader) (s : Statement) : Outcome Reader :=
  match wordAfter? ["TYPE"] (Text.words s.text.toList) with
  | some name => do
    match ← enumValues? s.text.toList with
    | some values => return { r with enums := (typeKey name, values) :: r.enums }
    | none => return r
  | none => .ok r

/-! ## Reading -/

/-- Read one statement. -/
def readStatement (r : Reader) (b : Builder) (s : Statement) : Outcome (Reader × Builder) :=
  match Kind.ofText s.text.toList with
  | .createTable => (r.createTable b s).map fun b => (r, b)
  | .alterTable => (r.alterTable b s).map fun b => (r, b)
  | .createIndex => .ok (r, r.createIndex b s)
  | .createEnum => (r.createEnum s).map fun r => (r, b)
  | .unsupported what =>
    .ok (r, b.issue .unsupportedConstruct .schema
      ("Skipped " ++ what ++ " at line " ++ Text.decimal s.line ++ ": " ++ summary s.text))
  | .ignored => .ok (r, b)

/-- Read statements until there are no more or the run is cancelled. -/
def readStatements (r : Reader) (b : Builder) : List Statement → Outcome (Reader × Builder)
  | [] => .ok (r, b)
  | s :: rest =>
    match b.shouldStop with
    | (true, b) => .ok (r, b)
    | (false, b) => do
      let (r, b) ← r.readStatement b s
      r.readStatements b rest

/-- Read the text of a dump. -/
def read (r : Reader) (b : Builder) (dump : String) : Outcome (Reader × Builder) :=
  r.readStatements b (statements r.dialect dump)

end Reader

end SchemaBridge.Dump
