/-
# Statements that define a schema

The grammar of `CREATE TABLE`, `CREATE INDEX` and `ALTER TABLE`, and of a text with several such
statements between semicolons; a table may be dropped between them.
-/
import SchemaBridge.Sql.ColumnClause

namespace SchemaBridge.Sql

open Sql.Parser

/-! ## Tables -/

/-- An option and its value. -/
def storageOption (r : Rules) : Parser Unit := do
  let _ ← ident
  expect "="
  let _ ← r.expr

/-- A word after an equals sign. -/
def wordAfterEquals : Parser Unit := do
  expect "="
  match ← next with
  | .word _ _ => return ()
  | _ => fail

/-- The storage engine of a table, perhaps with parameters. -/
def engine : Parser Unit := do
  wordAfterEquals
  if ← peekSymbol "(" then
    expect "("
    let _ ← if ← peekSymbol ")" then pure [] else commaSeparated ident
    expect ")"

/-- The number rows start from. -/
def firstNumber : Parser Unit := do
  let _ ← symbol "="
  match ← next with
  | .number t _ =>
    match Text.readNat? t.toList with
    | some n => if n ≤ 4294967295 then return () else fail
    | none => fail
  | _ => fail

/-- The order rows are kept in. -/
def rowOrder (r : Rules) : Parser Unit := do
  if ← symbol "(" then
    let _ ← if ← peekSymbol ")" then pure [] else r.exprs
    expect ")"
  else
    let _ ← r.expr

/-- What happens to a temporary table at the end of a transaction. -/
def commitAction : Parser Unit := do
  if !(← keywords ["DELETE", "ROWS"]) then
    if !(← keywords ["PRESERVE", "ROWS"]) then expectKeyword "DROP"

/-- The comment of a table. -/
def tableComment : Parser Unit := do
  let _ ← symbol "="
  match ← next with
  | .literal .single _ => return ()
  | _ => fail

/-- What follows the columns of a table, in its fixed order. -/
def tableOptions (r : Rules) : Parser Unit := do
  let _ ← keywords ["WITHOUT", "ROWID"]
  if ← keywords ["PARTITIONED", "BY"] then
    let _ ← parenthesized (commaSeparated (columnDefinition r))
  if ← keyword "WITH" then
    let _ ← parenthesized (commaSeparated (storageOption r))
  if ← keyword "ENGINE" then engine
  if ← keyword "AUTO_INCREMENT" then firstNumber
  if ← keywords ["ORDER", "BY"] then rowOrder r
  if ← (if r.isPostgres then keywords ["PARTITION", "BY"] else pure false) then
    let _ ← r.expr
  if ← keywords ["DEFAULT", "CHARSET"] then wordAfterEquals
  if ← keyword "COLLATE" then wordAfterEquals
  if ← keywords ["ON", "COMMIT"] then commitAction
  let _ ← keyword "STRICT"
  if ← keyword "COMMENT" then tableComment
  if ← keyword "AS" then
    let _ ← r.query

/-- A cluster to run on, if one is given. -/
def cluster : Parser Unit := do
  if ← keywords ["ON", "CLUSTER"] then
    let _ ← ident

/-- A table after `CREATE TABLE`. -/
def createTable (r : Rules) : Parser Definition := do
  let _ ← keywords ["IF", "NOT", "EXISTS"]
  let name ← objectName
  cluster
  if (← oneOf ["LIKE", "ILIKE"]).isSome then
    let _ ← attempt objectName
  if ← keyword "CLONE" then
    let _ ← attempt objectName
  let es ← tableElements r
  tableOptions r
  return .createTable name (es.filterMap (·.getLeft?)) (es.filterMap (·.getRight?))

/-! ## Indexes -/

/-- One part of an index with its direction. -/
def indexPart (r : Rules) : Parser IndexPart := do
  let key := match ← r.expr with
    | .name [i] => .column i
    | e => .other e.print
  let direction ← oneOf ["ASC", "DESC"]
  if !(← keywords ["NULLS", "FIRST"]) then
    let _ ← keywords ["NULLS", "LAST"]
  return { key, desc := direction = some "DESC" }

/-- An index after `CREATE INDEX`. -/
def createIndex (r : Rules) (unique : Bool) : Parser Definition := do
  let _ ← keyword "CONCURRENTLY"
  let named ← keywords ["IF", "NOT", "EXISTS"]
  let anonymous ← if named then pure false else keyword "ON"
  let name ← if anonymous then pure none else do
    let n ← objectName
    expectKeyword "ON"
    pure (some n)
  let table ← objectName
  if ← keyword "USING" then
    let _ ← ident
  let parts ← parenthesized (commaSeparated (indexPart r))
  if ← keyword "INCLUDE" then
    let _ ← columnNames
  if ← keyword "NULLS" then
    let _ ← keyword "NOT"
    expectKeyword "DISTINCT"
  if ← (if r.isPostgres then keyword "WITH" else pure false) then
    let _ ← parenthesized r.exprs
  let predicate ← if ← keyword "WHERE" then pure (some (← r.expr).print) else pure none
  return .createIndex name table unique parts predicate

/-! ## Changes of a table -/

/-- The place of a new column. -/
def columnPosition (r : Rules) : Parser Unit := do
  if r.isMysql then
    if !(← keyword "FIRST") then
      if ← keyword "AFTER" then
        let _ ← ident

/-- Partitions after their keyword. -/
def partition (r : Rules) : Parser Unit := do
  let _ ← parenthesized r.exprs

/-- A change after `ADD`. -/
def addition (r : Rules) : Parser TableChange := do
  match ← tableConstraint? r with
  | some c => return .addConstraint c
  | none =>
    let _ ← keywords ["IF", "NOT", "EXISTS"]
    if (← peekKey) == "PARTITION" then
      let _ ← many (do
        if ← keyword "PARTITION" then
          partition r
          return some ()
        else return none)
      return .other
    else
      let _ ← keyword "COLUMN"
      if r.isPostgres then
        let _ ← keywords ["IF", "NOT", "EXISTS"]
      let column ← columnDefinition r
      columnPosition r
      return .addColumn column

/-- A change after `RENAME`. -/
def renameChange (r : Rules) : Parser TableChange := do
  let pair : Parser Unit := do
    let _ ← ident
    expectKeyword "TO"
    let _ ← ident
  if ← (if r.isPostgres then keyword "CONSTRAINT" else pure false) then pair
  else if ← keyword "TO" then
    let _ ← objectName
  else
    let _ ← keyword "COLUMN"
    pair
  return .other

/-- A change after `DISABLE` or `ENABLE`: rules, triggers or the security of rows. -/
def switching (modes : List String) : Parser TableChange := do
  if ← keywords ["ROW", "LEVEL", "SECURITY"] then return .other
  else
    let second ← peekNth 1
    let moded := ["RULE", "TRIGGER"].contains (keyOf second)
    if moded then
      let _ ← oneOf modes
    match ← oneOf ["RULE", "TRIGGER"] with
    | some _ =>
      let _ ← ident
      return .other
    | none => fail

/-- A change after `DROP`. -/
def removal (r : Rules) : Parser TableChange := do
  if ← keywords ["IF", "EXISTS", "PARTITION"] then partition r
  else if ← keyword "PARTITION" then partition r
  else if ← keyword "CONSTRAINT" then
    let _ ← keywords ["IF", "EXISTS"]
    let _ ← ident
    let _ ← keyword "CASCADE"
  else
    let primary ← keywords ["PRIMARY", "KEY"]
    if !(primary && r.isMysql) then
      let _ ← keyword "COLUMN"
      let _ ← keywords ["IF", "EXISTS"]
      let _ ← ident
      let _ ← keyword "CASCADE"
  return .other

/-- The new form of a column in a change: its type, its options and its place. -/
def columnForm (r : Rules) : Parser TableChange := do
  let _ ← TypeName.read r.dialect
  let _ ← many (columnOption? r)
  columnPosition r
  return .other

/-- A change of one column after `ALTER`. -/
def columnChange (r : Rules) : Parser TableChange := do
  let _ ← keyword "COLUMN"
  let column ← ident
  if ← keywords ["SET", "NOT", "NULL"] then return .other
  else if ← keywords ["DROP", "NOT", "NULL"] then return .other
  else if ← keywords ["SET", "DEFAULT"] then return .setDefault column (← r.expr).print
  else if ← keywords ["DROP", "DEFAULT"] then return .other
  else
    let retyped ← do
      if ← keywords ["SET", "DATA", "TYPE"] then pure true
      else if r.isPostgres then keyword "TYPE"
      else pure false
    if retyped then
      let _ ← TypeName.read r.dialect
      if ← (if r.isPostgres then keyword "USING" else pure false) then
        let _ ← r.expr
      return .other
    else if ← keywords ["ADD", "GENERATED"] then
      if !(← keyword "ALWAYS") then
        let _ ← keywords ["BY", "DEFAULT"]
      expectKeywords ["AS", "IDENTITY"]
      let _ ← identityOptions
      return .addIdentity column
    else fail

/-- One change of a table. -/
def tableChange (r : Rules) : Parser TableChange := do
  if ← keyword "ADD" then addition r
  else if ← keyword "RENAME" then renameChange r
  else if ← keyword "DISABLE" then switching []
  else if ← keyword "ENABLE" then switching ["ALWAYS", "REPLICA"]
  else if ← keyword "DROP" then removal r
  else if ← keyword "PARTITION" then
    partition r
    expectKeywords ["RENAME", "TO", "PARTITION"]
    partition r
    return .other
  else if ← keyword "CHANGE" then
    let _ ← keyword "COLUMN"
    let _ ← ident
    let _ ← ident
    columnForm r
  else if ← keyword "MODIFY" then
    let _ ← keyword "COLUMN"
    let _ ← ident
    columnForm r
  else if ← keyword "ALTER" then columnChange r
  else if ← keywords ["SWAP", "WITH"] then
    let _ ← objectName
    return .other
  else if ← (if r.isPostgres then keywords ["OWNER", "TO"] else pure false) then
    let _ ← ident
    return .other
  else if ← keywords ["SET", "TBLPROPERTIES"] then
    let _ ← parenthesized (commaSeparated (storageOption r))
    return .other
  else fail

/-- A change of a table after `ALTER TABLE`. -/
def alterTable (r : Rules) : Parser Definition := do
  let _ ← keywords ["IF", "EXISTS"]
  let _ ← keyword "ONLY"
  let name ← objectName
  cluster
  return .alterTable name (← commaSeparated (tableChange r))

/-! ## Statements -/

/-- The rest of a statement that drops tables, after `DROP`. -/
def tableRemoval (r : Rules) : Parser Definition := do
  if r.isMysql then
    let _ ← keyword "TEMPORARY"
  expectKeyword "TABLE"
  let _ ← keywords ["IF", "EXISTS"]
  let _ ← commaSeparated objectName
  let cascades ← keyword "CASCADE"
  if (← keyword "RESTRICT") && cascades then fail
  let _ ← keyword "PURGE"
  return .other

/-- One statement. -/
def definition (r : Rules) : Parser Definition := do
  if ← keywords ["ALTER", "TABLE"] then alterTable r
  else if ← keyword "DROP" then tableRemoval r
  else
    expectKeyword "CREATE"
    let _ ← keywords ["OR", "REPLACE"]
    let _ ← keyword "LOCAL"
    let _ ← keyword "GLOBAL"
    let _ ← keyword "TRANSIENT"
    let _ ← oneOf ["TEMP", "TEMPORARY"]
    if ← keyword "TABLE" then createTable r
    else if ← keyword "INDEX" then createIndex r false
    else if ← keywords ["UNIQUE", "INDEX"] then createIndex r true
    else fail

/-- Statements up to the end of the text, with semicolons between them; `fuel` bounds their number.
The word `END` after a statement ends the text, too. -/
def definitionList (r : Rules) : Nat → Parser (List Definition)
  | 0 => fail
  | fuel + 1 => do
    if ← symbol ";" then definitionList r fuel
    else if (← peek).isNone then return []
    else
      let d ← definition r
      if (← peek).isNone || (← peekKey) == "END" then return [d]
      else if ← symbol ";" then return d :: (← definitionList r fuel)
      else fail

/-- The statements of a text.  A statement counts as one level of nesting. -/
def parseDefinitions (d : Dialect) (text : String) : Except Failure (List Definition) :=
  match tokens? d text with
  | none => .error .unexpected
  | some ts =>
    match definitionList (rulesAt d (maxDepth - 1)) (ts.length + 1) ts with
    | .ok (ds, _) => .ok ds
    | .error e => .error e

/-- Why a text was not read, as messages say it. -/
def Failure.message : Failure → String
  | .unexpected => "sql parser error: unexpected token"
  | .tooDeep => "sql parser error: recursion limit exceeded"

/-- The reader of statements that this grammar makes. -/
def readStatements : StatementReader := fun d text =>
  match parseDefinitions d text with
  | .ok ds => .ok ds
  | .error e => .error e.message

end SchemaBridge.Sql
