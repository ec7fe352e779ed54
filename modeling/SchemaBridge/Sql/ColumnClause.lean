/-
# Columns and constraints

The grammar of what stands between the parentheses of a table: columns with their types and options,
and constraints of the whole table.
-/
import SchemaBridge.Sql.Definition
import SchemaBridge.Sql.Grammar

namespace SchemaBridge.Sql

open Sql.Parser

/-! ## References and their clauses -/

/-- What happens to referencing rows. -/
def referentialAction : Parser FkAction := do
  if ← keyword "RESTRICT" then return .restrict
  else if ← keyword "CASCADE" then return .cascade
  else if ← keywords ["SET", "NULL"] then return .setNull
  else if ← keywords ["NO", "ACTION"] then return .noAction
  else if ← keywords ["SET", "DEFAULT"] then return .setDefault
  else fail

/-- The actions on delete and on update, in either order, each at most once. -/
def referentialActions : Nat → Option FkAction → Option FkAction →
    Parser (Option FkAction × Option FkAction)
  | 0, del, upd => return (del, upd)
  | fuel + 1, del, upd => do
    if ← (if del.isNone then keywords ["ON", "DELETE"] else pure false) then
      referentialActions fuel (some (← referentialAction)) upd
    else if ← (if upd.isNone then keywords ["ON", "UPDATE"] else pure false) then
      referentialActions fuel del (some (← referentialAction))
    else return (del, upd)

/-- One clause about when and whether a constraint is checked; it is said which. -/
def constraintTiming? (seen : List String) : Parser (Option String) := do
  let fresh := fun k => !seen.contains k
  if ← (if fresh "deferrable" then keywords ["NOT", "DEFERRABLE"] else pure false) then
    return some "deferrable"
  else if ← (if fresh "deferrable" then keyword "DEFERRABLE" else pure false) then
    return some "deferrable"
  else if ← (if fresh "initially" then keyword "INITIALLY" else pure false) then
    match ← oneOf ["DEFERRED", "IMMEDIATE"] with
    | some _ => return some "initially"
    | none => fail
  else if ← (if fresh "enforced" then keyword "ENFORCED" else pure false) then
    return some "enforced"
  else if ← (if fresh "enforced" then keywords ["NOT", "ENFORCED"] else pure false) then
    return some "enforced"
  else return none

/-- Clauses about when and whether a constraint is checked, each at most once. -/
def constraintTimings : Nat → List String → Parser Unit
  | 0, _ => return ()
  | fuel + 1, seen => do
    match ← constraintTiming? seen with
    | some k => constraintTimings fuel (k :: seen)
    | none => return ()

/-- When and whether a constraint is checked. -/
def constraintTiming : Parser Unit := constraintTimings 3 []

/-- The actions of a reference and when it is checked. -/
def referenceTail (table columns : List Ident) : Parser Reference := do
  let (onDelete, onUpdate) ← referentialActions 3 none none
  constraintTiming
  return { table, columns, onDelete, onUpdate }

/-! ## Options of a column -/

/-- A number with an optional sign. -/
def signedNumber : Parser Unit := do
  if !(← symbol "+") then
    let _ ← symbol "-"
  match ← next with
  | .number _ _ | .placeholder _ => return ()
  | .symbol ":" | .symbol "@" =>
    let _ ← parameterName
  | _ => fail

/-- One option of a sequence that takes a number: its keyword, an optional word after that and,
where `none` is a choice, the keyword after `NO`. -/
def sequenceNumber (k word : String) (optional : Bool) : Parser Unit := do
  if ← keyword k then
    if !word.isEmpty then
      let _ ← keyword word
    signedNumber
  else if optional then
    let _ ← keywords ["NO", k]

/-- The options of a sequence, in their fixed order. -/
def sequenceOptions : Parser Unit := do
  sequenceNumber "INCREMENT" "BY" false
  sequenceNumber "MINVALUE" "" true
  sequenceNumber "MAXVALUE" "" true
  sequenceNumber "START" "WITH" false
  sequenceNumber "CACHE" "" false
  if !(← keywords ["NO", "CYCLE"]) then
    let _ ← keyword "CYCLE"

/-- The options of an identity column between parentheses, if there are any. -/
def identityOptions : Parser ColumnOption := do
  if ← symbol "(" then
    sequenceOptions
    expect ")"
  return .identity

/-- What follows `GENERATED`.  The words of a clause that is none are passed over. -/
def generatedOption? (r : Rules) : Parser (Option ColumnOption) := do
  if ← keywords ["ALWAYS", "AS", "IDENTITY"] then return some (← identityOptions)
  else if ← keywords ["BY", "DEFAULT", "AS", "IDENTITY"] then return some (← identityOptions)
  else if ← keywords ["ALWAYS", "AS"] then
    if ← symbol "(" then
      let e ← r.expr
      expect ")"
      if ← keyword "STORED" then return some (.generated e.print)
      else if r.isPostgres then fail
      else
        let _ ← keyword "VIRTUAL"
        return some (.generated e.print)
    else return none
  else return none

/-- The expression of a computed column after `AS`. -/
def computedOption (r : Rules) : Parser ColumnOption := do
  let e ← parenthesized r.expr
  let _ ← oneOf ["STORED", "VIRTUAL"]
  return .generated e.print

/-- Options at the end of the list, some of which only MySQL has.  A keyword that begins none in the
dialect is passed over. -/
def lateColumnOption? (r : Rules) : Parser (Option ColumnOption) := do
  let counts ← keyword "AUTO_INCREMENT"
  if counts && r.isMysql then return some (.other "AUTO_INCREMENT")
  let _ ← keyword "AUTOINCREMENT"
  let _ ← keyword "ASC"
  let _ ← keyword "DESC"
  let updates ← keywords ["ON", "UPDATE"]
  if updates && r.isMysql then return some (.other ("ON UPDATE " ++ (← r.expr).print))
  if ← keyword "GENERATED" then generatedOption? r
  else
    let computes ← keyword "AS"
    if computes && r.isMysql then return some (← computedOption r)
    let _ ← keyword "IDENTITY"
    return none

/-- One option of a column, if one follows. -/
def columnOption? (r : Rules) : Parser (Option ColumnOption) := do
  if ← keywords ["CHARACTER", "SET"] then
    return some (.other ("CHARACTER SET " ++ printName (← objectName)))
  else if ← keywords ["NOT", "NULL"] then return some .notNull
  else if ← keyword "COMMENT" then
    match ← next with
    | .literal .single s => return some (.other ("COMMENT " ++ LiteralKind.single.print s))
    | _ => fail
  else if ← keyword "NULL" then return some .null
  else if ← keyword "DEFAULT" then return some (.default (← r.expr).print)
  else if ← keywords ["PRIMARY", "KEY"] then
    constraintTiming
    return some .primaryKey
  else if ← keyword "UNIQUE" then
    constraintTiming
    return some .unique
  else if ← keyword "REFERENCES" then
    let table ← objectName
    return some (.references (← referenceTail table (← optionalColumnNames)))
  else if ← keyword "CHECK" then return some (.check (← parenthesized r.expr).print)
  else lateColumnOption? r

/-- One option of a column with its name, or a collation, which is passed over. -/
def namedColumnOption? (r : Rules) : Parser (Option (List ColumnOption)) := do
  if ← keyword "CONSTRAINT" then
    let _ ← ident
    match ← columnOption? r with
    | some o => return some [o]
    | none => fail
  else
    match ← columnOption? r with
    | some o => return some [o]
    | none =>
      if r.isMysql then
        if ← keyword "COLLATE" then
          let _ ← objectName
          return some []
      return none

/-- A column. -/
def columnDefinition (r : Rules) : Parser ColumnDefinition := do
  let name ← ident
  let type ← TypeName.read r.dialect
  if ← keyword "COLLATE" then
    let _ ← objectName
  let options ← many (namedColumnOption? r)
  return { name, type := type.text, options := options.flatten }

/-! ## Constraints of a table -/

/-- The method of an index, if one is given. -/
def indexMethod : Parser Bool := do
  if ← keyword "USING" then
    match ← oneOf ["BTREE", "HASH"] with
    | some _ => return true
    | none => fail
  else return false

/-- Options of an index: its method and a comment. -/
def indexOption? (r : Rules) : Parser (Option Unit) := do
  if ← indexMethod then return some ()
  else if ← keyword "COMMENT" then
    let _ ← literalText r.dialect
    return some ()
  else return none

/-- The columns of a key and what follows them. -/
def keyTail (r : Rules) : Parser (List Ident) := do
  let _ ← indexMethod
  let columns ← columnNames
  let _ ← many (indexOption? r)
  constraintTiming
  return columns

/-- The constraint of a table that begins with a keyword, which is taken; none if there is no such
constraint. -/
def constraintAfter? (r : Rules) (name : Option Ident) (key : String) :
    Option (Parser TableConstraint) :=
  match key with
  | "UNIQUE" => some do
    if r.isMysql then
      let _ ← oneOf ["KEY", "INDEX"]
    else if ["KEY", "INDEX"].contains (← peekKey) then fail
    let index ← attempt ident
    return .unique (index.or name) (← keyTail r)
  | "PRIMARY" => some do
    expectKeyword "KEY"
    let _ ← attempt ident
    return .primaryKey (← keyTail r)
  | "FOREIGN" => some do
    expectKeyword "KEY"
    let columns ← columnNames
    expectKeyword "REFERENCES"
    let table ← objectName
    return .foreignKey name columns (← referenceTail table (← columnNames))
  | "CHECK" => some (return .check name (← parenthesized r.expr).print)
  | "INDEX" | "KEY" =>
    if r.isMysql && name.isNone then some do
      let name ← if (← peekKey) == "USING" then pure none else attempt ident
      let _ ← indexMethod
      return .index name (← columnNames)
    else none
  | "FULLTEXT" | "SPATIAL" =>
    if r.isMysql then some do
      if name.isSome then fail
      let word := ((← oneOf ["KEY", "INDEX"]).map (" " ++ ·)).getD ""
      let name := ((← attempt ident).map fun i => " " ++ i.print).getD ""
      return .other (key ++ word ++ name ++ " (" ++ printNames (← columnNames) ++ ")")
    else none
  | _ => none

/-- A constraint of a table, if one follows. -/
def tableConstraint? (r : Rules) : Parser (Option TableConstraint) := do
  let name ← if ← keyword "CONSTRAINT" then pure (some (← ident)) else pure none
  match constraintAfter? r name (← peekKey) with
  | some p =>
    skip
    return some (← p)
  | none => if name.isSome then fail else return none

/-- A constraint or a column. -/
def tableElement (r : Rules) : Parser (ColumnDefinition ⊕ TableConstraint) := do
  match ← tableConstraint? r with
  | some c => return .inr c
  | none =>
    match ← peek with
    | some (.word _ _) => return .inl (← columnDefinition r)
    | _ => fail

/-- Columns and constraints between parentheses, if there are any. -/
def tableElements (r : Rules) : Parser (List (ColumnDefinition ⊕ TableConstraint)) := do
  if !(← symbol "(") then return []
  else if ← symbol ")" then return []
  else
    let es ← commaSeparated (tableElement r)
    expect ")"
    return es

end SchemaBridge.Sql
