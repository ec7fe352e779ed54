/-
# Type names

A type is read and printed at once: keywords in upper case, parameters without white space before
them, a type of the user as it is written.
-/
import SchemaBridge.Sql.Parsing

namespace SchemaBridge.Sql

/-- What a type is to the grammar of expressions, where a type may stand before a literal. -/
inductive TypeClass
  | interval
  /-- A type of the user, which may not. -/
  | custom
  | usual
  deriving DecidableEq, Repr, Inhabited

/-- A type as it is printed, with what matters of it. -/
structure TypeName where
  text : String
  kind : TypeClass
  deriving DecidableEq, Repr, Inhabited

namespace TypeName

open Sql.Parser

/-- A type of which nothing matters but its text. -/
def usual (text : String) : TypeName := ⟨text, .usual⟩

/-- A number between parentheses, if there is one. -/
def optionalPrecision : Parser String := do
  if ← symbol "(" then
    let n ← wholeNumber
    expect ")"
    return "(" ++ n ++ ")"
  else return ""

/-- A length between parentheses, if there is one. -/
def optionalLength : Parser String := do
  if ← symbol "(" then
    let n ← if ← keyword "MAX" then pure "MAX" else do
      let n ← wholeNumber
      if ← keyword "CHARACTERS" then pure (n ++ " CHARACTERS")
      else if ← keyword "OCTETS" then pure (n ++ " OCTETS")
      else pure n
    expect ")"
    return "(" ++ n ++ ")"
  else return ""

/-- Precision and scale between parentheses, if they are there. -/
def optionalScale : Parser String := do
  if ← symbol "(" then
    let p ← wholeNumber
    let s ← if ← symbol "," then pure ("," ++ (← wholeNumber)) else pure ""
    expect ")"
    return "(" ++ p ++ s ++ ")"
  else return ""

/-- Strings between parentheses. -/
def labels : Parser String := do
  let one : Parser String := do
    match ← next with
    | .literal .single s => return LiteralKind.single.print s
    | _ => fail
  let ls ← parenthesized (commaSeparated one)
  return "(" ++ ", ".intercalate ls ++ ")"

/-- The parameters of a type of the user: words, numbers and strings up to a parenthesis. -/
def customParameters : Nat → Parser (List String)
  | 0 => fail
  | fuel + 1 => do
    let t ← next
    match t with
    | .word _ _ => return t.print :: (← customParameters fuel)
    | .number n _ => return n :: (← customParameters fuel)
    | .literal .single s => return s :: (← customParameters fuel)
    | .symbol "," => customParameters fuel
    | .symbol ")" => return []
    | _ => fail

/-- A type of the user. -/
def custom : Parser TypeName := do
  let name ← objectName
  if ← symbol "(" then
    let ps ← fun ts => customParameters (ts.length + 1) ts
    let list := if ps.isEmpty then "" else "(" ++ ", ".intercalate ps ++ ")"
    return ⟨printName name ++ list, .custom⟩
  else return ⟨printName name, .custom⟩

/-- An integer type with an optional display width, signed or not. -/
def integer (text : String) : Parser TypeName := do
  let width ← optionalPrecision
  let unsigned ← keyword "UNSIGNED"
  return usual (text ++ width ++ if unsigned then " UNSIGNED" else "")

/-- The time zone clause of a type. -/
def timeZone : Parser String := do
  if ← keyword "WITH" then
    expectKeywords ["TIME", "ZONE"]
    return " WITH TIME ZONE"
  else if ← keyword "WITHOUT" then
    expectKeywords ["TIME", "ZONE"]
    return " WITHOUT TIME ZONE"
  else return ""

/-- The rest of a character type after `CHARACTER` or `CHAR`. -/
def character (text : String) : Parser TypeName := do
  if ← keyword "VARYING" then return usual (text ++ " VARYING" ++ (← optionalLength))
  else if ← keywords ["LARGE", "OBJECT"] then
    return usual (text ++ " LARGE OBJECT" ++ (← optionalPrecision))
  else return usual (text ++ (← optionalLength))

/-- The precision of a date with time and, if one is given, its time zone. -/
def preciseDate (d : Dialect) : Parser TypeName :=
  parenthesized do
    let p ← wholeNumber
    let zone ← if ← symbol "," then pure (", '" ++ (← literalText d) ++ "'") else pure ""
    return usual ("DateTime64(" ++ p ++ zone ++ ")")

/-- Types that are one keyword and how they are printed. -/
def plainTypes : List (String × String) :=
  [("BOOLEAN", "BOOLEAN"), ("BOOL", "BOOL"), ("REAL", "REAL"), ("FLOAT4", "FLOAT4"),
    ("FLOAT8", "FLOAT8"), ("FLOAT32", "Float32"), ("FLOAT64", "FLOAT64"), ("INT16", "Int16"),
    ("INT32", "Int32"), ("INT64", "INT64"), ("INT128", "Int128"), ("INT256", "Int256"),
    ("UINT8", "UInt8"), ("UINT16", "UInt16"), ("UINT32", "UInt32"), ("UINT64", "UInt64"),
    ("UINT128", "UInt128"), ("UINT256", "UInt256"), ("UUID", "UUID"), ("DATE", "DATE"),
    ("DATE32", "Date32"), ("JSON", "JSON"), ("JSONB", "JSONB"), ("REGCLASS", "REGCLASS"),
    ("TEXT", "TEXT"), ("BYTEA", "BYTEA"), ("TRIGGER", "TRIGGER")]

/-- A type that is named by a keyword, after the keyword; none if there is no such type. -/
def ofKeyword? (d : Dialect) (k : String) : Option (Parser TypeName) :=
  match plainTypes.lookup k with
  | some text => some (return usual text)
  | none =>
    if ["TINYINT", "INT2", "SMALLINT", "MEDIUMINT", "INT", "INT4", "INT8", "INTEGER",
        "BIGINT"].contains k then some (integer k)
    else if ["FLOAT", "CLOB", "BINARY", "VARBINARY", "BLOB", "BYTES", "DATETIME",
        "STRING"].contains k then some (do return usual (k ++ (← optionalPrecision)))
    else if ["VARCHAR", "NVARCHAR"].contains k then
      some (do return usual (k ++ (← optionalLength)))
    else if ["CHARACTER", "CHAR"].contains k then some (character k)
    else if ["NUMERIC", "DECIMAL", "DEC", "BIGNUMERIC", "BIGDECIMAL"].contains k then
      some (do return usual (k ++ (← optionalScale)))
    else if ["TIMESTAMP", "TIME"].contains k then
      some (do
        let p ← optionalPrecision
        return usual (k ++ p ++ (← timeZone)))
    else if ["TIMESTAMPTZ", "TIMETZ"].contains k then
      some (do return usual (k ++ (← optionalPrecision)))
    else if ["ENUM", "SET"].contains k then some (do return usual (k ++ (← labels)))
    else if k = "DOUBLE" then
      some (do return usual (if ← keyword "PRECISION" then "DOUBLE PRECISION" else "DOUBLE"))
    else if k = "FIXEDSTRING" then
      some (do return usual ("FixedString(" ++ (← parenthesized wholeNumber) ++ ")"))
    else if k = "DATETIME64" then some (preciseDate d)
    else if k = "INTERVAL" then some (return ⟨"INTERVAL", .interval⟩)
    else none

/-- The array levels `[]` and `[n]` after a type. -/
def arrayLevels (d : Dialect) : Nat → TypeName → Parser TypeName
  | 0, t => return t
  | fuel + 1, t => do
    if ← symbol "[" then
      let size ← if d = .mysql then pure none else attempt wholeNumber
      expect "]"
      arrayLevels d fuel (usual (t.text ++ "[" ++ size.getD "" ++ "]"))
    else return t

/-- A type, and whether its closing angle bracket was the first half of a double one. -/
def readFrom (d : Dialect) : Nat → Parser (TypeName × Bool)
  | 0 => fail
  | fuel + 1 => do
    let k ← peekKey
    if k = "ARRAY" then
      skip
      expect "<"
      let (inner, closed) ← readFrom d fuel
      let double ← if closed then pure false
        else if ← symbol ">" then pure false
        else if ← symbol ">>" then pure true
        else fail
      return (← arrayLevels d fuel (usual ("ARRAY<" ++ inner.text ++ ">")), double)
    else
      let t ← match ofKeyword? d k with
        | some p => do
          skip
          p
        | none => do
          match ← peek with
          | some (.word _ _) => custom
          | _ => fail
      return (← arrayLevels d fuel t, false)

/-- A type. -/
def read (d : Dialect) : Parser TypeName := do
  let (t, half) ← fun ts => readFrom d (ts.length + 1) ts
  if half then fail else return t

end TypeName

end SchemaBridge.Sql
