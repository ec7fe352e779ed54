/-
# Terms

What an expression begins with: a literal, a name, a call, a special form of SQL, a sign with its
operand, something between parentheses.
-/
import SchemaBridge.Sql.Query

namespace SchemaBridge.Sql

open Sql.Parser

/-! ## Special forms -/

/-- The branches of a `CASE` after a `WHEN`; `fuel` bounds their number. -/
def caseBranches (r : Rules) : Nat → Parser Pieces
  | 0 => fail
  | fuel + 1 => do
    let condition ← r.expr
    expectKeyword "THEN"
    let result ← r.expr
    let branch := Pieces.text " WHEN " (.expr condition (.text " THEN " (piece result)))
    if ← keyword "WHEN" then return branch ++ (← caseBranches r fuel)
    else return branch

/-- What follows `CASE`: the branches of a choice, through its end. -/
def caseForm (r : Rules) : Parser Expr := do
  let operand ← if ← keyword "WHEN" then pure .nil else do
    let e ← r.expr
    expectKeyword "WHEN"
    pure (.text " " (piece e))
  let branches ← fun ts => caseBranches r (ts.length + 1) ts
  let otherwise ← if ← keyword "ELSE" then pure (.text " ELSE " (piece (← r.expr))) else pure .nil
  expectKeyword "END"
  return form [words "CASE", operand, branches, otherwise, words " END"]

/-- The format clause of a cast, if there is one. -/
def castFormat : Parser String := do
  if ← keyword "FORMAT" then
    let v ← literalValue
    let zone ← if ← keywords ["AT", "TIME", "ZONE"] then
        pure (" AT TIME ZONE " ++ (← literalValue).print)
      else pure ""
    return " FORMAT " ++ v.print ++ zone
  else return ""

/-- What follows a word for a cast: an operand and a type between parentheses. -/
def castForm (r : Rules) (kind : CastKind) : Parser Expr :=
  parenthesized do
    let e ← r.expr
    expectKeyword "AS"
    let t ← TypeName.read r.dialect
    return .cast kind e t.text (← castFormat)

/-- A conversion after its keyword, which is printed as `lead`. -/
def convertForm (r : Rules) (lead : String) : Parser Expr :=
  parenthesized do
    let e ← r.expr
    if ← keyword "USING" then
      let charset := printName (← objectName)
      return form [words (lead ++ "("), piece e, words (" USING " ++ charset ++ ")")]
    else
      expect ","
      let t ← TypeName.read r.dialect
      let charset ← if ← keywords ["CHARACTER", "SET"] then
          pure (" CHARACTER SET " ++ printName (← objectName))
        else pure ""
      return form [words (lead ++ "("), piece e, words (", " ++ t.text ++ charset ++ ")")]

/-- What follows `EXISTS`: a query between parentheses. -/
def existsForm (r : Rules) (lead : String) : Parser Expr := do
  let q ← parenthesized r.query
  return form [words (lead ++ " ("), q, words ")"]

/-- What follows `EXTRACT`: a field of a moment, and the moment. -/
def extractForm (r : Rules) : Parser Expr :=
  parenthesized do
    let field ← dateField r
    let joint ← do
      if ← keyword "FROM" then pure " FROM "
      else if r.isGeneric && (← peekSymbol ",") then
        skip
        pure ", "
      else fail
    return form [words ("EXTRACT(" ++ field ++ joint), piece (← r.expr), words ")"]

/-- `CEIL` and `FLOOR`, to a part of a date or to a number of places. -/
def roundForm (r : Rules) (lead : String) : Parser Expr :=
  parenthesized do
    let e ← r.expr
    if ← keyword "TO" then
      let field ← dateField r
      return form [words (lead ++ "("), piece e, words (" TO " ++ field ++ ")")]
    else if ← symbol "," then
      match ← next with
      | .number t long =>
        return form [words (lead ++ "("), piece e, words (", " ++ numberForm t long ++ ")")]
      | _ => fail
    else return form [words (lead ++ "("), piece e, words ")"]

/-- What follows `POSITION`: a text, and the one it is looked for in. -/
def positionForm (r : Rules) : Parser Expr :=
  parenthesized do
    let e ← r.above .between
    expectKeyword "IN"
    return form [words "POSITION(", piece e, words " IN ", piece (← r.expr), words ")"]

/-- What follows `SUBSTRING`: a text, where the part of it begins, and how long it is. -/
def substringForm (r : Rules) : Parser Expr :=
  parenthesized do
    let e ← r.expr
    let special ← symbol ","
    let start ← do
      if special then pure (.text ", " (piece (← r.expr)))
      else if ← keyword "FROM" then pure (.text " FROM " (piece (← r.expr)))
      else pure Pieces.nil
    let counted ← do
      if ← keyword "FOR" then pure true else symbol ","
    let count ← if counted then
        pure (.text (if special then ", " else " FOR ") (piece (← r.expr)))
      else pure Pieces.nil
    return form [words "SUBSTRING(", piece e, start, count, words ")"]

/-- What follows `OVERLAY`: a text, what is put over it, where, and over how much. -/
def overlayForm (r : Rules) : Parser Expr :=
  parenthesized do
    let e ← r.expr
    expectKeyword "PLACING"
    let what ← r.expr
    expectKeyword "FROM"
    let start ← r.expr
    let count ← if ← keyword "FOR" then pure (.text " FOR " (piece (← r.expr))) else pure .nil
    return form
      [words "OVERLAY(", piece e, words " PLACING ", piece what, words " FROM ", piece start, count,
        words ")"]

/-- What follows `TRIM`: the side, what is trimmed, and the text. -/
def trimForm (r : Rules) : Parser Expr :=
  parenthesized do
    let side := ((← oneOf ["BOTH", "LEADING", "TRAILING"]).map (· ++ " ")).getD ""
    let e ← r.expr
    if ← keyword "FROM" then
      let whole ← r.expr
      return form [words ("TRIM(" ++ side), piece e, words " FROM ", piece whole, words ")"]
    else if ← symbol "," then
      if r.isGeneric then
        let cs ← r.exprs
        return form [words "TRIM(", piece e, words ", ", Pieces.exprs cs, words ")"]
      else fail
    else return form [words ("TRIM(" ++ side), piece e, words ")"]

/-- What follows `MATCH`: columns, the words that are looked for in them, and how. -/
def matchForm : Parser Expr := do
  let cs ← columnNames
  expectKeyword "AGAINST"
  let body ← parenthesized do
    let v ← literalValue
    let mode ← do
      if ← keywords ["IN", "NATURAL", "LANGUAGE", "MODE"] then
        if ← keywords ["WITH", "QUERY", "EXPANSION"] then
          pure " IN NATURAL LANGUAGE MODE WITH QUERY EXPANSION"
        else pure " IN NATURAL LANGUAGE MODE"
      else if ← keywords ["IN", "BOOLEAN", "MODE"] then pure " IN BOOLEAN MODE"
      else if ← keywords ["WITH", "QUERY", "EXPANSION"] then pure " WITH QUERY EXPANSION"
      else pure ""
    return words (v.print ++ mode)
  return form [words ("MATCH (" ++ printNames cs ++ ") AGAINST ("), body, words ")"]

/-- The items of an array after its opening bracket, through the closing one. -/
def arrayItems (r : Rules) (lead : String) : Parser Expr := do
  if ← symbol "]" then return verbatim (lead ++ "[]")
  else
    let es ← r.exprs
    expect "]"
    return form [words (lead ++ "["), Pieces.exprs es, words "]"]

/-- A sign or operator before its operand. -/
def signed (r : Rules) (sign : String) (b : Binding) : Parser Expr := do
  return form [words sign, piece (← r.above b)]

/-- What follows `NOT`: a query that finds nothing, or a condition. -/
def notForm (r : Rules) : Parser Expr := do
  if ← keyword "EXISTS" then existsForm r "NOT EXISTS"
  else signed r "NOT " .not

/-- What stands between parentheses, through the closing one: a query, an expression or a row. -/
def nested (r : Rules) : Parser Expr := do
  let e ← if ← Rules.queryFollows then pure (Expr.subquery (← r.query)) else do
    let es ← r.exprs
    pure (form [words "(", Pieces.exprs es, words ")"])
  expect ")"
  if ← symbol "." then
    match ← next with
    | .word i _ => return form [piece e, words ("." ++ i.print)]
    | _ => fail
  else return e

/-! ## Names and calls -/

/-- The parts of a name after its first, up to where an argument list or something else begins. -/
def pathParts (d : Dialect) : Nat → Parser (List Ident × Bool)
  | 0 => return ([], false)
  | fuel + 1 => do
    if ← symbol "." then
      match ← next with
      | .word i _ =>
        let (is, star) ← pathParts d fuel
        return (i :: is, star)
      | .literal .single s =>
        let (is, star) ← pathParts d fuel
        return (⟨s, some '\''⟩ :: is, star)
      | .symbol "*" => if d = .postgres then return ([], true) else fail
      | _ => fail
    else return ([], false)

/-- A name, a call or a string with a character set before it, after its first word. -/
def nameForm (r : Rules) (first : Ident) : Parser Expr := do
  match ← peek with
  | some (.symbol ".") | some (.symbol "(") =>
    let (is, star) ← fun ts => pathParts r.dialect ts.length ts
    if star then return verbatim (printName (first :: is) ++ ".*")
    else if ← peekSymbol "(" then call r (first :: is)
    else return .name (first :: is)
  | some (.literal kind v) =>
    if first.value.startsWith "_" && [LiteralKind.single, .double, .hex].contains kind then
      skip
      return verbatim (first.value ++ " " ++ kind.print v)
    else return .name [first]
  | _ => return .name [first]

/-- A function of time, whose arguments may be missing. -/
def timeCall (r : Rules) (name : Ident) : Parser Expr := do
  if ← symbol "(" then
    let (args, _) ← argumentList r
    return .call [name] (some args) .nil
  else return .call [name] none .nil

/-- A term that begins with a word, after the word. -/
def wordForm (r : Rules) (i : Ident) (key : String) : Parser Expr := do
  match key with
  | "TRUE" => return verbatim "true"
  | "FALSE" => return verbatim "false"
  | "NULL" => return verbatim "NULL"
  | "CURRENT_CATALOG" | "CURRENT_USER" | "SESSION_USER" | "USER" =>
    if r.isMysql then nameForm r i else return .call [i] none .nil
  | "CURRENT_TIMESTAMP" | "CURRENT_TIME" | "CURRENT_DATE" | "LOCALTIME" | "LOCALTIMESTAMP" =>
    timeCall r i
  | "CASE" => caseForm r
  | "CONVERT" => convertForm r "CONVERT"
  | "TRY_CONVERT" => if r.isGeneric then convertForm r "TRY_CONVERT" else nameForm r i
  | "CAST" => castForm r .cast
  | "TRY_CAST" => castForm r .tryCast
  | "SAFE_CAST" => castForm r .safeCast
  | "EXISTS" => existsForm r "EXISTS"
  | "EXTRACT" => extractForm r
  | "CEIL" => roundForm r "CEIL"
  | "FLOOR" => roundForm r "FLOOR"
  | "POSITION" =>
    if ← peekSymbol "(" then
      match ← attempt (positionForm r) with
      | some e => return e
      | none => call r [i]
    else nameForm r i
  | "SUBSTRING" => substringForm r
  | "OVERLAY" => overlayForm r
  | "TRIM" => trimForm r
  | "ARRAY" =>
    if ← symbol "[" then arrayItems r "ARRAY"
    else if ← symbol "(" then
      let q ← r.query
      expect ")"
      return .call [i] (some q) .nil
    else nameForm r i
  | "NOT" => notForm r
  | "MATCH" => if r.isPostgres then nameForm r i else matchForm
  | _ => nameForm r i

/-! ## Terms -/

/-- A literal after the name of its type, such as `DATE '2020-01-01'`. -/
def typedLiteral (r : Rules) (interval : Parser Expr) : Parser Expr := do
  let t ← TypeName.read r.dialect
  match t.kind with
  | .interval => interval
  | .custom => fail
  | .usual => return verbatim (t.text ++ " " ++ LiteralKind.single.print (← literalText r.dialect))

/-- A term by its first token, which is taken already. -/
def tokenForm (r : Rules) (interval : Parser Expr) : Token → Parser Expr
  | .word i key => if key = "INTERVAL" then interval else wordForm r i key
  | .number t long => return verbatim (numberForm t long)
  | .literal .escaped s => if r.isMysql then fail else return .literal .escaped s
  | .literal kind s => return .literal kind s
  | .placeholder t => return verbatim t
  | .operator _ => fail
  | .symbol s =>
    match s with
    | "[" => arrayItems r ""
    | "-" => signed r "-" .product
    | "+" => signed r "+" .product
    | "(" => nested r
    | ":" => return verbatim (":" ++ (← parameterName))
    | "@" =>
      if r.isPostgres then signed r "@" .sum
      else return verbatim ("@" ++ (← parameterName))
    | "!!" | "|/" | "||/" | "~" => if r.isPostgres then signed r s .sum else fail
    | _ => fail

/-- One term; `fuel` bounds the number of intervals in a row. -/
def term (r : Rules) : Nat → Parser Expr
  | 0 => fail
  | fuel + 1 => do
    let interval := intervalForm r (if r.isMysql then r.expr else term r fuel)
    let e ← match ← attempt (typedLiteral r interval) with
      | some e => pure e
      | none => do
        let e ← tokenForm r interval (← next)
        collated e
    return e

end SchemaBridge.Sql
