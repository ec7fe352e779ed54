/-
# Function calls

The argument list of a call with its clauses, and what may follow it: an order within the group, a
filter, the treatment of nulls, a window.
-/
import SchemaBridge.Sql.Interval

namespace SchemaBridge.Sql

open Sql.Parser

/-- A literal value as a text. -/
def literalValue : Parser Expr := do
  match ← next with
  | .literal k v => return .literal k v
  | .number t long => return verbatim (numberForm t long)
  | .placeholder t => return verbatim t
  | .word i key =>
    if key = "TRUE" then return verbatim "true"
    else if key = "FALSE" then return verbatim "false"
    else if key = "NULL" then return verbatim "NULL"
    else match i.quote with
      | some '"' => return .literal .double i.value
      | _ => fail
  | .symbol s =>
    if s = ":" || s = "@" then return verbatim (s ++ (← parameterName)) else fail
  | _ => fail

/-- A term with the collation after it, if there is one. -/
def collated (e : Expr) : Parser Expr := do
  if ← keyword "COLLATE" then
    return form [piece e, words (" COLLATE " ++ printName (← objectName))]
  else return e

/-- An expression with its direction and the place of nulls. -/
def orderItem (r : Rules) : Parser Pieces := do
  let e ← r.expr
  let direction ← do
    if ← keyword "ASC" then pure " ASC"
    else if ← keyword "DESC" then pure " DESC"
    else pure ""
  let nulls ← do
    if ← keywords ["NULLS", "FIRST"] then pure " NULLS FIRST"
    else if ← keywords ["NULLS", "LAST"] then pure " NULLS LAST"
    else pure ""
  return .expr e (words (direction ++ nulls))

/-- Expressions to sort by, with commas between them. -/
def orderItems (r : Rules) : Parser Pieces := return Pieces.commas (← commaSeparated (orderItem r))

/-- The treatment of nulls, if one is given. -/
def nullTreatment : Parser (Option String) := do
  match ← oneOf ["RESPECT", "IGNORE"] with
  | some k =>
    expectKeyword "NULLS"
    return some (k ++ " NULLS")
  | none => return none

/-- The parts of a name that may end in a star, after its first part. -/
def starredParts : Nat → Parser (List Ident × Bool)
  | 0 => return ([], false)
  | fuel + 1 => do
    if ← symbol "." then
      match ← next with
      | .word i _ =>
        let (is, star) ← starredParts fuel
        return (i :: is, star)
      | .literal .single s =>
        let (is, star) ← starredParts fuel
        return (⟨s, some '\''⟩ :: is, star)
      | .symbol "*" => return ([], true)
      | _ => fail
    else return ([], false)

/-- An expression, a star or a qualified star; with it whether it is a star. -/
def starOrExpr (r : Rules) : Parser (Expr × Bool) := fun ts =>
  let qualified := fun (first : Ident) (rest : List Token) => (do
    let (is, star) ← starredParts rest.length
    if star then return (verbatim (printName (first :: is) ++ ".*"), true)
    else return (← fun _ => r.expr ts, false) : Parser (Expr × Bool)) rest
  let plain := (do return (← r.expr, false) : Parser (Expr × Bool)) ts
  match ts with
  | .symbol "*" :: rest => .ok ((verbatim "*", true), rest)
  | .word i _ :: rest => if isSymbol "." rest.head? then qualified i rest else plain
  | .literal .single s :: rest =>
    if isSymbol "." rest.head? then qualified ⟨s, some '\''⟩ rest else plain
  | _ => plain

/-- One argument, with its name if it is given by name. -/
def argument (r : Rules) : Parser Pieces := do
  let sign ← peekNth 1
  if isSymbol "=>" sign then
    let i ← ident
    skip
    let (e, _) ← starOrExpr r
    return .text (i.print ++ " => ") (piece e)
  else if r.isGeneric && isSymbol "=" sign then
    let i ← ident
    skip
    let (e, _) ← starOrExpr r
    return .text (i.print ++ " = ") (piece e)
  else
    let (e, _) ← starOrExpr r
    return piece e

/-- A clause after the arguments, if it is there. -/
def optionalClause (begins : Bool) (p : Parser Pieces) : Parser (List Pieces) := do
  if begins then return [← p] else return []

/-- What is done if the joined text grows too long, after `ON OVERFLOW`. -/
def overflowForm (r : Rules) : Parser Pieces := do
  if ← keyword "ERROR" then return words "ON OVERFLOW ERROR"
  else
    expectKeyword "TRUNCATE"
    let filler ← do
      match ← peek with
      | some (.word _ key) => if ["WITH", "WITHOUT"].contains key then pure .nil else fail
      | some (.literal kind _) =>
        if [LiteralKind.single, .escaped, .unicode, .national, .hex].contains kind then
          pure (.text " " (piece (← r.expr)))
        else fail
      | _ => fail
    match ← oneOf ["WITH", "WITHOUT"] with
    | none => fail
    | some k =>
      expectKeyword "COUNT"
      return .text "ON OVERFLOW TRUNCATE" (filler ++ words (" " ++ k ++ " COUNT"))

/-- The arguments of a call after its opening parenthesis, through the closing one, and whether they
say how nulls are treated. -/
def argumentList (r : Rules) : Parser (Pieces × Bool) := do
  if ← symbol ")" then return (.nil, false)
  let all ← keyword "ALL"
  let distinct ← keyword "DISTINCT"
  if all && distinct then fail
  let treatment := if all then "ALL " else if distinct then "DISTINCT " else ""
  let args ← commaSeparated (argument r)
  let nulls ← if r.isGeneric then nullTreatment else pure none
  let order ← optionalClause (← keywords ["ORDER", "BY"])
    (do return .text "ORDER BY " (← orderItems r))
  let limit ← optionalClause (← keyword "LIMIT") (do return .text "LIMIT " (piece (← r.expr)))
  let having ← optionalClause (r.isGeneric && (← peekKey) == "HAVING") (do
    skip
    match ← oneOf ["MIN", "MAX"] with
    | some k => return .text ("HAVING " ++ k ++ " ") (piece (← r.expr))
    | none => fail)
  let separator ← optionalClause (!r.isPostgres && (← peekKey) == "SEPARATOR") (do
    skip
    return words ("SEPARATOR " ++ (← literalValue).print))
  let overflow ← optionalClause (← keywords ["ON", "OVERFLOW"]) (overflowForm r)
  expect ")"
  let clauses := (nulls.toList.map words) ++ order ++ limit ++ having ++ separator ++ overflow
  let list := Pieces.commas args
  let tail := if clauses.isEmpty then .nil else .text " " (Pieces.separated " " clauses)
  return (.text treatment (list ++ tail), nulls.isSome)

/-- One end of a window frame.  A string counts as an interval. -/
def frameBound (r : Rules) : Parser Pieces := do
  if ← keywords ["CURRENT", "ROW"] then return words "CURRENT ROW"
  else
    let rows ← if ← keyword "UNBOUNDED" then pure (words "UNBOUNDED")
      else do
        match ← peek with
        | some (.literal .single s) =>
          let quoted := do
            skip
            collated (.literal .single s)
          pure (piece (← intervalForm r (if r.isMysql then r.expr else quoted)))
        | _ => pure (piece (← r.expr))
    match ← oneOf ["PRECEDING", "FOLLOWING"] with
    | some k => return rows ++ words (" " ++ k)
    | none => fail

/-- The frame of a window. -/
def windowFrame (r : Rules) : Parser Pieces := do
  match ← oneOf ["ROWS", "RANGE", "GROUPS"] with
  | none => fail
  | some units =>
    if ← keyword "BETWEEN" then
      let low ← frameBound r
      expectKeyword "AND"
      let high ← frameBound r
      return words (units ++ " BETWEEN ") ++ low ++ words " AND " ++ high
    else return words (units ++ " ") ++ (← frameBound r)

/-- A window after its opening parenthesis, through the closing one. -/
def windowBody (r : Rules) : Parser Pieces := do
  let name ← do
    match ← peek with
    | some (.word i key) =>
      if isKeyword key then pure []
      else do
        skip
        pure [words i.print]
    | _ => pure []
  let parts ← optionalClause (← keywords ["PARTITION", "BY"])
    (do return .text "PARTITION BY " (Pieces.exprs (← r.exprs)))
  let order ← optionalClause (← keywords ["ORDER", "BY"])
    (do return .text "ORDER BY " (← orderItems r))
  let frame ← if ← symbol ")" then pure [] else do
    let f ← windowFrame r
    expect ")"
    pure [f]
  return Pieces.separated " " (name ++ parts ++ order ++ frame)

/-- A filter on the rows of a group.  The word alone, or without `WHERE`, is passed over. -/
def groupFilter (r : Rules) : Parser (List Pieces) := do
  if r.isMysql then return []
  if !(← keyword "FILTER") then return []
  if !(← symbol "(") then return []
  if !(← keyword "WHERE") then return []
  let e ← r.expr
  expect ")"
  return [.text " FILTER (WHERE " (.expr e (words ")"))]

/-- A call after the name of its function. -/
def call (r : Rules) (name : List Ident) : Parser Expr := do
  expect "("
  let (first, firstNulls) ← argumentList r
  -- a second list makes the first one parameters
  let again ← if r.isGeneric then symbol "(" else pure false
  let (args, nulls) ← if again then do
      let (second, secondNulls) ← argumentList r
      pure (first ++ words ")(" ++ second, secondNulls)
    else pure (first, firstNulls)
  let order ← optionalClause (← keywords ["WITHIN", "GROUP"]) (do
    let items ← parenthesized (do
      expectKeywords ["ORDER", "BY"]
      orderItems r)
    return .text " WITHIN GROUP (ORDER BY " (items ++ words ")"))
  let filter ← groupFilter r
  let treatment ← if nulls then pure none else nullTreatment
  let frame ← optionalClause (← keyword "OVER") (do
    if ← symbol "(" then return .text " OVER (" ((← windowBody r) ++ words ")")
    else return words (" OVER " ++ (← ident).print))
  let after := order ++ filter ++ (treatment.toList.map fun t => words (" " ++ t)) ++ frame
  return .call name (some args) (Pieces.join after)

end SchemaBridge.Sql
