/-
# Queries

`SELECT` with its clauses, `VALUES`, set operations, common table expressions, and the tables and
joins they read from.  A query is kept as pieces, so that the expressions in it can be changed.
-/
import SchemaBridge.Sql.Call

namespace SchemaBridge.Sql

open Sql.Parser

/-- Words that end an expression of a select list instead of naming it. -/
def notColumnAlias : List String :=
  ["WITH", "EXPLAIN", "ANALYZE", "SELECT", "WHERE", "GROUP", "SORT", "HAVING", "ORDER", "TOP",
    "LATERAL", "VIEW", "LIMIT", "OFFSET", "FETCH", "UNION", "EXCEPT", "INTERSECT", "CLUSTER",
    "DISTRIBUTE", "RETURNING", "FROM", "INTO", "END"]

/-- Words that go on after a table instead of naming it. -/
def notTableAlias : List String :=
  ["WITH", "EXPLAIN", "ANALYZE", "SELECT", "WHERE", "GROUP", "SORT", "HAVING", "ORDER", "PIVOT",
    "UNPIVOT", "TOP", "LATERAL", "VIEW", "LIMIT", "OFFSET", "FETCH", "UNION", "EXCEPT",
    "INTERSECT", "ON", "JOIN", "INNER", "CROSS", "FULL", "LEFT", "RIGHT", "NATURAL", "USING",
    "CLUSTER", "DISTRIBUTE", "GLOBAL", "ANTI", "SEMI", "RETURNING", "ASOF", "MATCH_CONDITION",
    "OUTER", "SET", "QUALIFY", "WINDOW", "END", "FOR", "PARTITION", "PREWHERE", "SETTINGS",
    "FORMAT", "START", "CONNECT", "MATCH_RECOGNIZE"]

/-- Another name, with or without `AS`. -/
def alias? (reserved : List String) : Parser (Option Ident) := do
  let explicit ← keyword "AS"
  match ← peek with
  | some (.word i key) =>
    if explicit || !reserved.contains key then
      skip
      return some i
    else return none
  | some (.literal .single s) =>
    skip
    return some ⟨s, some '\''⟩
  | some (.literal .double s) =>
    skip
    return some ⟨s, some '"'⟩
  | _ => if explicit then fail else return none

/-- Another name for a table, with names for its columns. -/
def tableAlias : Parser String := do
  match ← alias? notTableAlias with
  | none => return ""
  | some i =>
    let cs ← optionalColumnNames
    let list := if cs.isEmpty then "" else " (" ++ printNames cs ++ ")"
    return " AS " ++ i.print ++ list

/-- A column of a select list. -/
def selectItem (r : Rules) : Parser Pieces := do
  let (e, star) ← starOrExpr r
  if star then return piece e
  else
    match e with
    | .name [⟨v, none⟩] => if Text.lowerText v == "from" then fail
    | _ => pure ()
    match ← alias? notColumnAlias with
    | some i => return .expr e (words (" AS " ++ i.print))
    | none => return piece e

/-! ## Tables -/

/-- The condition of a join. -/
def joinCondition (r : Rules) (natural : Bool) : Parser Pieces := do
  if natural then return .nil
  else if ← keyword "ON" then return .text " ON " (piece (← r.expr))
  else if ← keyword "USING" then return words (" USING(" ++ printNames (← columnNames) ++ ")")
  else return .nil

/-- The kind of a join, as printed, if one follows. -/
def joinKind? : Parser (Option String) := do
  if ← keyword "JOIN" then return some "JOIN"
  else if ← keywords ["INNER", "JOIN"] then return some "JOIN"
  else if ← keywords ["LEFT", "OUTER", "JOIN"] then return some "LEFT JOIN"
  else if ← keywords ["LEFT", "SEMI", "JOIN"] then return some "LEFT SEMI JOIN"
  else if ← keywords ["LEFT", "ANTI", "JOIN"] then return some "LEFT ANTI JOIN"
  else if ← keywords ["LEFT", "JOIN"] then return some "LEFT JOIN"
  else if ← keywords ["RIGHT", "OUTER", "JOIN"] then return some "RIGHT JOIN"
  else if ← keywords ["RIGHT", "SEMI", "JOIN"] then return some "RIGHT SEMI JOIN"
  else if ← keywords ["RIGHT", "ANTI", "JOIN"] then return some "RIGHT ANTI JOIN"
  else if ← keywords ["RIGHT", "JOIN"] then return some "RIGHT JOIN"
  else if ← keywords ["FULL", "OUTER", "JOIN"] then return some "FULL JOIN"
  else if ← keywords ["FULL", "JOIN"] then return some "FULL JOIN"
  else return none

/-- A table, and whether it is a join between parentheses. -/
abbrev TableParser := Parser (Pieces × Bool)

/-- One join after a table. -/
def join? (r : Rules) (factor : TableParser) : Parser (Option Pieces) := do
  if ← keywords ["CROSS", "JOIN"] then return some (words " CROSS JOIN " ++ (← factor).1)
  else if ← keywords ["CROSS", "APPLY"] then return some (words " CROSS APPLY " ++ (← factor).1)
  else if ← keywords ["OUTER", "APPLY"] then return some (words " OUTER APPLY " ++ (← factor).1)
  else if ← keywords ["ASOF", "JOIN"] then
    let (table, _) ← factor
    expectKeyword "MATCH_CONDITION"
    let e ← parenthesized r.expr
    return some (words " ASOF JOIN " ++ table ++ .text " MATCH_CONDITION (" (.expr e (words ")"))
      ++ (← joinCondition r false))
  else
    let natural ← keyword "NATURAL"
    match ← joinKind? with
    | none => if natural then fail else return none
    | some kind =>
      let (table, _) ← factor
      let condition ← joinCondition r natural
      let lead := if natural then " NATURAL " else " "
      return some (words (lead ++ kind ++ " ") ++ table ++ condition)

/-- A table and what is joined to it; with it whether that may stand between parentheses, which a
table on its own may not. -/
def joined (r : Rules) (factor : TableParser) : TableParser := do
  let (first, nested) ← factor
  let more ← many (join? r factor)
  return (first ++ Pieces.join more, nested || !more.isEmpty)

/-- A query between parentheses as a table. -/
def derivedTable (r : Rules) (lead : String) : Parser Pieces := do
  let q ← parenthesized r.query
  let a ← tableAlias
  return .text (lead ++ "(") (q ++ words (")" ++ a))

/-- The arguments of a table function after the opening parenthesis, through the closing one. -/
def tableArguments (r : Rules) : Parser Pieces := do
  if ← symbol ")" then return .nil
  let args ← commaSeparated (argument r)
  expect ")"
  return Pieces.commas args

/-- The elements of arrays as a table, after `UNNEST`. -/
def unnested (r : Rules) : Parser Pieces := do
  let es ← parenthesized r.exprs
  let ordinality := if ← keywords ["WITH", "ORDINALITY"] then " WITH ORDINALITY" else ""
  let a ← tableAlias
  let offset ← if ← keywords ["WITH", "OFFSET"] then do
      let name ← alias? notColumnAlias
      pure (" WITH OFFSET" ++ (name.map (" AS " ++ ·.print)).getD "")
    else pure ""
  return .text "UNNEST(" (Pieces.exprs es ++ words (")" ++ ordinality ++ a ++ offset))

/-- What a column of `JSON_TABLE` holds where its path finds nothing or fails: what to do, and
whether the path fails. -/
def jsonFallback? : Parser (Option (String × Bool)) := do
  let action ← do
    if ← keyword "NULL" then pure (some "NULL")
    else if ← keyword "ERROR" then pure (some "ERROR")
    else if ← keyword "DEFAULT" then pure (some ("DEFAULT " ++ (← literalValue).print))
    else pure none
  match action with
  | none => return none
  | some a =>
    expectKeyword "ON"
    match ← oneOf ["EMPTY", "ERROR"] with
    | some k => return some (a, k == "ERROR")
    | none => fail

/-- A column of `JSON_TABLE`; `fuel` bounds the nesting. -/
def jsonColumn (r : Rules) : Nat → Parser String
  | 0 => fail
  | fuel + 1 => do
    if ← keyword "NESTED" then
      let _ ← keyword "PATH"
      let path ← literalValue
      expectKeyword "COLUMNS"
      let cs ← parenthesized (commaSeparated (jsonColumn r fuel))
      return "NESTED PATH " ++ path.print ++ " COLUMNS (" ++ ", ".intercalate cs ++ ")"
    else
      let name ← ident
      if ← keyword "FOR" then
        expectKeyword "ORDINALITY"
        return name.print ++ " FOR ORDINALITY"
      else
        let t ← TypeName.read r.dialect
        let presence := if ← keyword "EXISTS" then " EXISTS" else ""
        expectKeyword "PATH"
        let path ← literalValue
        let fallbacks ← many jsonFallback?
        -- of two for the same case the later one counts
        let last := fun (failing : Bool) =>
          (fallbacks.filter fun f => f.2 == failing).getLast?.map fun f =>
            " " ++ f.1 ++ if failing then " ON ERROR" else " ON EMPTY"
        return name.print ++ " " ++ t.text ++ presence ++ " PATH " ++ path.print
          ++ (last false).getD "" ++ (last true).getD ""

/-- The rows in a JSON document, after `JSON_TABLE`. -/
def jsonTable (r : Rules) : Parser Pieces := do
  let (document, columns) ← parenthesized do
    let document ← r.expr
    expect ","
    let path ← literalValue
    expectKeyword "COLUMNS"
    let cs ← parenthesized fun ts => commaSeparated (jsonColumn r (ts.length + 1)) ts
    return (document, path.print ++ " COLUMNS(" ++ ", ".intercalate cs ++ "))")
  let a ← tableAlias
  return .text "JSON_TABLE(" (.expr document (words (", " ++ columns ++ a)))

/-- A table by its name, or a function that yields one. -/
def namedTable (r : Rules) : Parser Pieces := do
  let name ← objectName
  let args ← if ← symbol "(" then do
      pure (.text "(" ((← tableArguments r) ++ words ")"))
    else pure .nil
  let ordinality := if ← keywords ["WITH", "ORDINALITY"] then " WITH ORDINALITY" else ""
  let a ← tableAlias
  let hinted := (← peekKey) == "WITH" && isSymbol "(" (← peekNth 1)
  let hints ← if hinted then do
      skip
      let es ← parenthesized r.exprs
      pure (.text " WITH (" (Pieces.exprs es ++ words ")"))
    else pure .nil
  return .text (printName name) (args ++ words (ordinality ++ a) ++ hints)

/-- One table: a query, a join between parentheses, the elements of arrays, the rows in a document,
or a name, perhaps with arguments. -/
def tableFactor (r : Rules) : Nat → TableParser
  | 0 => fail
  | fuel + 1 => do
    if ← keyword "LATERAL" then
      if ← peekSymbol "(" then return (← derivedTable r "LATERAL ", false)
      else
        let name ← objectName
        expect "("
        let args ← tableArguments r
        let a ← tableAlias
        return (.text ("LATERAL " ++ printName name ++ "(") (args ++ words (")" ++ a)), false)
    else if ← keyword "TABLE" then
      let e ← parenthesized r.expr
      let a ← tableAlias
      return (.text "TABLE(" (.expr e (words (")" ++ a))), false)
    else if ← peekSymbol "(" then
      match ← attempt (derivedTable r "") with
      | some p => return (p, false)
      | none =>
        let (inner, whole) ← parenthesized (joined r (tableFactor r fuel))
        let a ← tableAlias
        if whole then return (.text "(" (inner ++ words (")" ++ a)), true)
        else if r.isGeneric then return (inner ++ words a, false)
        else fail
    else if ← (if r.isMysql then pure false else keyword "UNNEST") then
      return (← unnested r, false)
    else if (← peekKey) == "JSON_TABLE" && isSymbol "(" (← peekNth 1) then
      skip
      return (← jsonTable r, false)
    else return (← namedTable r, false)

/-- Tables of a query, joined. -/
def tables (r : Rules) : Parser Pieces := fun ts =>
  (do return (← joined r (tableFactor r (ts.length + 1))).1) ts

/-! ## Selections -/

/-- A clause that begins with keywords and goes on with pieces. -/
def clause (ks : List String) (p : Parser Pieces) : Parser Pieces := do
  if ← keywords ks then
    let body ← p
    return .text (" " ++ " ".intercalate ks ++ " ") body
  else return .nil

/-- The treatment of repeated rows. -/
def distinctness (r : Rules) : Parser Pieces := do
  let all ← keyword "ALL"
  let distinct ← keyword "DISTINCT"
  if !distinct then return .nil
  else if all then fail
  else if ← keyword "ON" then
    expect "("
    if ← symbol ")" then return words "DISTINCT ON () "
    let es ← r.exprs
    expect ")"
    return .text "DISTINCT ON (" (Pieces.exprs es ++ words ") ")
  else return words "DISTINCT "

/-- The number of rows a selection is cut to. -/
def topRows (r : Rules) : Parser Pieces := do
  if !(← keyword "TOP") then return .nil
  let quantity ← if ← symbol "(" then do
      let e ← r.expr
      expect ")"
      pure (.text "(" (.expr e (words ")")))
    else pure (words (← wholeNumber))
  let percent := if ← keyword "PERCENT" then " PERCENT" else ""
  let ties := if ← keywords ["WITH", "TIES"] then " WITH TIES" else ""
  return .text "TOP " (quantity ++ words (percent ++ ties ++ " "))

/-- Some expressions between parentheses, or none. -/
def exprTuple (r : Rules) : Parser (List Expr) := do
  expect "("
  if ← symbol ")" then return []
  let es ← r.exprs
  expect ")"
  return es

/-- One group of a grouping. -/
def groupItem (r : Rules) : Parser Pieces := do
  let row := fun (es : List Expr) => Pieces.text "(" (Pieces.exprs es ++ words ")")
  -- in a cube an expression needs no parentheses, and on its own it is printed without them
  let corner : Parser Pieces := do
    let es ← if ← peekSymbol "(" then exprTuple r else pure [← r.expr]
    match es with
    | [e] => return piece e
    | es => return row es
  let groups := fun (lead : String) (one : Parser Pieces) => do
    let items ← parenthesized (commaSeparated one)
    return .text (lead ++ " (") (Pieces.commas items ++ words ")")
  if r.isMysql then return piece (← r.expr)
  else if ← keywords ["GROUPING", "SETS"] then groups "GROUPING SETS" (row <$> exprTuple r)
  else if ← keyword "CUBE" then groups "CUBE" corner
  else if ← keyword "ROLLUP" then groups "ROLLUP" corner
  else if (← peekSymbol "(") && isSymbol ")" (← peekNth 1) then return row (← exprTuple r)
  else return piece (← r.expr)

/-- Named windows, and a condition on what they yield; in either order. -/
def windowClauses (r : Rules) : Parser Pieces := do
  let windows := clause ["WINDOW"] (do
    let one : Parser Pieces := do
      let i ← ident
      expectKeyword "AS"
      if ← symbol "(" then return .text (i.print ++ " AS (") ((← windowBody r) ++ words ")")
      else if r.isGeneric then return words (i.print ++ " AS " ++ (← ident).print)
      else fail
    return Pieces.commas (← commaSeparated one))
  let condition := clause ["QUALIFY"] (do return piece (← r.expr))
  if (← peekKey) == "QUALIFY" then return (← condition) ++ (← windows)
  else return (← windows) ++ (← condition)

/-- One selection. -/
def selection (r : Rules) : Parser Pieces := do
  expectKeyword "SELECT"
  let distinct ← distinctness r
  let top ← topRows r
  let items ← commaSeparated (selectItem r)
  let source ← clause ["FROM"] (do return Pieces.commas (← commaSeparated (tables r)))
  let condition ← clause ["WHERE"] (do return piece (← r.expr))
  let groups ← clause ["GROUP", "BY"] (do
    if ← keyword "ALL" then return words "ALL"
    else return Pieces.commas (← commaSeparated (groupItem r)))
  let list : Parser Pieces := do return Pieces.exprs (← r.exprs)
  let cluster ← clause ["CLUSTER", "BY"] list
  let distribute ← clause ["DISTRIBUTE", "BY"] list
  let sort ← clause ["SORT", "BY"] list
  let having ← clause ["HAVING"] (do return piece (← r.expr))
  let windows ← windowClauses r
  return Pieces.join
    [words "SELECT ", distinct, top, Pieces.commas items, source, condition, groups, cluster,
      distribute, sort, having, windows]

/-- Rows of values.  If one of them is called a row, all are printed so. -/
def valueRows (r : Rules) : Parser Pieces := do
  let row : Parser (Bool × Pieces) := do
    let explicit ← keyword "ROW"
    let es ← if r.isMysql then exprTuple r else parenthesized r.exprs
    return (explicit, .text "(" (Pieces.exprs es ++ words ")"))
  let rows ← commaSeparated row
  let lead := if rows.any (·.1) then "ROW" else ""
  return .text "VALUES " (Pieces.commas (rows.map fun p => .text lead p.2))

/-- A whole table by its name, after `TABLE`.  A name of one part takes the two tokens after it
along. -/
def wholeTable : Parser Pieces := do
  match ← next with
  | .word first _ =>
    let second ← peek
    let third ← peekNth 1
    skip
    skip
    match isSymbol "." second, third with
    | true, some (.word i _) => return words ("TABLE " ++ first.value ++ "." ++ i.value)
    | true, _ => fail
    | false, _ => return words ("TABLE " ++ first.value)
  | _ => fail

/-! ## Whole queries -/

/-- A selection, a query between parentheses, rows of values or a whole table. -/
def queryTerm (r : Rules) : Parser Pieces := do
  let k ← peekKey
  if k == "SELECT" then selection r
  else if ← symbol "(" then
    let q ← r.query
    expect ")"
    return .text "(" (q ++ words ")")
  else if ← keyword "VALUES" then valueRows r
  else if ← keyword "TABLE" then wholeTable
  else fail

/-- A set operation and how strongly it binds. -/
def setOperation? : Parser (Option (String × Nat)) := do
  match ← peekKey with
  | "UNION" => return some ("UNION", 10)
  | "EXCEPT" => return some ("EXCEPT", 10)
  | "INTERSECT" => return some ("INTERSECT", 20)
  | _ => return none

/-- Terms joined by set operations that bind more strongly than `strength`. -/
def setChain (r : Rules) : Nat → Nat → Pieces → Parser Pieces
  | 0, _, left => return left
  | fuel + 1, strength, left => do
    match ← setOperation? with
    | none => return left
    | some (op, s) =>
      if s ≤ strength then return left
      else
        skip
        let quantifier ← do
          if ← keywords ["ALL", "BY", "NAME"] then pure " ALL BY NAME"
          else if ← keyword "ALL" then pure " ALL"
          else if ← keywords ["DISTINCT", "BY", "NAME"] then pure " DISTINCT BY NAME"
          else if ← keyword "DISTINCT" then pure " DISTINCT"
          else if ← keywords ["BY", "NAME"] then pure " BY NAME"
          else pure ""
        let first ← queryTerm r
        let right ← setChain r fuel s first
        setChain r fuel strength (left ++ words (" " ++ op ++ quantifier ++ " ") ++ right)

/-- The body of a query. -/
def queryBody (r : Rules) : Parser Pieces := fun ts =>
  (do setChain r (ts.length + 1) 0 (← queryTerm r)) ts

/-- A common table expression. -/
def commonTable (r : Rules) : Parser Pieces := do
  let name ← ident
  let cs ← optionalColumnNames
  expectKeyword "AS"
  let stored ← if r.isPostgres then do
      if ← keyword "MATERIALIZED" then pure "MATERIALIZED "
      else if ← keywords ["NOT", "MATERIALIZED"] then pure "NOT MATERIALIZED "
      else pure ""
    else pure ""
  let q ← parenthesized r.query
  let list := if cs.isEmpty then "" else " (" ++ printNames cs ++ ")"
  return .text (name.print ++ list ++ " AS " ++ stored ++ "(") (q ++ words ")")

/-- The tables a query defines for itself. -/
def commonTables (r : Rules) : Parser Pieces := do
  if ← keyword "WITH" then
    let recursive ← keyword "RECURSIVE"
    let ts ← commaSeparated (commonTable r)
    return .text (if recursive then "WITH RECURSIVE " else "WITH ") (Pieces.commas ts ++ words " ")
  else return .nil

/-- How many rows are passed over. -/
def offsetRows (r : Rules) : Parser Pieces := do
  let e ← r.expr
  let unit ← oneOf ["ROWS", "ROW"]
  return .expr e (words ((unit.map (" " ++ ·)).getD ""))

/-- Limit and offset, in either order, and with a comma where the dialect has that form. -/
def limits (r : Rules) : Parser Pieces := do
  let limit : Parser (Option Pieces) := do
    if ← keyword "ALL" then return none
    else return some (piece (← r.expr))
  let print := fun (l o : Option Pieces) =>
    (match l with | some p => Pieces.text " LIMIT " p | none => .nil)
      ++ (match o with | some p => Pieces.text " OFFSET " p | none => .nil)
  if ← keyword "LIMIT" then
    let l ← limit
    if ← keyword "OFFSET" then return print l (some (← offsetRows r))
    else if !r.isPostgres && l.isSome && (← peekSymbol ",") then
      skip
      return print (some (piece (← r.expr))) l
    else return print l none
  else if ← keyword "OFFSET" then
    let o ← offsetRows r
    if ← keyword "LIMIT" then return print (← limit) (some o)
    else return print none (some o)
  else return .nil

/-- The other form of a limit, if it is there. -/
def fetchClause : Parser Pieces := do
  if !(← keyword "FETCH") then return .nil
  if (← oneOf ["FIRST", "NEXT"]).isNone then fail
  let quantity ← if (← oneOf ["ROW", "ROWS"]).isSome then pure .nil else do
    let n ← literalValue
    let percent ← keyword "PERCENT"
    if (← oneOf ["ROW", "ROWS"]).isNone then fail
    pure (.text " " (.expr n (words (if percent then " PERCENT" else ""))))
  let ties ← if ← keyword "ONLY" then pure false else do
    expectKeywords ["WITH", "TIES"]
    pure true
  return .text " FETCH FIRST" (quantity ++ words (" ROWS " ++ if ties then "WITH TIES" else "ONLY"))

/-- A lock on the rows that are read. -/
def rowLock? : Parser (Option Pieces) := do
  if ← keyword "FOR" then
    match ← oneOf ["UPDATE", "SHARE"] with
    | none => fail
    | some k =>
      let of ← if ← keyword "OF" then pure (" OF " ++ printName (← objectName)) else pure ""
      let wait ← do
        if ← keyword "NOWAIT" then pure " NOWAIT"
        else if ← keywords ["SKIP", "LOCKED"] then pure " SKIP LOCKED"
        else pure ""
      return some (words (" FOR " ++ k ++ of ++ wait))
  else return none

/-- A whole query. -/
def wholeQuery (r : Rules) : Parser Pieces := do
  let common ← commonTables r
  let body ← queryBody r
  let order ← clause ["ORDER", "BY"] (orderItems r)
  let limit ← limits r
  let fetch ← fetchClause
  let locks ← many rowLock?
  return Pieces.join [common, body, order, limit, fetch, Pieces.join locks]

end SchemaBridge.Sql
