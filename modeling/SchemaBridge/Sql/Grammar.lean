/-
# The grammar of expressions

A term is followed by operators, each of which takes the operand on its left and reads the one on
its right; how strongly it binds decides which operands are its own.  `rulesAt` ties the grammar
into a knot: the rules at a depth are written with those at the depth below, and at depth 0
everything is nested too deeply.
-/
import SchemaBridge.Sql.Term

namespace SchemaBridge.Sql

open Sql.Parser

/-- Operators of comparison that may be followed by `ANY`, `ALL` or `SOME`. -/
def quantifiable : List String := [">", "<", ">=", "<=", "=", "<>"]

/-- How strongly a symbol binds as an operator; 0 if it is none. -/
def symbolStrength (d : Dialect) (s : String) : Nat :=
  if d = .postgres && s = "[" then 130
  else if d = .postgres && ["!", "&&", "^@", "||", "#", ">>", "<<"].contains s then
    Binding.other.strength d
  else if ["=", "<", "<=", "<>", ">", ">=", "==", "~", "~*", "!~", "!~*", "~~", "~~*", "!~~", "!~~*",
      "<=>"].contains s then Binding.comparison.strength d
  else if s = "|" then Binding.bar.strength d
  else if ["^", "#", ">>", "<<"].contains s then Binding.caret.strength d
  else if s = "&" then Binding.ampersand.strength d
  else if ["+", "-"].contains s then Binding.sum.strength d
  else if ["*", "/", "//", "%", "||"].contains s then Binding.product.strength d
  else if ["::", "!", "[", "&&", "^@"].contains s then Binding.cast.strength d
  else if ["->", "->>", "#>", "#>>", "@>", "<@", "#-", "@?", "@@", "?", "?&", "?|"].contains s then
    Binding.other.strength d
  else 0

/-- How strongly a keyword binds as an operator, given the two after it; 0 if it is none. -/
def keywordStrength (d : Dialect) (k second third : String) : Nat :=
  match k with
  | "OR" => Binding.or.strength d
  | "AND" => Binding.and.strength d
  | "XOR" => Binding.xor.strength d
  | "AT" => if second = "TIME" && third = "ZONE" then Binding.atTimeZone.strength d else 0
  | "NOT" =>
    if ["IN", "BETWEEN"].contains second then Binding.between.strength d
    else if ["LIKE", "ILIKE", "RLIKE", "REGEXP", "SIMILAR"].contains second then
      Binding.like.strength d
    else 0
  | "IS" => Binding.is.strength d
  | "IN" | "BETWEEN" | "OPERATOR" => Binding.between.strength d
  | "LIKE" | "ILIKE" | "RLIKE" | "REGEXP" | "SIMILAR" => Binding.like.strength d
  | "DIV" => Binding.product.strength d
  | "COLLATE" => if d = .postgres then 120 else 0
  | _ => 0

/-- How strongly the next token binds as an operator; 0 if it is none. -/
def nextStrength (d : Dialect) : Parser Nat := do
  match ← peek with
  | some (.word _ key) =>
    return keywordStrength d key (keyOf (← peekNth 1)) (keyOf (← peekNth 2))
  | some (.symbol s) => return symbolStrength d s
  | some (.operator _) => return Binding.other.strength d
  | _ => return 0

/-- The printed form of a symbol that joins two operands. -/
def joiningSymbol? (d : Dialect) (s : String) : Option String :=
  if s = "==" then some "="
  else if ["<=>", "=", "<>", ">", ">=", "<", "<=", "+", "-", "*", "%", "||", "|", "^", "&", "/", "~",
      "~*", "!~", "!~*", "~~", "~~*", "!~~", "!~~*", "->", "->>", "#>", "#>>", "@>", "<@", "#-", "@?",
      "@@", "?", "?&", "?|"].contains s then some s
  else if s = "//" then if d = .generic then some s else none
  else if ["<<", ">>", "&&", "^@"].contains s then if d = .mysql then none else some s
  else if s = "#" then if d = .postgres then some s else none
  else none

/-- The name of an operator between parentheses, as printed. -/
def operatorParts : Nat → Parser (List String)
  | 0 => fail
  | fuel + 1 => do
    let t ← next
    if ← symbol "." then return t.print :: (← operatorParts fuel)
    else return [t.print]

/-- The operator that joins two operands, as printed, if the next token is one; it is taken. -/
def joiningOperator? (r : Rules) : Parser (Option String) := do
  match ← peek with
  | some (.symbol s) =>
    match joiningSymbol? r.dialect s with
    | some op =>
      skip
      return some op
    | none => return none
  | some (.operator s) =>
    if r.isMysql then return none
    else
      skip
      return some s
  | some (.word _ key) =>
    if ["AND", "OR", "XOR"].contains key then
      skip
      return some key
    else if key = "OPERATOR" && !r.isMysql then
      skip
      let parts ← parenthesized fun ts => operatorParts (ts.length + 1) ts
      return some ("OPERATOR(" ++ ".".intercalate parts ++ ")")
    else return none
  | _ => return none

/-- The right operand of a joining operator, which may be quantified. -/
def joinedForm (r : Rules) (strength : Nat) (left : Expr) (op : String) : Parser Expr := do
  match ← oneOf ["ANY", "ALL", "SOME"] with
  | none =>
    return form [piece left, words (" " ++ op ++ " "), piece (← r.tighter strength)]
  | some quantifier =>
    let inner ← peekNth 1
    let right ← if (← peekSymbol "(") && ["SELECT", "WITH"].contains (keyOf inner) then
        r.tighter strength
      else parenthesized (r.tighter strength)
    if !quantifiable.contains op then fail
    let right := match right with
      | .subquery _ => piece right
      | _ => .text "(" (.expr right (words ")"))
    return form [piece left, words (" " ++ op ++ " " ++ quantifier), right]

/-- What may be said of an expression after `IS`. -/
def isForm (r : Rules) (left : Expr) : Parser Expr := do
  let fixed := [["NULL"], ["NOT", "NULL"], ["TRUE"], ["NOT", "TRUE"], ["FALSE"], ["NOT", "FALSE"],
    ["UNKNOWN"], ["NOT", "UNKNOWN"]]
  let ts ← get
  let holds := fun (ks : List String) => (ts.take ks.length).map (fun t => keyOf (some t)) == ks
  match fixed.find? holds with
  | some ks =>
    set (ts.drop ks.length)
    return form [piece left, words (" IS " ++ " ".intercalate ks)]
  | none =>
    if ← keywords ["DISTINCT", "FROM"] then
      return form [piece left, words " IS DISTINCT FROM ", piece (← r.expr)]
    else if ← keywords ["NOT", "DISTINCT", "FROM"] then
      return form [piece left, words " IS NOT DISTINCT FROM ", piece (← r.expr)]
    else fail

/-- Membership in a list, a query or an array. -/
def inForm (r : Rules) (left : Expr) (negation : String) : Parser Expr := do
  if ← keyword "UNNEST" then
    let e ← parenthesized r.expr
    return form [piece left, words (negation ++ " IN UNNEST("), piece e, words ")"]
  else
    let body ← parenthesized (do
      if ← Rules.queryFollows then r.query else return Pieces.exprs (← r.exprs))
    return form [piece left, words (negation ++ " IN ("), body, words ")"]

/-- What follows `BETWEEN`: two bounds. -/
def betweenForm (r : Rules) (left : Expr) (negation : String) : Parser Expr := do
  let low ← r.above .between
  expectKeyword "AND"
  let high ← r.above .between
  return form
    [piece left, words (negation ++ " BETWEEN "), piece low, words " AND ", piece high]

/-- The escape character of a pattern, if one is given. -/
def escapeClause (d : Dialect) : Parser String := do
  if ← keyword "ESCAPE" then return " ESCAPE '" ++ (← literalText d) ++ "'"
  else return ""

/-- A match against a pattern, after its keyword. -/
def patternForm (r : Rules) (left : Expr) (lead : String) (escapes : Bool) : Parser Expr := do
  let pattern ← r.above .like
  let escape ← if escapes then escapeClause r.dialect else pure ""
  return form [piece left, words lead, piece pattern, words escape]

/-- A test that may be negated: membership, a range or a pattern. -/
def testForm (r : Rules) (left : Expr) : Parser Expr := do
  let negation := if ← keyword "NOT" then " NOT" else ""
  if ← keyword "REGEXP" then
    -- the other word may follow and is passed over
    let _ ← keyword "RLIKE"
    patternForm r left (negation ++ " REGEXP ") false
  else if ← keyword "RLIKE" then patternForm r left (negation ++ " RLIKE ") false
  else if ← keyword "IN" then inForm r left negation
  else if ← keyword "BETWEEN" then betweenForm r left negation
  else if ← keyword "LIKE" then
    let any := if ← keyword "ANY" then "ANY " else ""
    patternForm r left (negation ++ " LIKE " ++ any) true
  else if ← keyword "ILIKE" then
    let any := if ← keyword "ANY" then "ANY " else ""
    patternForm r left (negation ++ " ILIKE " ++ any) true
  else if ← keywords ["SIMILAR", "TO"] then patternForm r left (negation ++ " SIMILAR TO ") true
  else fail

/-- A subscript after its opening bracket, through the closing one: an index or a slice. -/
def subscript (r : Rules) : Parser Pieces := do
  let low ← if ← symbol ":" then pure none else pure (some (← r.expr))
  match low with
  | some e =>
    if ← symbol "]" then return piece e
    expect ":"
  | none => if ← symbol "]" then return words ":"
  let lowPiece := (low.map piece).getD .nil
  if ← symbol "]" then return lowPiece ++ words ":"
  let high ← r.expr
  if ← symbol "]" then return lowPiece ++ .text ":" (piece high)
  expect ":"
  if ← symbol "]" then return lowPiece ++ .text ":" (piece high)
  let stride ← r.expr
  expect "]"
  return lowPiece ++ .text ":" (.expr high (.text ":" (piece stride)))

/-- The form an operator makes of the expression on its left; the operator is the next token. -/
def operatorForm (r : Rules) (strength : Nat) (left : Expr) : Parser Expr := do
  if r.isMysql then
    if ← keyword "DIV" then
      return form [piece left, words " DIV ", piece (← r.expr)]
  match ← joiningOperator? r with
  | some op => joinedForm r strength left op
  | none =>
    match ← peek with
    | some (.word _ key) =>
      if key = "IS" then
        skip
        isForm r left
      else if key = "AT" then
        expectKeywords ["AT", "TIME", "ZONE"]
        return form [piece left, words " AT TIME ZONE ", piece (← r.tighter strength)]
      else testForm r left
    | some (.symbol "::") =>
      skip
      return .cast .colons left (← TypeName.read r.dialect).text ""
    | some (.symbol "!") =>
      skip
      return form [piece left, words "!"]
    | some (.symbol "[") =>
      skip
      if r.isMysql then
        let key ← r.expr
        expect "]"
        return form [piece left, words "[", piece key, words "]"]
      else return form [piece left, words "[", ← subscript r, words "]"]
    | _ => fail

/-- Operators after an expression, as long as they bind more strongly than `strength`; `fuel` bounds
their number. -/
def chain (r : Rules) (strength : Nat) : Nat → Expr → Parser Expr
  | 0, _ => fail
  | fuel + 1, left => do
    let s ← nextStrength r.dialect
    if s ≤ strength then return left
    else chain r strength fuel (← operatorForm r s left)

/-- A term and the operators after it. -/
def chained (r : Rules) (strength : Nat) : Parser Expr := fun ts =>
  (do chain r strength (ts.length + 1) (← term r (ts.length + 1))) ts

/-- The rules where `depth` more expressions or queries may be opened. -/
def rulesAt (d : Dialect) : Nat → Rules
  | 0 => { dialect := d, tighter := fun _ => throw .tooDeep, query := throw .tooDeep }
  | depth + 1 =>
    let inner := rulesAt d depth
    { dialect := d, tighter := chained inner, query := wholeQuery inner }

/-- How deeply expressions, queries and statements may be nested. -/
def maxDepth : Nat := 50

end SchemaBridge.Sql
