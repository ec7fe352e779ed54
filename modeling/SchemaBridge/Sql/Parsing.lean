/-
# Reading tokens

A parser takes the tokens that are left and returns a value and the tokens after it.  It fails on an
unexpected token, or because expressions are nested too deeply; an attempt (`attempt`) turns the
first kind of failure into `none` and passes the second on.
-/
import SchemaBridge.Sql.Keyword
import SchemaBridge.Sql.Lexer
import SchemaBridge.Sql.Tree

namespace SchemaBridge.Sql

/-- Why a parser fails. -/
inductive Failure
  | unexpected
  | tooDeep
  deriving DecidableEq, Repr, Inhabited

/-- A parser takes tokens from the front, or fails. -/
abbrev Parser (α : Type) := StateT (List Token) (Except Failure) α

namespace Parser

/-- The tokens are not what is asked for. -/
def fail {α : Type} : Parser α := throw .unexpected

/-- Run a parser; where it does not fit, leave the tokens as they are. -/
def attempt {α : Type} (p : Parser α) : Parser (Option α) := fun ts =>
  match p ts with
  | .ok (a, rest) => .ok (some a, rest)
  | .error .tooDeep => .error .tooDeep
  | .error .unexpected => .ok (none, ts)

/-- The next token, which is left there. -/
def peek : Parser (Option Token) := fun ts => .ok (ts.head?, ts)

/-- The token after a number of others. -/
def peekNth (n : Nat) : Parser (Option Token) := fun ts => .ok (ts[n]?, ts)

/-- Take the next token; there must be one. -/
def next : Parser Token := fun ts =>
  match ts with
  | t :: r => .ok (t, r)
  | [] => .error .unexpected

/-- Take the next token. -/
def skip : Parser Unit := fun ts => .ok ((), ts.tail)

/-- The key of a token that is a name without quotes. -/
def keyOf : Option Token → String
  | some (.word _ key) => key
  | _ => ""

/-- Whether a token is this symbol. -/
def isSymbol (s : String) : Option Token → Bool
  | some (.symbol t) => t == s
  | _ => false

/-- The key of the next token. -/
def peekKey : Parser String := return keyOf (← peek)

/-- Whether this symbol is next. -/
def peekSymbol (s : String) : Parser Bool := return isSymbol s (← peek)

/-- Take the next token if it is a keyword. -/
def keyword (k : String) : Parser Bool := do
  if (← peekKey) == k then
    skip
    return true
  else return false

/-- Take the next tokens if they are these keywords in a row. -/
def keywords (ks : List String) : Parser Bool := fun ts =>
  if ts.take ks.length |>.map (fun t => keyOf (some t)) |> (· == ks) then
    .ok (true, ts.drop ks.length)
  else .ok (false, ts)

/-- Take the next token if it is one of some keywords. -/
def oneOf (ks : List String) : Parser (Option String) := do
  let k ← peekKey
  if ks.contains k then
    skip
    return some k
  else return none

/-- Take this keyword, which must be next. -/
def expectKeyword (k : String) : Parser Unit := do
  if !(← keyword k) then fail

/-- Take these keywords, which must be next. -/
def expectKeywords (ks : List String) : Parser Unit := do
  if !(← keywords ks) then fail

/-- Take the next token if it is a symbol. -/
def symbol (s : String) : Parser Bool := do
  if ← peekSymbol s then
    skip
    return true
  else return false

/-- Take this symbol, which must be next. -/
def expect (s : String) : Parser Unit := do
  if !(← symbol s) then fail

/-- Something between parentheses. -/
def parenthesized {α : Type} (p : Parser α) : Parser α := do
  expect "("
  let a ← p
  expect ")"
  return a

/-- Items separated by commas; `fuel` bounds their number. -/
def commaItems {α : Type} (p : Parser α) : Nat → Parser (List α)
  | 0 => fail
  | fuel + 1 => do
    let a ← p
    if ← symbol "," then return a :: (← commaItems p fuel)
    else return [a]

/-- One or more items separated by commas. -/
def commaSeparated {α : Type} (p : Parser α) : Parser (List α) := fun ts =>
  commaItems p (ts.length + 1) ts

/-- Apply a parser as long as it yields something; `fuel` bounds how often. -/
def repeatFuel {α : Type} (p : Parser (Option α)) : Nat → Parser (List α)
  | 0 => return []
  | fuel + 1 => do
    match ← p with
    | some a => return a :: (← repeatFuel p fuel)
    | none => return []

/-- Apply a parser as long as it yields something. -/
def many {α : Type} (p : Parser (Option α)) : Parser (List α) := fun ts =>
  repeatFuel p (ts.length + 1) ts

/-! ## Names and literals -/

/-- A name; a string between quotes counts as one. -/
def ident : Parser Ident := do
  match ← next with
  | .word i _ => return i
  | .literal .single s => return ⟨s, some '\''⟩
  | .literal .double s => return ⟨s, some '"'⟩
  | _ => fail

/-- The parts of a qualified name after the first; `fuel` bounds their number. -/
def nameParts : Nat → Parser (List Ident)
  | 0 => return []
  | fuel + 1 => do
    if ← symbol "." then
      let i ← ident
      return i :: (← nameParts fuel)
    else return []

/-- A qualified name. -/
def objectName : Parser (List Ident) := fun ts =>
  (do return (← ident) :: (← nameParts ts.length)) ts

/-- A whole number of 64 bits. -/
def wholeNumber : Parser String := do
  match ← next with
  | .number t _ =>
    match Text.readNat? t.toList with
    | some n => if n ≤ 18446744073709551615 then return Text.decimal n else fail
    | none => fail
  | _ => fail

/-- The name of a parameter after the sign that marks it: a word or a number without a suffix. -/
def parameterName : Parser String := do
  match ← next with
  | .word i _ => return i.value
  | .number t false => return t
  | _ => fail

/-- A string, or a word that is no keyword. -/
def literalText (d : Dialect) : Parser String := do
  match ← next with
  | .word i key => if isKeyword key then fail else return i.value
  | .literal .single s | .literal .double s | .literal .unicode s => return s
  | .literal .escaped s => if d = .mysql then fail else return s
  | _ => fail

/-- Names between parentheses. -/
def columnNames : Parser (List Ident) := parenthesized (commaSeparated ident)

/-- Names between parentheses, or none. -/
def optionalColumnNames : Parser (List Ident) := do
  if ← peekSymbol "(" then columnNames else return []

end Parser

/-- Names with commas between them. -/
def printNames (is : List Ident) : String := ", ".intercalate (is.map (·.print))

end SchemaBridge.Sql
