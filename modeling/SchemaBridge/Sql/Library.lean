/-
# Libraries for SQL

Expressions are read, visited and printed by a library.  Whatever its trees are, three things make up
an expression: its head, which is what a translation looks at and may change, the expressions inside
it, and its frame, which is all else.  The grammar and the trees here are such a library (`library`).

## Key statements

* `Library.expression?`: the expression at the front of a text.
-/
import SchemaBridge.Sql.Grammar

namespace SchemaBridge.Sql

/-- What stands at the head of an expression, as far as a translation may change it. -/
inductive Head
  /-- A column, qualified or not. -/
  | name (parts : List Ident)
  /-- A literal between quotes. -/
  | literal (kind : LiteralKind) (value : String)
  /-- A cast; the type is given as printed. -/
  | cast (kind : CastKind) (type : String)
  /-- A function call, and whether there is a list of arguments after the name. -/
  | call (function : List Ident) (hasArguments : Bool)
  /-- Any other form. -/
  | other
  deriving DecidableEq, Repr, Inhabited

/-- What is used of a library for SQL to translate expressions. -/
structure Library where
  /-- Expressions. -/
  Tree : Type
  /-- What an expression has besides its head and the expressions inside it. -/
  Frame : Type
  head : Tree → Head
  frame : Tree → Frame
  /-- The expressions directly inside an expression, in order. -/
  children : Tree → List Tree
  /-- Put a head of the same kind in place of that of an expression. -/
  withHead : Tree → Head → Tree
  /-- Have a visitor change the expressions of a tree. -/
  visit : (Tree → Tree) → Tree → Tree
  print : Tree → String
  printIdent : Ident → String
  Token : Type
  /-- Cut a text into tokens. -/
  tokens? : Dialect → String → Option (List Token)
  /-- Read an expression from the front; with it come the tokens that are left. -/
  front? : Dialect → List Token → Option (Tree × List Token)

namespace Library

/-- A qualified name as printed. -/
def printName (L : Library) (parts : List Ident) : String :=
  ".".intercalate (parts.map L.printIdent)

/-- The expression at the front of a text; what follows it is not read. -/
def expression? (L : Library) (d : Dialect) (text : String) : Option L.Tree := do
  let ts ← L.tokens? d text
  return (← L.front? d ts).1

end Library

/-! ## The library here -/

namespace Expr

/-- What an expression has besides its head and the expressions inside it: the words of its form. -/
inductive Frame
  | name
  | literal
  | cast (format : String)
  | call (arguments tail : List (Option String))
  | subquery (query : List (Option String))
  | form (pieces : List (Option String))
  deriving DecidableEq, Repr, Inhabited

/-- What stands at the head of an expression. -/
def head : Expr → Head
  | name parts => .name parts
  | literal kind value => .literal kind value
  | cast kind _ type _ => .cast kind type
  | call function arguments _ => .call function arguments.isSome
  | subquery _ | form _ => .other

/-- The words of an expression around those inside it. -/
def frame : Expr → Frame
  | name _ => .name
  | literal _ _ => .literal
  | cast _ _ _ format => .cast format
  | call _ arguments tail => .call (arguments.getD .nil).outline tail.outline
  | subquery query => .subquery query.outline
  | form pieces => .form pieces.outline

/-- An expression with another head of the same kind; of a call without arguments it may make one with
none between its parentheses. -/
def withHead : Expr → Head → Expr
  | name _, .name parts => name parts
  | literal _ _, .literal kind value => literal kind value
  | cast _ operand _ format, .cast kind type => cast kind operand type format
  | call _ arguments tail, .call function given =>
    call function (if given then some (arguments.getD .nil) else none) tail
  | e, _ => e

/-- Read an expression from the front of tokens. -/
def front? (d : Dialect) (ts : List Token) : Option (Expr × List Token) :=
  ((rulesAt d maxDepth).expr ts).toOption

end Expr

/-- The grammar and the trees here. -/
def library : Library where
  Tree := Expr
  Frame := Expr.Frame
  head := Expr.head
  frame := Expr.frame
  children := Expr.children
  withHead := Expr.withHead
  visit := Expr.mapNodes
  print := Expr.print
  printIdent := Ident.print
  Token := Token
  tokens? := tokens?
  front? := Expr.front?

end SchemaBridge.Sql
