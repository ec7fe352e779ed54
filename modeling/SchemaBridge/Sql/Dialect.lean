/-
# Dialects of SQL

What the lexer and the grammar have to know of a dialect: the characters of its names and
operators, and how tightly its operators bind.
-/
import SchemaBridge.Schema.Dialect
import SchemaBridge.Text.Casing

namespace SchemaBridge.Sql

/-- The dialect of SQL a text is written in. -/
inductive Dialect
  /-- The common ground, for sources that have no SQL of their own. -/
  | generic
  | mysql
  | postgres
  deriving DecidableEq, Repr, Inhabited

namespace Dialect

/-- The dialect expressions of a source are written in. -/
def ofSource : SourceDialect → Dialect
  | .postgres => postgres
  | .mysql => mysql
  | .dynamo => generic

/-- Characters a name may begin with. -/
def startsName (d : Dialect) (c : Char) : Bool :=
  match d with
  | generic => Text.isLetter c || c == '_' || c == '#' || c == '@'
  | mysql =>
    Text.isLetter c || c == '_' || c == '$' || c == '@' || (0x80 ≤ c.toNat && c.toNat ≤ 0xFFFF)
  | postgres => Text.isLetter c || c == '_'

/-- Characters a name may go on with. -/
def continuesName (d : Dialect) (c : Char) : Bool :=
  match d with
  | generic =>
    Text.isLetter c || c.isDigit || c == '@' || c == '$' || c == '#' || c == '_'
  | mysql => d.startsName c || c.isDigit
  | postgres => Text.isLetter c || c.isDigit || c == '$' || c == '_'

/-- Characters that open a quoted name. -/
def quotesName (d : Dialect) (c : Char) : Bool :=
  match d with
  | generic => c == '"' || c == '\x60'
  | mysql => c == '\x60'
  | postgres => c == '"'

/-- Characters an operator may go on with where operators can be defined. -/
def continuesOperator (d : Dialect) (c : Char) : Bool :=
  d = postgres && "+-*/<>=~!@#%^&|\x60?".toList.contains c

/-- Whether a backslash in a string escapes the character after it. -/
def escapesInStrings (d : Dialect) : Bool := d = mysql

end Dialect

/-- How tightly an operator binds, by kind of operator. -/
inductive Binding
  | cast
  | atTimeZone
  | product
  | sum
  | xor
  | ampersand
  | caret
  | bar
  | between
  | comparison
  | like
  | is
  | other
  | not
  | and
  | or
  deriving DecidableEq, Repr, Inhabited

namespace Binding

/-- The strength of a kind of operator; a stronger one takes its operands first. -/
def strength (d : Dialect) (b : Binding) : Nat :=
  match d with
  | .postgres =>
    match b with
    | cast => 140
    | atTimeZone => 110
    | caret => 100
    | product => 90
    | sum => 80
    | xor => 75
    | ampersand | bar | other => 70
    | between | like => 60
    | comparison => 50
    | is => 40
    | not => 30
    | and => 20
    | or => 10
  | _ =>
    match b with
    | cast => 50
    | atTimeZone => 41
    | product => 40
    | sum => 30
    | xor => 24
    | ampersand => 23
    | caret => 22
    | bar => 21
    | between | comparison => 20
    | like => 19
    | is => 17
    | other => 16
    | not => 15
    | and => 10
    | or => 5

end Binding

end SchemaBridge.Sql
