/-
# Expression trees

An expression is a name, a literal, a cast, a function call, a subquery, or one of the many forms
of SQL that are fixed words with expressions between them.  A form is kept as the list of its
pieces, so that printing joins them and a change of expressions reaches every one inside.

## Key statements

* `mapNodes_id`: applying the identity everywhere changes nothing.
-/
import SchemaBridge.Sql.Token

namespace SchemaBridge.Sql

/-- How a cast is written. -/
inductive CastKind
  /-- `CAST(e AS t)`. -/
  | cast
  | tryCast
  | safeCast
  /-- `e::t`. -/
  | colons
  deriving DecidableEq, Repr, Inhabited

mutual

/-- An expression.  What is neither a name, a literal, a cast nor a call is words and expressions in
a row. -/
inductive Expr
  /-- A column, qualified or not. -/
  | name (parts : List Ident)
  /-- A literal between quotes. -/
  | literal (kind : LiteralKind) (value : String)
  | cast (kind : CastKind) (operand : Expr) (type format : String)
  /-- A function call; without an argument list its name stands alone.  `tail` is what follows the
  arguments, such as a window. -/
  | call (name : List Ident) (arguments : Option Pieces) (tail : Pieces)
  /-- A query between parentheses. -/
  | subquery (query : Pieces)
  /-- Words with expressions between them. -/
  | form (pieces : Pieces)

/-- Parts of a form, in order. -/
inductive Pieces
  | nil
  | text (s : String) (rest : Pieces)
  | expr (e : Expr) (rest : Pieces)

end

instance : Inhabited Expr := ⟨.name []⟩

instance : Inhabited Pieces := ⟨.nil⟩

namespace Pieces

/-- Pieces after pieces. -/
def append : Pieces → Pieces → Pieces
  | nil, q => q
  | text s r, q => text s (append r q)
  | expr e r, q => expr e (append r q)

instance : Append Pieces := ⟨append⟩

instance : Coe String Pieces := ⟨fun s => .text s .nil⟩

instance : Coe Expr Pieces := ⟨fun e => .expr e .nil⟩

/-- Join lists of pieces. -/
def join (ps : List Pieces) : Pieces := ps.foldr append nil

/-- Join lists of pieces with a text between them. -/
def separated (separator : String) : List Pieces → Pieces
  | [] => nil
  | [p] => p
  | p :: q :: r => p ++ (.text separator nil : Pieces) ++ separated separator (q :: r)

/-- Pieces separated by commas. -/
def commas (ps : List Pieces) : Pieces := separated ", " ps

/-- Expressions separated by commas. -/
def exprs (es : List Expr) : Pieces := commas (es.map fun e => .expr e nil)

/-- Whether there are no pieces. -/
def isEmpty : Pieces → Bool
  | nil => true
  | _ => false

end Pieces

/-! ## What an expression consists of -/

namespace Pieces

/-- The expressions of pieces, in order. -/
def children : Pieces → List Expr
  | nil => []
  | text _ rest => rest.children
  | expr e rest => e :: rest.children

/-- The words of pieces, with a gap for every expression. -/
def outline : Pieces → List (Option String)
  | nil => []
  | text s rest => some s :: rest.outline
  | expr _ rest => none :: rest.outline

/-- No pieces have no expressions. -/
@[simp] theorem children_nil : nil.children = [] := rfl

/-- Words are no expression. -/
@[simp] theorem children_text (s : String) (p : Pieces) : (text s p).children = p.children := rfl

/-- An expression comes before those of the pieces after it. -/
@[simp] theorem children_expr (e : Expr) (p : Pieces) : (expr e p).children = e :: p.children := rfl

/-- No pieces have no words. -/
@[simp] theorem outline_nil : nil.outline = [] := rfl

/-- Words come before those of the pieces after them. -/
@[simp] theorem outline_text (s : String) (p : Pieces) :
    (text s p).outline = some s :: p.outline := rfl

/-- An expression leaves a gap. -/
@[simp] theorem outline_expr (e : Expr) (p : Pieces) : (expr e p).outline = none :: p.outline := rfl

end Pieces

/-- The expressions directly inside an expression, in order. -/
def Expr.children : Expr → List Expr
  | .name _ | .literal _ _ => []
  | .cast _ operand _ _ => [operand]
  | .call _ arguments tail => (arguments.getD .nil).children ++ tail.children
  | .subquery query => query.children
  | .form pieces => pieces.children

/-! ## Printing -/

mutual

/-- The text of an expression. -/
def Expr.print : Expr → String
  | .name parts => printName parts
  | .literal kind value => kind.print value
  | .cast kind operand type format =>
    match kind with
    | .cast => "CAST(" ++ operand.print ++ " AS " ++ type ++ format ++ ")"
    | .tryCast => "TRY_CAST(" ++ operand.print ++ " AS " ++ type ++ format ++ ")"
    | .safeCast => "SAFE_CAST(" ++ operand.print ++ " AS " ++ type ++ format ++ ")"
    | .colons => operand.print ++ "::" ++ type
  | .call name none tail => printName name ++ tail.print
  | .call name (some arguments) tail =>
    printName name ++ "(" ++ arguments.print ++ ")" ++ tail.print
  | .subquery query => "(" ++ query.print ++ ")"
  | .form pieces => pieces.print

/-- The text of pieces, one after another. -/
def Pieces.print : Pieces → String
  | .nil => ""
  | .text s rest => s ++ rest.print
  | .expr e rest => e.print ++ rest.print

end

/-! ## Changing every expression -/

mutual

/-- Apply a function to every expression of a tree, innermost first. -/
def Expr.mapNodes (f : Expr → Expr) : Expr → Expr
  | .name parts => f (.name parts)
  | .literal kind value => f (.literal kind value)
  | .cast kind operand type format => f (.cast kind (operand.mapNodes f) type format)
  | .call name none tail => f (.call name none (tail.mapNodes f))
  | .call name (some arguments) tail =>
    f (.call name (some (arguments.mapNodes f)) (tail.mapNodes f))
  | .subquery query => f (.subquery (query.mapNodes f))
  | .form pieces => f (.form (pieces.mapNodes f))

/-- Every expression of some pieces changed, those inside one before it. -/
def Pieces.mapNodes (f : Expr → Expr) : Pieces → Pieces
  | .nil => .nil
  | .text s rest => .text s (rest.mapNodes f)
  | .expr e rest => .expr (e.mapNodes f) (rest.mapNodes f)

end

mutual

/-- An expression in which nothing is changed. -/
theorem Expr.mapNodes_id (e : Expr) : e.mapNodes id = e := by
  match e with
  | .name _ => rfl
  | .literal _ _ => rfl
  | .cast _ operand _ _ => simp [Expr.mapNodes, operand.mapNodes_id]
  | .call _ none tail => simp [Expr.mapNodes, tail.mapNodes_id]
  | .call _ (some arguments) tail =>
    simp [Expr.mapNodes, arguments.mapNodes_id, tail.mapNodes_id]
  | .subquery query => simp [Expr.mapNodes, query.mapNodes_id]
  | .form pieces => simp [Expr.mapNodes, pieces.mapNodes_id]

/-- Pieces in which nothing is changed. -/
theorem Pieces.mapNodes_id (p : Pieces) : p.mapNodes id = p := by
  match p with
  | .nil => rfl
  | .text _ rest => simp [Pieces.mapNodes, rest.mapNodes_id]
  | .expr e rest => simp [Pieces.mapNodes, e.mapNodes_id, rest.mapNodes_id]

end

end SchemaBridge.Sql
