/-
# Requests to the target

A request asks the target whether it can plan an expression.  The table is stood in for by a derived
table of typed nulls, so a check reads and writes nothing.  What comes back of the requests that were
sent comes in any order, and some of it may be missing when the run is cancelled.
-/
import SchemaBridge.Schema.Identifier
import SchemaBridge.Schema.Model

namespace SchemaBridge.Verification

/-- An expression in the target's SQL, with what the target has to know to check it. -/
structure Request where
  dialect : TargetDialect
  /-- Text of the expression. -/
  text : String
  kind : ExpressionKind
  /-- Type the expression has to have. -/
  expected : TargetType
  /-- Name of the table it belongs to. -/
  table : String
  /-- Columns it may name, with their types. -/
  columns : List (String × TargetType)
  deriving DecidableEq, Repr, Inhabited

namespace Request

/-- A typed null under the name of a column. -/
def nullColumn (d : TargetDialect) (column : String × TargetType) : Outcome String := do
  return "CAST(NULL AS " ++ column.2.render d ++ ") AS " ++ (← Identifier.quote d column.1)

/-- The columns of the derived table. -/
def derivedColumns (r : Request) : Outcome String := do
  if r.columns.isEmpty then return "SELECT 1 AS " ++ (← Identifier.quote r.dialect "_check")
  else return "SELECT " ++ ", ".intercalate (← r.columns.mapM (nullColumn r.dialect))

/-- The constant for false. -/
def never : TargetDialect → String
  | .google => "FALSE"
  | .postgres => "false"

/-- The query by which the target checks the expression. -/
def query (r : Request) : Outcome String := do
  let columns ← r.derivedColumns
  return "SELECT CAST((" ++ r.text ++ ") AS " ++ r.expected.render r.dialect ++ ") FROM (" ++ columns
    ++ ") AS " ++ (← Identifier.quote r.dialect r.table) ++ " WHERE " ++ never r.dialect

end Request

/-! ## Answers -/

/-- What becomes of a request that was sent. -/
inductive Answer
  | accepted
  /-- The target refused the expression. -/
  | rejected (message : String)
  /-- The target could not be asked. -/
  | failed (error : ConvertError)
  /-- No answer came in time. -/
  | timedOut
  deriving DecidableEq, Repr, Inhabited

/-- A request that is done with, by its position.  One that came to its turn after the run had been
cancelled has no answer. -/
structure Completion where
  position : Nat
  request : Request
  answer : Option Answer
  deriving DecidableEq, Repr, Inhabited

/-- The request that was answered, with its answer. -/
def Completion.finished? (k : Completion) : Option (Request × Answer) :=
  k.answer.map fun a => (k.request, a)

/-- What a run collects. -/
structure Collection where
  /-- In the order in which they came. -/
  completions : List Completion
  /-- Whether the run was cancelled before it was through. -/
  aborted : Bool
  deriving DecidableEq, Repr, Inhabited

/-- The completions in the order of their positions. -/
def Collection.inOrder (c : Collection) : List Completion :=
  c.completions.mergeSort fun a b => a.position ≤ b.position

/-- Take the first of some completions if it is at a position. -/
def nextIf (position : Nat) : List Completion → Option Completion × List Completion
  | [] => (none, [])
  | k :: r => if k.position = position then (some k, r) else (none, k :: r)

end SchemaBridge.Verification
