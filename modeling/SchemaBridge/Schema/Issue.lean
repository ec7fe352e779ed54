/-
# Identifiers and issues

Tables, columns, indexes, foreign keys and checks are addressed by numbers that come from one
counter of the model.  The number of an object is wrapped in a type of its own, so that a column
cannot be taken for a table; its text begins with letters that name the kind.

What a conversion could not carry over exactly is recorded on the model: a category, a severity,
the stage that noticed it, the object it concerns and a sentence.
-/
import SchemaBridge.Text.Pattern

namespace SchemaBridge

/-! ## Identifiers -/

/-- Identifier of a table. -/
structure TableId where
  val : Nat
  deriving DecidableEq, Repr, Inhabited

/-- Identifier of a column. -/
structure ColumnId where
  val : Nat
  deriving DecidableEq, Repr, Inhabited

/-- Identifier of an index. -/
structure IndexId where
  val : Nat
  deriving DecidableEq, Repr, Inhabited

/-- Identifier of a foreign key. -/
structure ForeignKeyId where
  val : Nat
  deriving DecidableEq, Repr, Inhabited

/-- Identifier of a check. -/
structure CheckId where
  val : Nat
  deriving DecidableEq, Repr, Inhabited

/-- The identifier as messages show it. -/
def TableId.text (i : TableId) : String := "t" ++ Text.decimal i.val

/-- The identifier as messages show it. -/
def ColumnId.text (i : ColumnId) : String := "c" ++ Text.decimal i.val

/-- The identifier as messages show it. -/
def IndexId.text (i : IndexId) : String := "i" ++ Text.decimal i.val

/-- The identifier as messages show it. -/
def ForeignKeyId.text (i : ForeignKeyId) : String := "f" ++ Text.decimal i.val

/-- The identifier as messages show it. -/
def CheckId.text (i : CheckId) : String := "ck" ++ Text.decimal i.val

/-! ## Issues -/

/-- What kind of finding an issue is. -/
inductive IssueCategory
  /-- The target type cannot hold every source value exactly. -/
  | lossyType
  /-- Several target types fit; one was chosen. -/
  | ambiguousMapping
  /-- Related columns disagree on type. -/
  | typeMismatch
  /-- A constraint or column property the target cannot express. -/
  | unsupportedConstraint
  /-- A source object that is not converted. -/
  | unsupportedConstruct
  /-- Two source objects flattened to the same name. -/
  | nameCollision
  /-- A surrogate primary key was added. -/
  | syntheticKey
  /-- A reference to an object that is not in the model. -/
  | missingReference
  /-- The target refused a translated expression. -/
  | expressionRejected
  /-- Verification of an expression could not run. -/
  | verificationSkipped
  /-- The run was cancelled; the model is partial. -/
  | aborted
  deriving DecidableEq, Repr, Inhabited

/-- How much an issue matters. -/
inductive Severity
  | info
  | warning
  | error
  deriving DecidableEq, Repr, Inhabited

/-- The stage of a conversion that raised an issue. -/
inductive Stage
  | reader
  | mapper
  | verifier
  | pipeline
  deriving DecidableEq, Repr, Inhabited

namespace Severity

/-- The severity's name in sessions and reports. -/
def name : Severity → String
  | info => "info"
  | warning => "warning"
  | error => "error"

/-- The severity of a name. -/
def ofName? : String → Option Severity
  | "info" => some info
  | "warning" => some warning
  | "error" => some error
  | _ => none

/-- All severities, from the mildest on. -/
def all : List Severity := [info, warning, error]

/-- A severity is found again by its name. -/
theorem ofName?_name (s : Severity) : ofName? s.name = some s := by cases s <;> rfl

end Severity

namespace Stage

/-- The stage's name in sessions and reports. -/
def name : Stage → String
  | reader => "reader"
  | mapper => "mapper"
  | verifier => "verifier"
  | pipeline => "pipeline"

/-- The stage of a name. -/
def ofName? : String → Option Stage
  | "reader" => some reader
  | "mapper" => some mapper
  | "verifier" => some verifier
  | "pipeline" => some pipeline
  | _ => none

/-- A stage is found again by its name. -/
theorem ofName?_name (s : Stage) : ofName? s.name = some s := by cases s <;> rfl

end Stage

namespace IssueCategory

/-- The category's name in sessions and reports. -/
def name : IssueCategory → String
  | lossyType => "lossy-type"
  | ambiguousMapping => "ambiguous-mapping"
  | typeMismatch => "type-mismatch"
  | unsupportedConstraint => "unsupported-constraint"
  | unsupportedConstruct => "unsupported-construct"
  | nameCollision => "name-collision"
  | syntheticKey => "synthetic-key"
  | missingReference => "missing-reference"
  | expressionRejected => "expression-rejected"
  | verificationSkipped => "verification-skipped"
  | aborted => "aborted"

/-- Every category, in the order in which counts are listed. -/
def all : List IssueCategory :=
  [lossyType, ambiguousMapping, typeMismatch, unsupportedConstraint, unsupportedConstruct,
    nameCollision, syntheticKey, missingReference, expressionRejected, verificationSkipped, aborted]

/-- The category of a name. -/
def ofName? (s : String) : Option IssueCategory := all.find? (·.name == s)

/-- A category is found again by its name. -/
theorem ofName?_name (c : IssueCategory) : ofName? c.name = some c := by cases c <;> decide

/-- No category is left out of the list. -/
theorem mem_all (c : IssueCategory) : c ∈ all := by cases c <;> decide

/-- Severity of a finding whose stage does not choose one. -/
def severity : IssueCategory → Severity
  | syntheticKey | nameCollision => .info
  | expressionRejected | aborted => .error
  | _ => .warning

end IssueCategory

/-- The model object an issue concerns. -/
inductive IssueTarget
  | schema
  | table (table : TableId)
  | column (table : TableId) (column : ColumnId)
  | index (table : TableId) (index : IndexId)
  | foreignKey (table : TableId) (foreignKey : ForeignKeyId)
  | check (table : TableId) (check : CheckId)
  deriving DecidableEq, Repr, Inhabited

/-- The table an issue belongs to, if it is not about the whole schema. -/
def IssueTarget.table? : IssueTarget → Option TableId
  | .schema => none
  | .table t | .column t _ | .index t _ | .foreignKey t _ | .check t _ => some t

/-- One finding. -/
structure Issue where
  category : IssueCategory
  severity : Severity
  stage : Stage
  target : IssueTarget
  detail : String
  deriving DecidableEq, Repr, Inhabited

namespace Issue

/-- An issue with the severity of its category. -/
def raise (category : IssueCategory) (stage : Stage) (target : IssueTarget) (detail : String) :
    Issue :=
  ⟨category, category.severity, stage, target, detail⟩

/-- An issue that matters more or less than its category says. -/
def withSeverity (i : Issue) (s : Severity) : Issue := { i with severity := s }

/-- How an issue is shown. -/
def display (i : Issue) : String :=
  "[" ++ i.severity.name ++ "] " ++ i.category.name ++ ": " ++ i.detail

end Issue

/-- Number of issues of each category that occurs, in the order of the categories. -/
def issueCounts (issues : List Issue) : List (IssueCategory × Nat) :=
  IssueCategory.all.filterMap fun c =>
    let n := issues.countP fun i => i.category = c
    if n = 0 then none else some (c, n)

end SchemaBridge
