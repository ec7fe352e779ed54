/-
# Dialects

The database a schema is read from, and the two languages the distributed target understands.
-/
import SchemaBridge.Error
import SchemaBridge.Text.Casing

namespace SchemaBridge

/-- The database a schema comes from. -/
inductive SourceDialect
  | postgres
  | mysql
  | dynamo
  deriving DecidableEq, Repr, Inhabited

namespace SourceDialect

/-- The dialect's name in configurations and sessions. -/
def name : SourceDialect → String
  | postgres => "postgres"
  | mysql => "mysql"
  | dynamo => "dynamodb"

/-- The dialect a name stands for, ignoring case. -/
def parse (s : String) : Outcome SourceDialect :=
  match Text.lowerText s with
  | "postgres" | "postgresql" | "pg" => .ok postgres
  | "mysql" | "mariadb" => .ok mysql
  | "dynamodb" | "dynamo" => .ok dynamo
  | other => .error (.config ("unknown source dialect '" ++ other ++ "'"))

/-- The dialect whose canonical name this is. -/
def ofName? : String → Option SourceDialect
  | "postgres" => some postgres
  | "mysql" => some mysql
  | "dynamodb" => some dynamo
  | _ => none

/-- A dialect is found again by its name. -/
theorem ofName?_name (d : SourceDialect) : ofName? d.name = some d := by
  cases d <;> rfl

end SourceDialect

/-- The language target statements are written in. -/
inductive TargetDialect
  /-- `INT64`, `STRING(MAX)`, names between backticks. -/
  | google
  /-- `bigint`, `varchar`, names between double quotes. -/
  | postgres
  deriving DecidableEq, Repr, Inhabited

namespace TargetDialect

/-- The target's name in configurations and sessions. -/
def name : TargetDialect → String
  | google => "google_sql"
  | postgres => "postgresql"

/-- The target of a name. -/
def ofName? : String → Option TargetDialect
  | "google_sql" => some google
  | "postgresql" => some postgres
  | _ => none

/-- A target is found again by its name. -/
theorem ofName?_name (d : TargetDialect) : ofName? d.name = some d := by
  cases d <;> rfl

end TargetDialect

end SchemaBridge
