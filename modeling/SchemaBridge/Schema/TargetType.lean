/-
# Target types

The type system of the target: ten scalar kinds, a length for strings and bytes, and arrays of one
level.  A type is written differently in the two target dialects.
-/
import SchemaBridge.Schema.Dialect

namespace SchemaBridge

/-- Scalar kinds of the target. -/
inductive TargetKind
  | bool
  | int64
  | float32
  | float64
  | numeric
  | string
  | bytes
  | date
  | timestamp
  | json
  deriving DecidableEq, Repr, Inhabited

namespace TargetKind

/-- The kind's name in sessions. -/
def name : TargetKind → String
  | bool => "bool"
  | int64 => "int64"
  | float32 => "float32"
  | float64 => "float64"
  | numeric => "numeric"
  | string => "string"
  | bytes => "bytes"
  | date => "date"
  | timestamp => "timestamp"
  | json => "json"

/-- All kinds of types. -/
def all : List TargetKind :=
  [bool, int64, float32, float64, numeric, string, bytes, date, timestamp, json]

/-- The kind of a name. -/
def ofName? (s : String) : Option TargetKind := all.find? (·.name == s)

/-- A kind is found again by its name. -/
theorem ofName?_name (k : TargetKind) : ofName? k.name = some k := by
  cases k <;> decide

end TargetKind

/-- A type of the target. -/
structure TargetType where
  /-- Scalar kind, of the elements for an array. -/
  kind : TargetKind
  /-- Declared length of a string or bytes type; none means unbounded. -/
  length : Option Nat
  /-- Whether this is an array of the scalar type. -/
  array : Bool
  deriving DecidableEq, Repr, Inhabited

/-- How well a source type or constraint survives the mapping. -/
inductive Confidence
  | exact
  | lossy
  | unsupported
  deriving DecidableEq, Repr, Inhabited

namespace Confidence

/-- The confidence's name in sessions and reports. -/
def name : Confidence → String
  | exact => "exact"
  | lossy => "lossy"
  | unsupported => "unsupported"

/-- The confidence of a name. -/
def ofName? : String → Option Confidence
  | "exact" => some exact
  | "lossy" => some lossy
  | "unsupported" => some unsupported
  | _ => none

/-- A confidence is found again by its name. -/
theorem ofName?_name (c : Confidence) : ofName? c.name = some c := by
  cases c <;> rfl

end Confidence

namespace TargetType

/-- Largest declared length of a string type. -/
def maxStringLength : Nat := 2621440

/-- Largest declared length of a bytes type. -/
def maxBytesLength : Nat := 10485760

/-- A type without a length. -/
def scalar (k : TargetKind) : TargetType := ⟨k, none, false⟩

/-- A length between 1 and `limit`; any other is unbounded. -/
def boundedLength (limit : Nat) (n : Option Nat) : Option Nat :=
  n.filter fun n => 0 < n && n ≤ limit

/-- Text of at most so many characters. -/
def string (n : Option Nat) : TargetType := ⟨.string, boundedLength maxStringLength n, false⟩

/-- At most so many bytes. -/
def bytes (n : Option Nat) : TargetType := ⟨.bytes, boundedLength maxBytesLength n, false⟩

/-- Arrays of a type. -/
def asArray (t : TargetType) : TargetType := { t with array := true }

/-- Whether the target allows the type in a key. -/
def isKeyable (t : TargetType) : Bool := !t.array && t.kind != .json

/-- The type of the elements of an array. -/
def element (t : TargetType) : TargetType := { t with array := false }

/-- Scalar type as GoogleSQL writes it. -/
def renderGoogle (t : TargetType) : String :=
  let length := (t.length.map Text.decimal).getD "MAX"
  match t.kind with
  | .bool => "BOOL"
  | .int64 => "INT64"
  | .float32 => "FLOAT32"
  | .float64 => "FLOAT64"
  | .numeric => "NUMERIC"
  | .string => "STRING(" ++ length ++ ")"
  | .bytes => "BYTES(" ++ length ++ ")"
  | .date => "DATE"
  | .timestamp => "TIMESTAMP"
  | .json => "JSON"

/-- Scalar type as the PostgreSQL interface writes it. -/
def renderPostgres (t : TargetType) : String :=
  match t.kind with
  | .bool => "boolean"
  | .int64 => "bigint"
  | .float32 => "real"
  | .float64 => "double precision"
  | .numeric => "numeric"
  | .string => match t.length with
    | some n => "varchar(" ++ Text.decimal n ++ ")"
    | none => "text"
  | .bytes => "bytea"
  | .date => "date"
  | .timestamp => "timestamptz"
  | .json => "jsonb"

/-- The type as written in a dialect. -/
def render (d : TargetDialect) (t : TargetType) : String :=
  match d with
  | .google => if t.array then "ARRAY<" ++ t.renderGoogle ++ ">" else t.renderGoogle
  | .postgres => if t.array then t.renderPostgres ++ "[]" else t.renderPostgres

end TargetType

end SchemaBridge
