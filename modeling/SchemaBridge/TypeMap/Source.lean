/-
# Source types as canonical types

One reading per source dialect.  Declared numbers of 64 bits are kept in 32 bits: a length that is
too large becomes the largest one, and a precision or scale keeps its lowest 32 bits.
-/
import SchemaBridge.Schema.SourceType
import SchemaBridge.Schema.Word
import SchemaBridge.TypeMap.Canonical

namespace SchemaBridge.TypeMap

open CanonicalType

/-- The first parameter as a length, or `default` when it is absent or not positive. -/
def lengthOr (t : SourceType) (default : Nat) : Nat :=
  match t.modifier? 0 with
  | some n => if 0 < n then min n.toNat (wordSize - 1) else default
  | none => default

/-- The lowest 32 bits of a number, of 0 if it is negative. -/
def wordOf (n : Int) : Nat := n.toNat % wordSize

/-- Precision and scale as declared for a type that may have neither. -/
def declaredDecimal (t : SourceType) : CanonicalType :=
  decimal ((t.modifier? 0).map wordOf) ((t.modifier? 0).map fun _ => wordOf ((t.modifier? 1).getD 0))

/-- Reading of a PostgreSQL scalar type by its name. -/
def readPostgresScalar (t : SourceType) : Reading :=
  match t.name with
  | "bool" | "boolean" => .exact boolean
  | "int2" | "smallint" | "smallserial" | "serial2" => .exact int16
  | "int4" | "integer" | "int" | "serial" | "serial4" => .exact int32
  | "int8" | "bigint" | "bigserial" | "serial8" | "oid" => .exact int64
  | "float4" | "real" => .exact float32
  | "float8" | "double precision" => .exact float64
  | "float" =>
    match t.modifier? 0 with
    | some p => if p ≤ 24 then .exact float32 else .exact float64
    | none => .exact float64
  | "numeric" | "decimal" => .exact (declaredDecimal t)
  | "money" => .exact money
  | "char" | "character" | "bpchar" => .exact (char (lengthOr t 1))
  | "varchar" | "character varying" => .exact (varchar (lengthOr t 0))
  | "text" | "citext" => .exact text
  | "name" => .exact (varchar 63)
  | "bytea" => .exact blob
  | "date" => .exact date
  | "time" | "time without time zone" => .exact time
  | "timetz" | "time with time zone" => .exact timeTz
  | "timestamp" | "timestamp without time zone" => .exact dateTime
  | "timestamptz" | "timestamp with time zone" => .exact dateTimeTz
  | "interval" => .exact interval
  | "uuid" => .exact uuid
  | "json" => .exact json
  | "jsonb" => .exact jsonBinary
  | "xml" => .exact xml
  | "bit" => .exact (bit (lengthOr t 1))
  | "varbit" | "bit varying" => .exact (varBit (lengthOr t 0))
  | "inet" => .exact inetAddr
  | "cidr" => .exact cidrAddr
  | "macaddr" | "macaddr8" => .exact macAddr
  | "point" => .exact point
  | "line" | "lseg" => .exact line
  | "box" | "path" | "polygon" | "circle" => .exact polygon
  | "geometry" => .exact geometry
  | "geography" => .exact geography
  | "tsvector" => .exact tsVector
  | "tsquery" => .exact tsQuery
  | "int4range" | "int8range" | "numrange" | "tsrange" | "tstzrange" | "daterange" =>
    .exact (range t.name)
  | "enum" => .exact (enum t.values)
  | _ => .lossyBecause (unknown t.raw) ("Unknown PostgreSQL type '" ++ t.raw ++ "'.")

/-- A name without the underscores before it, each of which stands for an array level. -/
def readPostgresNamed (t : SourceType) : List Char → Reading
  | '_' :: base => (readPostgresNamed t base).asArray
  | name => readPostgresScalar { t with name := String.ofList name }

/-- Wrap a reading in array levels. -/
def nestArrays : Nat → Reading → Reading
  | 0, r => r
  | n + 1, r => (nestArrays n r).asArray

/-- Reading of a PostgreSQL type: declared array levels first, then the name. -/
def readPostgres (t : SourceType) : Reading :=
  nestArrays t.arrayDims (readPostgresNamed t t.name.toList)

/-- Reading of a MySQL type.  The words `unsigned`, `signed` and `zerofill` may stand anywhere in
the name. -/
def readMysql (t : SourceType) : Reading :=
  let words := Text.wordsOf t.name
  let unsigned := words.contains "unsigned"
  let base := " ".intercalate (words.filter fun w => ! ["unsigned", "signed", "zerofill"].contains w)
  match base with
  | "bool" | "boolean" => .exact boolean
  | "tinyint" =>
    if t.modifier? 0 = some 1 then
      .picked boolean "TINYINT(1) treated as boolean; values other than 0 and 1 would not survive."
    else if unsigned then .exact uint8 else .exact int16
  | "smallint" => .exact int16
  | "mediumint" => .exact int32
  | "int" | "integer" => if unsigned then .exact int64 else .exact int32
  | "bigint" => if unsigned then .exact uint64 else .exact int64
  | "float" =>
    match t.modifier? 0 with
    | some p => if p > 24 then .exact float64 else .exact float32
    | none => .exact float32
  | "double" | "double precision" | "real" => .exact float64
  | "decimal" | "numeric" | "dec" | "fixed" =>
    .exact (decimal (some (wordOf ((t.modifier? 0).getD 10)))
      (some (wordOf ((t.modifier? 1).getD 0))))
  | "char" => .exact (char (lengthOr t 1))
  | "varchar" => .exact (varchar (lengthOr t 0))
  | "tinytext" | "text" | "mediumtext" | "longtext" => .exact text
  | "binary" => .exact (binary (lengthOr t 1))
  | "varbinary" => .exact (varbinary (lengthOr t 0))
  | "tinyblob" | "blob" | "mediumblob" | "longblob" => .exact blob
  | "date" => .exact date
  | "time" => .exact time
  | "datetime" => .exact dateTime
  | "timestamp" => .exact dateTimeTz
  | "year" => .exact year
  | "json" => .exact json
  | "bit" => if lengthOr t 1 = 1 then .exact boolean else .exact (bit (lengthOr t 1))
  | "enum" => .exact (enum t.values)
  | "set" => .exact (.set t.values)
  | "geometry" | "point" | "linestring" | "polygon" | "multipoint" | "multilinestring"
  | "multipolygon" | "geometrycollection" => .exact geometry
  | _ => .lossyBecause (unknown t.raw) ("Unknown MySQL type '" ++ t.raw ++ "'.")

/-- Reading of a DynamoDB attribute type descriptor. -/
def readDynamo (t : SourceType) : Reading :=
  match t.name with
  | "s" => .exact text
  | "n" => .exact (decimal none none)
  | "b" => .exact blob
  | "bool" => .exact boolean
  | "ss" => .exact (array text)
  | "ns" => .exact (array (decimal none none))
  | "bs" => .exact (array blob)
  | "l" | "m" => .exact json
  | _ => .lossyBecause (unknown t.raw) ("Unknown DynamoDB attribute type '" ++ t.raw ++ "'.")

/-- Reading of a source type in its dialect. -/
def read (d : SourceDialect) (t : SourceType) : Reading :=
  match d with
  | .postgres => readPostgres t
  | .mysql => readMysql t
  | .dynamo => readDynamo t

end SchemaBridge.TypeMap
