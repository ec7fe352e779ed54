/-
# Canonical types

The types every source dialect is read into and the target is chosen from.  A source dialect needs
one reading into canonical types, not one table per target.

`Reading` is what comes of a source type: the canonical type, a warning when something was lost on
the way, and a note when one of several fitting types was picked.  `Mapping` is what comes of a
canonical type: the target type, how well it fits, and why.
-/
import SchemaBridge.Schema.TargetType
import SchemaBridge.Text.Quoted

namespace SchemaBridge

/-- Types shared by all dialects. -/
inductive CanonicalType
  | boolean
  /-- Unsigned integer of 8 bits. -/
  | uint8
  | int16
  | int32
  | int64
  /-- Unsigned integer of 64 bits. -/
  | uint64
  | float32
  | float64
  /-- Exact decimal; without a precision it is unconstrained. -/
  | decimal (precision scale : Option Nat)
  | money
  /-- Character string of fixed length. -/
  | char (n : Nat)
  /-- Character string of bounded length; 0 means unbounded. -/
  | varchar (n : Nat)
  | text
  | binary (n : Nat)
  /-- Bytes of bounded length; 0 means unbounded. -/
  | varbinary (n : Nat)
  | blob
  | date
  | time
  | timeTz
  /-- Date and time without a time zone. -/
  | dateTime
  /-- Date and time with a time zone. -/
  | dateTimeTz
  | interval
  | year
  | uuid
  | json
  | jsonBinary
  | xml
  | bit (n : Nat)
  | varBit (n : Nat)
  | inetAddr
  | cidrAddr
  | macAddr
  | point
  | line
  | polygon
  | geometry
  | geography
  | tsVector
  | tsQuery
  /-- Range over the element type its name gives. -/
  | range (name : String)
  | array (of : CanonicalType)
  /-- One of the given labels. -/
  | enum (labels : List String)
  /-- Any subset of the given labels. -/
  | set (labels : List String)
  /-- A type without a counterpart, by its declaration. -/
  | unknown (declared : String)
  deriving DecidableEq, Repr, Inhabited

namespace CanonicalType

/-- How the type is shown. -/
def display : CanonicalType → String
  | boolean => "Boolean"
  | uint8 => "UInt8"
  | int16 => "Int16"
  | int32 => "Int32"
  | int64 => "Int64"
  | uint64 => "UInt64"
  | float32 => "Float32"
  | float64 => "Float64"
  | decimal (some p) s => "Decimal(" ++ Text.decimal p ++ "," ++ Text.decimal (s.getD 0) ++ ")"
  | decimal none _ => "Decimal"
  | money => "Money"
  | char n => "Char(" ++ Text.decimal n ++ ")"
  | varchar n => "Varchar(" ++ Text.decimal n ++ ")"
  | text => "Text"
  | binary n => "Binary(" ++ Text.decimal n ++ ")"
  | varbinary n => "Varbinary(" ++ Text.decimal n ++ ")"
  | blob => "Blob"
  | date => "Date"
  | time => "Time"
  | timeTz => "TimeTz"
  | dateTime => "DateTime"
  | dateTimeTz => "DateTimeTz"
  | interval => "Interval"
  | year => "Year"
  | uuid => "Uuid"
  | json => "Json"
  | jsonBinary => "JsonBinary"
  | xml => "Xml"
  | bit n => "Bit(" ++ Text.decimal n ++ ")"
  | varBit n => "VarBit(" ++ Text.decimal n ++ ")"
  | inetAddr => "InetAddr"
  | cidrAddr => "CidrAddr"
  | macAddr => "MacAddr"
  | point => "Point"
  | line => "Line"
  | polygon => "Polygon"
  | geometry => "Geometry"
  | geography => "Geography"
  | tsVector => "TsVector"
  | tsQuery => "TsQuery"
  | range name => "Range(" ++ name ++ ")"
  | array t => "Array(" ++ t.display ++ ")"
  | enum ls => "Enum(" ++ Text.quotedList ls ++ ")"
  | set ls => "Set(" ++ Text.quotedList ls ++ ")"
  | unknown d => "Unknown(" ++ d ++ ")"

end CanonicalType

/-- What a source type is read as. -/
structure Reading where
  canonical : CanonicalType
  /-- Whether something was lost. -/
  lossy : Bool
  /-- What was lost. -/
  warning : Option String
  /-- Why this type was picked among several that fit. -/
  ambiguity : Option String
  deriving DecidableEq, Repr, Inhabited

namespace Reading

/-- A reading that loses nothing. -/
def exact (t : CanonicalType) : Reading := ⟨t, false, none, none⟩

/-- A reading that loses something. -/
def lossyBecause (t : CanonicalType) (warning : String) : Reading := ⟨t, true, some warning, none⟩

/-- A reading that is one of several. -/
def picked (t : CanonicalType) (why : String) : Reading := ⟨t, false, none, some why⟩

/-- The reading of an array from that of its elements. -/
def asArray (r : Reading) : Reading := { r with canonical := .array r.canonical }

end Reading

/-- What a type is mapped to. -/
structure Mapping where
  target : TargetType
  confidence : Confidence
  /-- What is lost, when something is. -/
  note : Option String
  /-- Why this type was picked among several that fit. -/
  ambiguity : Option String
  deriving DecidableEq, Repr, Inhabited

namespace Mapping

/-- A mapping that keeps every value. -/
def exact (t : TargetType) : Mapping := ⟨t, .exact, none, none⟩

/-- A mapping that may change values. -/
def lossy (t : TargetType) (note : String) : Mapping := ⟨t, .lossy, some note, none⟩

/-- The nearest fit for a type the target cannot represent. -/
def unsupported (t : TargetType) (note : String) : Mapping := ⟨t, .unsupported, some note, none⟩

end Mapping

end SchemaBridge
