/-
# Canonical types as target types

`TypeMap.choose` picks a target type for a canonical one and says how well it fits;
`TypeMap.map` joins it with the reading of the source dialect.
-/
import SchemaBridge.TypeMap.Source

namespace SchemaBridge.TypeMap

open CanonicalType

/-- Largest precision the target stores exactly. -/
def maxPrecision : Nat := 38

/-- Largest scale the target stores exactly. -/
def maxScale : Nat := 9

/-- Length of a bounded type; 0 stands for unbounded. -/
def declaredLength (n : Nat) : Option Nat := if n = 0 then none else some n

/-- Whether a type is one of arrays. -/
def isArray : CanonicalType → Bool
  | array _ => true
  | _ => false

/-- The target type for a canonical type. -/
def choose : CanonicalType → Mapping
  | boolean => .exact (.scalar .bool)
  | uint8 | int16 | int32 | int64 | year => .exact (.scalar .int64)
  | uint64 =>
    .lossy (.scalar .numeric) "Unsigned 64-bit values exceed INT64; stored as NUMERIC."
  | float32 => .exact (.scalar .float32)
  | float64 => .exact (.scalar .float64)
  | decimal (some p) scale =>
    let s := scale.getD 0
    if p ≤ maxPrecision ∧ s ≤ maxScale ∧ s ≤ p then .exact (.scalar .numeric)
    else .lossy (.scalar .numeric)
      ("DECIMAL(" ++ Text.decimal p ++ "," ++ Text.decimal s ++ ") exceeds NUMERIC precision "
        ++ Text.decimal maxPrecision ++ " / scale " ++ Text.decimal maxScale ++ ".")
  | decimal none _ =>
    .lossy (.scalar .numeric)
      ("Unconstrained numeric stored as NUMERIC; values beyond precision "
        ++ Text.decimal maxPrecision ++ " / scale " ++ Text.decimal maxScale ++ " are rounded.")
  | money => .exact (.scalar .numeric)
  | char n | varchar n => .exact (.string (declaredLength n))
  | text => .exact (.string none)
  | binary n | varbinary n => .exact (.bytes (declaredLength n))
  | blob => .exact (.bytes none)
  | date => .exact (.scalar .date)
  | dateTimeTz => .exact (.scalar .timestamp)
  | dateTime =>
    .lossy (.scalar .timestamp)
      "Timestamp without time zone is stored as TIMESTAMP and interpreted as UTC."
  | time | timeTz => .lossy (.string none) "Time of day has no target type; stored as text."
  | interval => .lossy (.string none) "Interval has no target type; stored as text."
  | uuid => .exact (.string (some 36))
  | json | jsonBinary => .exact (.scalar .json)
  | xml => .lossy (.string none) "XML stored as text; document validation is lost."
  | bit 1 => .exact (.scalar .bool)
  | bit n | varBit n =>
    .lossy (.bytes (declaredLength ((n + 7) / 8))) "Bit string stored as bytes."
  | inetAddr | cidrAddr | macAddr =>
    .lossy (.string none) "Network address stored as text; address operators are lost."
  | enum labels =>
    .lossy (.string none)
      ("ENUM stored as STRING; allowed values (" ++ ", ".intercalate labels
        ++ ") are not enforced.")
  | .set labels =>
    .lossy (TargetType.string none).asArray
      ("SET stored as ARRAY<STRING>; allowed values (" ++ ", ".intercalate labels
        ++ ") are not enforced.")
  | array inner =>
    if isArray inner then
      .unsupported (.string none) "Multi-dimensional arrays are not supported; stored as text."
    else
      let element := choose inner
      if element.target.array then
        .unsupported (.string none)
          ("Array of " ++ inner.display ++ " is not supported; stored as text.")
      else { element with target := element.target.asArray }
  | point | line | polygon | geometry | geography =>
    .unsupported (.string none)
      "Spatial type has no target equivalent; stored as its text encoding."
  | tsVector | tsQuery =>
    .unsupported (.string none)
      "Full-text search type has no target equivalent; stored as text."
  | range name =>
    .unsupported (.string none)
      ("Range type '" ++ name ++ "' has no target equivalent; stored as text.")
  | unknown declared =>
    .unsupported (.string none) ("No mapping for '" ++ declared ++ "'; stored as text.")

/-- Join two optional notes with a space. -/
def joinNotes : Option String → Option String → Option String
  | some a, some b => some (a ++ " " ++ b)
  | some a, none => some a
  | none, b => b

/-- The mapping of a source type: its reading, then the choice of a target type.  A lossy reading
makes an exact choice lossy. -/
def map (d : SourceDialect) (t : SourceType) : Mapping :=
  let reading := read d t
  let chosen := choose reading.canonical
  { target := chosen.target
    confidence :=
      if reading.lossy ∧ chosen.confidence = .exact then .lossy else chosen.confidence
    note := joinNotes reading.warning chosen.note
    ambiguity := reading.ambiguity }

end SchemaBridge.TypeMap
