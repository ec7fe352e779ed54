/-
# Typed values from JSON

A decoder takes a JSON value to a typed one or says why it cannot.  A record is an object with
named fields, or an array with the fields in the order in which the record declares them; fields
it does not declare are ignored, and a field it declares may not be repeated.
-/
import SchemaBridge.Json.Basic
import SchemaBridge.Text.Pattern

namespace SchemaBridge.Json

/-- A reading of JSON values. -/
abbrev Decoder (α : Type) := Json → Except String α

/-- The error for a value of another kind. -/
def expected {α : Type} (what : String) : Except String α := .error ("expected " ++ what)

/-- A text. -/
def decodeText : Decoder String
  | .str s => .ok s
  | _ => expected "a string"

/-- A truth value. -/
def decodeBool : Decoder Bool
  | .bool b => .ok b
  | _ => expected "a boolean"

/-- A whole number from 0 up to a limit. -/
def decodeNat (limit : Nat) : Decoder Nat
  | .int (.ofNat n) => if n ≤ limit then .ok n else expected "a smaller number"
  | _ => expected "a number that is not negative"

/-- A number of 32 bits. -/
def decodeWord32 : Decoder Nat := decodeNat 4294967295

/-- A number of 64 bits. -/
def decodeWord64 : Decoder Nat := decodeNat 18446744073709551615

/-- A number of 64 bits with a sign. -/
def decodeInt64 : Decoder Int
  | .int n =>
    if -9223372036854775808 ≤ n ∧ n ≤ 9223372036854775807 then .ok n
    else expected "a smaller number"
  | _ => expected "a whole number"

/-- A list of values. -/
def decodeList {α : Type} (item : Decoder α) : Decoder (List α)
  | .arr items => items.mapM item
  | _ => expected "an array"

/-- One of a set of names, alone or as the only field of an object, with the value null. -/
def decodeName {α : Type} (what : String) (ofName? : String → Option α) : Decoder α
  | .str s => named s
  | .obj [(s, .null)] => named s
  | _ => expected what
where
  named (s : String) : Except String α :=
    match ofName? s with
    | some a => .ok a
    | none => .error ("'" ++ s ++ "' is not " ++ what)

/-- The declared fields of a record that a value has. -/
def recordFields (names : List String) : Json → Except String (List (String × Json))
  | .obj fields =>
    let declared := fields.filter fun f => names.contains f.1
    match names.find? fun n => 1 < declared.countP fun f => f.1 == n with
    | some n => .error ("field '" ++ n ++ "' is repeated")
    | none => .ok declared
  | .arr items =>
    if items.length ≤ names.length then .ok (names.zip items) else expected "fewer items"
  | _ => expected "a record"

/-- A field that must be there. -/
def required {α : Type} (fields : List (String × Json)) (name : String) (d : Decoder α) :
    Except String α :=
  match fields.lookup name with
  | some v => d v
  | none => .error ("field '" ++ name ++ "' is missing")

/-- A field that may be missing or null. -/
def optional {α : Type} (fields : List (String × Json)) (name : String) (d : Decoder α) :
    Except String (Option α) :=
  match fields.lookup name with
  | none | some .null => .ok none
  | some v => (d v).map some

/-- A field with a value that counts when it is missing. -/
def withDefault {α : Type} (fields : List (String × Json)) (name : String) (default : α)
    (d : Decoder α) : Except String α :=
  match fields.lookup name with
  | none => .ok default
  | some v => d v

end SchemaBridge.Json
