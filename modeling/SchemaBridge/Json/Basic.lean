/-
# JSON values

Values as read keep the fields of an object in the order of the text, repetitions included;
`Json.canonical` orders the fields of every object by key and keeps the last value of a key that
is repeated.
-/

namespace SchemaBridge

/-- A JSON value. -/
inductive Json
  | null
  | bool (b : Bool)
  /-- A whole number that fits a word of 64 bits. -/
  | int (n : Int)
  /-- Any other number, by the bits of its double. -/
  | real (bits : UInt64)
  | str (s : String)
  | arr (items : List Json)
  | obj (fields : List (String × Json))
  deriving Inhabited, BEq, Repr

namespace Json

/-- Put a value under a key into a list of fields ordered by key, in place of one it has. -/
def insertField (key : String) (value : Json) : List (String × Json) → List (String × Json)
  | [] => [(key, value)]
  | (k, v) :: r =>
    if key < k then (key, value) :: (k, v) :: r
    else if key = k then (key, value) :: r
    else (k, v) :: insertField key value r

/-- Fields ordered by key; the last value of a repeated key counts. -/
def orderFields (fields : List (String × Json)) : List (String × Json) :=
  fields.foldl (fun done f => insertField f.1 f.2 done) []

/-- An object whose fields are ordered by key. -/
def object (fields : List (String × Json)) : Json := .obj (orderFields fields)

mutual

/-- Order the fields of every object in a value. -/
def canonical : Json → Json
  | .arr items => .arr (canonicalItems items)
  | .obj fields => .obj (orderFields (canonicalFields fields))
  | v => v

/-- The items of a list in canonical form. -/
def canonicalItems : List Json → List Json
  | [] => []
  | v :: r => canonical v :: canonicalItems r

/-- The fields of an object in canonical form, not yet in order. -/
def canonicalFields : List (String × Json) → List (String × Json)
  | [] => []
  | (k, v) :: r => (k, canonical v) :: canonicalFields r

end

/-- The value of a field of an object. -/
def field? (key : String) : Json → Option Json
  | .obj fields => fields.lookup key
  | _ => none

/-- An object without one of its fields. -/
def eraseField (key : String) : Json → Json
  | .obj fields => .obj (fields.filter fun f => f.1 ≠ key)
  | v => v

/-- The text of a value that is one. -/
def text? : Json → Option String
  | .str s => some s
  | _ => none

/-- A whole number that is not negative. -/
def nat? : Json → Option Nat
  | .int (.ofNat n) => some n
  | _ => none

/-- A field that is written only when there is a value for it. -/
def optionalField {α : Type} (key : String) (write : α → Json) : Option α → List (String × Json)
  | some a => [(key, write a)]
  | none => []

/-- A field that is written only when it holds. -/
def flagField (key : String) (b : Bool) : List (String × Json) :=
  if b then [(key, .bool true)] else []

end Json

end SchemaBridge
