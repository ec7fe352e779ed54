/-
# Settings

The values of a configuration before its fields have given them types.  A bare word has no type of
its own: it is a text, a number or a truth value, whichever is wanted.
-/
import SchemaBridge.Json.Basic
import SchemaBridge.Yaml.Node
import SchemaBridge.Yaml.Word

namespace SchemaBridge.Config

/-- A value of a configuration, whichever format it is written in. -/
inductive Setting
  | null
  | bool (b : Bool)
  /-- A whole number that is not negative. -/
  | nat (n : Nat)
  /-- Any other number. -/
  | number
  | text (s : String)
  | bare (s : String)
  | list (items : List Setting)
  | table (entries : List (String × Setting))
  deriving Inhabited, Repr

namespace Setting

mutual

/-- A JSON value as a setting. -/
def ofJson : Json → Setting
  | .null => .null
  | .bool b => .bool b
  | .int (.ofNat n) => .nat n
  | .int _ => .number
  | .real _ => .number
  | .str s => .text s
  | .arr items => .list (ofJsonItems items)
  | .obj fields => .table (ofJsonFields fields)

/-- The settings for the items of a JSON list. -/
def ofJsonItems : List Json → List Setting
  | [] => []
  | v :: r => ofJson v :: ofJsonItems r

/-- The settings for the fields of a JSON object. -/
def ofJsonFields : List (String × Json) → List (String × Setting)
  | [] => []
  | (k, v) :: r => (k, ofJson v) :: ofJsonFields r

end

mutual

/-- A YAML value as a setting.  Entries whose key is no scalar are left out. -/
def ofNode : Yaml.Node → Setting
  | .scalar true s => .bare s
  | .scalar false s => .text s
  | .sequence items => .list (ofNodes items)
  | .mapping entries => .table (ofEntries entries)

/-- The settings for the items of a YAML sequence. -/
def ofNodes : List Yaml.Node → List Setting
  | [] => []
  | n :: r => ofNode n :: ofNodes r

/-- The settings for the entries of a YAML mapping; keys that are no scalars are left out. -/
def ofEntries : List (Yaml.Node × Yaml.Node) → List (String × Setting)
  | [] => []
  | (.scalar _ k, v) :: r => (k, ofNode v) :: ofEntries r
  | _ :: r => ofEntries r

end

/-- What a bare word is where no type is wanted. -/
def ofWord (s : String) : Setting :=
  match Yaml.meaning s with
  | .null => .null
  | .bool b => .bool b
  | .int (.ofNat n) => .nat n
  | .int _ => .number
  | .real => .number
  | .text => .text s

mutual

/-- A setting whose bare words have been given types. -/
def typed : Setting → Setting
  | .bare s => ofWord s
  | .list items => .list (typedItems items)
  | .table entries => .table (typedEntries entries)
  | s => s

/-- Items with their bare words read. -/
def typedItems : List Setting → List Setting
  | [] => []
  | s :: r => typed s :: typedItems r

/-- Entries with their bare words read. -/
def typedEntries : List (String × Setting) → List (String × Setting)
  | [] => []
  | (k, s) :: r => (k, typed s) :: typedEntries r

end

/-! ## Reading settings -/

/-- A reading of settings. -/
abbrev Decoder (α : Type) := Setting → Except String α

/-- A text, with quotes or without. -/
def decodeText : Decoder String
  | .text s | .bare s => .ok s
  | _ => .error "expected a text"

/-- A truth value. -/
def decodeBool : Decoder Bool
  | .bool b => .ok b
  | .bare s => match Yaml.bool? s with
    | some b => .ok b
    | none => .error "expected a truth value"
  | _ => .error "expected a truth value"

/-- A whole number from 0 up to a limit. -/
def decodeNat (limit : Nat) : Decoder Nat
  | .nat n => if n ≤ limit then .ok n else .error "expected a smaller number"
  | .bare s => match Yaml.nat? limit s with
    | some n => .ok n
    | none => .error "expected a number"
  | _ => .error "expected a number"

/-- A list; nothing at all is an empty one. -/
def decodeList {α : Type} (item : Decoder α) : Decoder (List α)
  | .list items => items.mapM item
  | .bare "" => .ok []
  | _ => .error "expected a list"

/-- One of a set of names, alone or as the only key of a table, with the value null. -/
def decodeName {α : Type} (ofName? : String → Option α) : Decoder α
  | .text s | .bare s | .table [(s, .null)] =>
    match ofName? s with
    | some a => .ok a
    | none => .error ("unknown name '" ++ s ++ "'")
  | _ => .error "expected a name"

/-- The declared fields of a record that a setting has.  A list gives them in order, and nothing at
all is a record without fields. -/
def fields (names : List String) : Decoder (List (String × Setting))
  | .table entries =>
    let declared := entries.filter fun f => names.contains f.1
    match names.find? fun n => 1 < declared.countP fun f => f.1 == n with
    | some n => .error ("field '" ++ n ++ "' is repeated")
    | none => .ok declared
  | .list items =>
    if items.length ≤ names.length then .ok (names.zip items) else .error "expected fewer items"
  | .bare "" => .ok []
  | _ => .error "expected a record"

/-- A field that must be there. -/
def required {α : Type} (fs : List (String × Setting)) (name : String) (d : Decoder α) :
    Except String α :=
  match fs.lookup name with
  | some v => d v
  | none => .error ("field '" ++ name ++ "' is missing")

/-- Whether a setting stands for nothing. -/
def isNothing : Setting → Bool
  | .null => true
  | .bare s => Yaml.isNull s
  | _ => false

/-- A field that may be missing or stand for nothing. -/
def optional {α : Type} (fs : List (String × Setting)) (name : String) (d : Decoder α) :
    Except String (Option α) :=
  match fs.lookup name with
  | none => .ok none
  | some v => if v.isNothing then .ok none else (d v).map some

/-- A field with a value that counts when it is missing. -/
def withDefault {α : Type} (fs : List (String × Setting)) (name : String) (default : α)
    (d : Decoder α) : Except String α :=
  match fs.lookup name with
  | none => .ok default
  | some v => d v

end Setting

end SchemaBridge.Config
