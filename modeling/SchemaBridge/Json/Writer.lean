/-
# Writing JSON

A value has two written forms: `compact`, without white space, and `pretty`, with one item to a
line and two spaces for each level.  Empty containers take no line of their own.

## Key statements

* `compact_str`, `compact_int`: the written form of the leaves.
-/
import SchemaBridge.Json.Number

namespace SchemaBridge.Json

/-- Two hexadecimal digits. -/
def hexPair (n : Nat) : List Char := [Nat.digitChar (n / 16), Nat.digitChar (n % 16)]

/-- The form a character takes inside a string. -/
def escaped (c : Char) : List Char :=
  if c == '"' then ['\\', '"']
  else if c == '\\' then ['\\', '\\']
  else if c == '\n' then ['\\', 'n']
  else if c == '\r' then ['\\', 'r']
  else if c == '\t' then ['\\', 't']
  else if c == '\x08' then ['\\', 'b']
  else if c == '\x0c' then ['\\', 'f']
  else if c.toNat < 32 then ['\\', 'u', '0', '0'] ++ hexPair c.toNat
  else [c]

/-- A string between double quotes. -/
def writeString (s : String) : List Char := '"' :: s.toList.flatMap escaped ++ ['"']

mutual

/-- A value without white space. -/
def compact : Json → List Char
  | .null => "null".toList
  | .bool b => (if b then "true" else "false").toList
  | .int n => (Text.decimalInt n).toList
  | .real bits => (realText bits).toList
  | .str s => writeString s
  | .arr [] => ['[', ']']
  | .arr (v :: r) => '[' :: compact v ++ compactItems r
  | .obj [] => ['\x7b', '\x7d']
  | .obj ((k, v) :: r) => '\x7b' :: writeString k ++ ':' :: compact v ++ compactFields r

/-- The items after the first and the closing bracket. -/
def compactItems : List Json → List Char
  | [] => [']']
  | v :: r => ',' :: compact v ++ compactItems r

/-- The fields after the first and the closing brace. -/
def compactFields : List (String × Json) → List Char
  | [] => ['\x7d']
  | (k, v) :: r => ',' :: writeString k ++ ':' :: compact v ++ compactFields r

end

/-- A new line and the indentation of a level. -/
def newLine (level : Nat) : List Char := '\n' :: List.replicate (2 * level) ' '

mutual

/-- A value with one item to a line; `level` is the number of containers around it. -/
def prettyAt (level : Nat) : Json → List Char
  | .arr (v :: r) =>
    '[' :: newLine (level + 1) ++ prettyAt (level + 1) v ++ prettyItems level r
  | .obj ((k, v) :: r) =>
    '\x7b' :: newLine (level + 1) ++ writeString k ++ ':' :: ' ' :: prettyAt (level + 1) v
      ++ prettyFields level r
  | v => compact v

/-- Items after the first one, each on its line, through the closing bracket. -/
def prettyItems (level : Nat) : List Json → List Char
  | [] => newLine level ++ [']']
  | v :: r => ',' :: newLine (level + 1) ++ prettyAt (level + 1) v ++ prettyItems level r

/-- Fields after the first one, each on its line, through the closing brace. -/
def prettyFields (level : Nat) : List (String × Json) → List Char
  | [] => newLine level ++ ['\x7d']
  | (k, v) :: r =>
    ',' :: newLine (level + 1) ++ writeString k ++ ':' :: ' ' :: prettyAt (level + 1) v
      ++ prettyFields level r

end

/-- A value on one line, as a text. -/
def compactText (v : Json) : String := String.ofList (compact v)

/-- The form of a value in files meant for readers. -/
def prettyText (v : Json) : String := String.ofList (prettyAt 0 v)

/-- A text is written between quotation marks. -/
@[simp] theorem compact_str (s : String) : compact (.str s) = writeString s := by
  simp [compact]

/-- A number is written in decimal digits. -/
@[simp] theorem compact_int (n : Int) : compact (.int n) = (Text.decimalInt n).toList := by
  simp [compact]

end SchemaBridge.Json
