/-
# Identifiers and literals in generated statements

A name cannot be bound as a parameter, so each name that reaches a statement is checked and quoted
here.  GoogleSQL puts names between backticks and escapes with a backslash; the PostgreSQL
interface puts them between double quotes and doubles an inner one.  String literals stand between
single quotes, with an inner one doubled.
-/
import SchemaBridge.Schema.Dialect
import SchemaBridge.Text.Quoted

namespace SchemaBridge.Identifier

/-- Largest number of characters in a name. -/
def maxLength : Nat := 128

/-- A name must not be empty, contain a null character or be too long. -/
def validate (name : String) : Outcome Unit :=
  if name.isEmpty then .error (.config "Identifier cannot be empty")
  else if name.toList.contains '\x00' then
    .error (.config ("Identifier contains null byte: " ++ Text.quoted name))
  else if name.length > maxLength then
    .error (.config ("Identifier exceeds maximum length of " ++ Text.decimal maxLength
      ++ " characters: " ++ Text.quoted name))
  else .ok ()

/-- Write a character twice wherever it occurs. -/
def doubled (q : Char) (s : List Char) : List Char := Text.replaceChar q [q, q] s

/-- Put a backslash before every backslash and every backtick. -/
def backslashed (s : List Char) : List Char :=
  s.flatMap fun c => if c == '\\' || c == '\x60' then ['\\', c] else [c]

/-- A name as a dialect writes it, without the check. -/
def write (d : TargetDialect) (name : String) : String :=
  match d with
  | .google => String.ofList ('\x60' :: backslashed name.toList ++ ['\x60'])
  | .postgres => String.ofList ('"' :: doubled '"' name.toList ++ ['"'])

/-- A name, checked and quoted for a dialect. -/
def quote (d : TargetDialect) (name : String) : Outcome String := do
  validate name
  return write d name

/-- Names, checked, quoted and separated by commas. -/
def quoteList (d : TargetDialect) (names : List String) : Outcome String := do
  return ", ".intercalate (← names.mapM (quote d))

/-- A string literal. -/
def literal (value : String) : String :=
  String.ofList ('\'' :: doubled '\'' value.toList ++ ['\''])

end SchemaBridge.Identifier
