/-
# Tokens

Names, literals and symbols, and how names and literals are printed.  A quote inside quoted text is
printed twice unless it is doubled already or follows a backslash.
-/
import SchemaBridge.Sql.Dialect

namespace SchemaBridge.Sql

/-- A name and the quote it was written in. -/
structure Ident where
  value : String
  quote : Option Char
  deriving DecidableEq, Repr, Inhabited

/-- The kinds of literal between quotes. -/
inductive LiteralKind
  | single
  | double
  | national
  | escaped
  | unicode
  | hex
  | byte
  | doubleByte
  | raw
  | doubleRaw
  /-- Between dollar signs with a tag. -/
  | dollar (tag : String)
  deriving DecidableEq, Repr, Inhabited

/-- A token other than white space. -/
inductive Token
  /-- A name; `key` is its upper case form if it has no quotes, else empty. -/
  | word (ident : Ident) (key : String)
  /-- A number; a long one has an `L` after its text. -/
  | number (text : String) (long : Bool)
  | literal (kind : LiteralKind) (value : String)
  /-- Punctuation or an operator every dialect knows. -/
  | symbol (text : String)
  /-- An operator made of operator characters. -/
  | operator (text : String)
  /-- A parameter. -/
  | placeholder (text : String)
  deriving DecidableEq, Repr, Inhabited

/-! ## Printing -/

/-- Quoted text with the quotes inside it doubled; `previous` is the character before. -/
def doubledFrom (quote previous : Char) : List Char → List Char
  | [] => []
  | c :: r =>
    if c == quote then
      if previous == '\\' then c :: doubledFrom quote previous r
      else match r with
        | d :: r' => if d == quote then c :: c :: doubledFrom quote c r'
          else c :: c :: doubledFrom quote c (d :: r')
        | [] => [c, c]
    else c :: doubledFrom quote c r

/-- Text in which a quote is doubled, unless it is doubled already or follows a backslash. -/
def doubled (quote : Char) (s : String) : String :=
  String.ofList (doubledFrom quote '\x00' s.toList)

/-- A name without a quote. -/
def Ident.bare (s : String) : Ident := ⟨s, none⟩

/-- A part of a name, between its quotes if it has any. -/
def Ident.print (i : Ident) : String :=
  match i.quote with
  | none => i.value
  | some '[' => "[" ++ i.value ++ "]"
  | some q => q.toString ++ doubled q i.value ++ q.toString

/-- A qualified name. -/
def printName (parts : List Ident) : String := ".".intercalate (parts.map (·.print))

/-- The form of a character in a literal with C-style escapes. -/
def escapedForm (c : Char) : List Char :=
  if c == '\'' then ['\\', '\'']
  else if c == '\\' then ['\\', '\\']
  else if c == '\n' then ['\\', 'n']
  else if c == '\t' then ['\\', 't']
  else if c == '\r' then ['\\', 'r']
  else [c]

/-- Upper case hexadecimal digits with zeros before them up to a width. -/
def hexPadded (width n : Nat) : List Char :=
  let ds := (Nat.toDigits 16 n).map Char.toUpper
  List.replicate (width - ds.length) '0' ++ ds

/-- The form of a character in a literal with Unicode escapes. -/
def unicodeForm (c : Char) : List Char :=
  if c == '\'' then ['\'', '\'']
  else if c == '\\' then ['\\', '\\']
  else if c.toNat < 128 then [c]
  else if c.toNat ≤ 0xFFFF then '\\' :: hexPadded 4 c.toNat
  else '\\' :: '+' :: hexPadded 6 c.toNat

/-- A literal between its marks. -/
def LiteralKind.print (kind : LiteralKind) (value : String) : String :=
  match kind with
  | single => "'" ++ doubled '\'' value ++ "'"
  | double => "\"" ++ doubled '"' value ++ "\""
  | national => "N'" ++ value ++ "'"
  | escaped => "E'" ++ String.ofList (value.toList.flatMap escapedForm) ++ "'"
  | unicode => "U&'" ++ String.ofList (value.toList.flatMap unicodeForm) ++ "'"
  | hex => "X'" ++ value ++ "'"
  | byte => "B'" ++ value ++ "'"
  | doubleByte => "B\"" ++ value ++ "\""
  | raw => "R'" ++ value ++ "'"
  | doubleRaw => "R\"" ++ value ++ "\""
  | dollar tag => "$" ++ tag ++ "$" ++ value ++ "$" ++ tag ++ "$"

/-- A number with its suffix. -/
def numberForm (text : String) (long : Bool) : String := if long then text ++ "L" else text

/-- A token as it is written between others. -/
def Token.print : Token → String
  | word i _ =>
    match i.quote with
    | none => i.value
    | some q => q.toString ++ i.value ++ q.toString
  | number t long => numberForm t long
  | literal k v => k.print v
  | symbol t | operator t | placeholder t => t

end SchemaBridge.Sql
