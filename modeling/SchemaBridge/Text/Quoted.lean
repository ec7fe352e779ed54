/-
# Quoted text

A text shown between double quotes, on one line, with every character that has no form of its own
spelled by its code point in lower case hexadecimal.
-/
import SchemaBridge.Text.VisibleTable

namespace SchemaBridge.Text

/-- Lower case hexadecimal digits of a number, without leading zeros. -/
def hexDigits (n : Nat) : List Char := Nat.toDigits 16 n

/-- The form a character takes inside quoted text. -/
def quotedChar (c : Char) : List Char :=
  if c == '\x00' then ['\\', '0']
  else if c == '\t' then ['\\', 't']
  else if c == '\n' then ['\\', 'n']
  else if c == '\r' then ['\\', 'r']
  else if c == '"' then ['\\', '"']
  else if c == '\\' then ['\\', '\\']
  else if (32 ≤ c.toNat && c.toNat < 127) then [c]
  else if CharTable.mem CharTable.extending c.toNat || CharTable.mem CharTable.invisible c.toNat then
    ['\\', 'u', '\x7b'] ++ hexDigits c.toNat ++ ['\x7d']
  else [c]

/-- A text between double quotes. -/
def quoted (s : String) : String :=
  String.ofList ('"' :: s.toList.flatMap quotedChar ++ ['"'])

/-- A list of texts, each quoted, between brackets. -/
def quotedList (ss : List String) : String :=
  "[" ++ ", ".intercalate (ss.map quoted) ++ "]"

end SchemaBridge.Text
