/-
# Writing YAML

A value as a block of lines, two columns to a level.  A text is bare if it reads back as itself, else
between single quotes, and between double quotes if it has characters that must be escaped.  A text
of several lines becomes a block.
-/
import SchemaBridge.Json.Writer
import SchemaBridge.Yaml.Cursor
import SchemaBridge.Yaml.Word

namespace SchemaBridge.Yaml

/-! ## What a text admits -/

/-- Words that older readers take for truth values. -/
def truthWords : List String :=
  ["y", "Y", "yes", "Yes", "YES", "n", "N", "no", "No", "NO", "true", "True", "TRUE", "false", "False",
    "FALSE", "on", "On", "ON", "off", "Off", "OFF"]

/-- A character that is written as it is. -/
def isPrintable (c : Char) : Bool :=
  let n := c.toNat
  n = 10 || (0x20 ≤ n && n ≤ 0x7e) || (0xa0 ≤ n && n ≤ 0xfffd && n ≠ 0xfeff)

/-- A line end of any kind. -/
def endsLine (c : Char) : Bool := isBreak c || c = '\r' || c.toNat = 0x85

/-- Whether two neighbouring characters satisfy two conditions. -/
def hasPair (p q : Char → Bool) : List Char → Bool
  | a :: b :: r => (p a && q b) || hasPair p q (b :: r)
  | _ => false

/-- Whether an end of the text satisfies a condition. -/
def endSatisfies (p : Char → Bool) (s : List Char) : Bool := s.head?.any p || s.getLast?.any p

/-- A blank, a line end or a null. -/
def isGap (c : Char) : Bool := isBlank c || endsLine c || c = '\x00'

/-- Whether marks in a text would be read as structure. -/
def hasMarks (s : List Char) : Bool :=
  let opening := match s with
    | [] => false
    | c :: r =>
      "#,[]{}&*!|>'\"%@\x60".toList.contains c
        || ((c = '?' || c = ':' || c = '-') && r.head?.all isGap)
  opening || s.take 3 == ['-', '-', '-'] || s.take 3 == ['.', '.', '.']
    || hasPair (· = ':') isGap s || s.tail.getLast? == some ':' || hasPair isGap (· = '#') s

/-- Whether a text can be written only with escapes. -/
def needsEscapes (s : List Char) : Bool :=
  !s.all isPrintable || hasPair (· = ' ') endsLine s

/-- Whether a text may be written bare. -/
def admitsBare (s : List Char) : Bool :=
  !needsEscapes s && !hasMarks s && !s.any endsLine && !endSatisfies (· = ' ') s

/-- Whether a text may be written between single quotes. -/
def admitsSingle (s : List Char) : Bool := !needsEscapes s && !hasPair endsLine (· = ' ') s

/-- Whether a text may be written as a block of lines. -/
def admitsLines (s : List Char) : Bool :=
  !s.isEmpty && !needsEscapes s && s.getLast? != some ' '

/-! ## Scalars -/

/-- Spaces at the beginning of a line. -/
def spaces (n : Nat) : List Char := List.replicate n ' '

/-- Upper case hexadecimal digits of a number, filled up with zeros. -/
def hexText (width n : Nat) : List Char :=
  let ds := (Nat.toDigits 16 n).map Char.toUpper
  List.replicate (width - ds.length) '0' ++ ds

/-- A character between double quotes. -/
def doubleQuotedChar (c : Char) : List Char :=
  let n := c.toNat
  let short := [(0, '0'), (7, 'a'), (8, 'b'), (9, 't'), (10, 'n'), (11, 'v'), (12, 'f'), (13, 'r'),
    (27, 'e'), (34, '"'), (92, '\\'), (0x85, 'N'), (0xa0, '_'), (0x2028, 'L'), (0x2029, 'P')]
  if isPrintable c && !endsLine c && c ≠ '"' && c ≠ '\\' then [c]
  else match short.lookup n with
    | some d => ['\\', d]
    | none =>
      if n ≤ 0xff then '\\' :: 'x' :: hexText 2 n
      else if n ≤ 0xffff then '\\' :: 'u' :: hexText 4 n
      else '\\' :: 'U' :: hexText 8 n

/-- A text between double quotation marks, with escapes. -/
def doubleQuoted (s : List Char) : List Char := '"' :: s.flatMap doubleQuotedChar ++ ['"']

/-- The characters of a text whose lines after the first are indented. -/
def indentedLines (indent : Nat) (write : Char → List Char) : Bool → List Char → List Char
  | _, [] => []
  | broken, c :: r =>
    if endsLine c then c :: indentedLines indent write true r
    else (if broken then spaces indent else []) ++ write c ++ indentedLines indent write false r

/-- A text between single quotation marks, which are doubled in it. -/
def singleQuoted (indent : Nat) (s : List Char) : List Char :=
  '\'' :: indentedLines indent (fun c => if c = '\'' then ['\'', '\''] else [c]) false s ++ ['\'']

/-- What follows the sign of a block: the indentation if the text begins with a gap, and what
becomes of the line ends at its end. -/
def blockHead (s : List Char) : List Char :=
  let led := if s.head?.any fun c => c = ' ' || endsLine c then ['2'] else []
  let kept := match s.reverse with
    | c :: d :: _ => if !endsLine c then ['-'] else if endsLine d then ['+'] else []
    | [c] => if endsLine c then ['+'] else ['-']
    | [] => ['-']
  led ++ kept

/-- A text of several lines. -/
def blockOfLines (indent : Nat) (s : List Char) : List Char :=
  '|' :: blockHead s ++ '\n' :: indentedLines indent (fun c => [c]) true s

/-- A text, whose further lines are indented by `indent`. -/
def scalarText (indent : Nat) (text : String) : List Char :=
  let s := text.toList
  let single := if admitsSingle s then singleQuoted indent s else doubleQuoted s
  if truthWords.contains text then single
  else if s.contains '\n' then
    if admitsLines s then blockOfLines indent s else doubleQuoted s
  else if meaning text ≠ .text || hasLeadingZero s then single
  else if admitsBare s then s
  else single

/-! ## Values -/

mutual

/-- The text after a colon or a dash, up to the end of its last line. -/
def valueText (indent : Nat) : Json → List Char
  | .null => " null\n".toList
  | .bool b => (if b then " true\n" else " false\n").toList
  | .int n => ' ' :: (Text.decimalInt n).toList ++ ['\n']
  | .real bits => ' ' :: (Json.realText bits).toList ++ ['\n']
  | .str s => ' ' :: scalarText (indent + 2) s ++ (if endsBlock s then [] else ['\n'])
  | .arr [] => " []\n".toList
  | .arr (v :: r) => '\n' :: itemsText indent (v :: r)
  | .obj [] => [' ', '\x7b', '\x7d', '\n']
  | .obj (f :: r) => '\n' :: fieldsText (indent + 2) (f :: r)
where
  /-- Whether the text of a block has ended its line. -/
  endsBlock (s : String) : Bool :=
    let cs := s.toList
    cs.contains '\n' && admitsLines cs && cs.getLast?.any endsLine

/-- The items of a list, each after a dash. -/
def itemsText (indent : Nat) : List Json → List Char
  | [] => []
  | v :: r => spaces indent ++ '-' :: valueText indent v ++ itemsText indent r

/-- The fields of an object, one below the other. -/
def fieldsText (indent : Nat) : List (String × Json) → List Char
  | [] => []
  | (k, v) :: r =>
    spaces indent ++ scalarText 0 k ++ ':' :: valueText indent v ++ fieldsText indent r

end

/-- The text of an object. -/
def documentText (fields : List (String × Json)) : String := String.ofList (fieldsText 0 fields)

end SchemaBridge.Yaml
