/-
# From text to tokens

`tokens?` cuts a text into tokens and drops white space and comments.  It fails on a literal, a
quoted name or a comment that is not closed, and on a malformed escape.
-/
import SchemaBridge.Sql.Token
import SchemaBridge.Text.Pattern

namespace SchemaBridge.Sql

/-! ## Names and operators -/

/-- A name that begins with the given characters. -/
def wordFrom (d : Dialect) (first r : List Char) : Token × List Char :=
  let text := String.ofList (first ++ r.takeWhile d.continuesName)
  (.word (.bare text) (Text.upperText text), r.dropWhile d.continuesName)

/-- An operator that may be the beginning of a longer one. -/
def operatorFrom (d : Dialect) (text : String) (r : List Char) : Token × List Char :=
  match r.takeWhile d.continuesOperator with
  | [] => (.symbol text, r)
  | more => (.operator (text ++ String.ofList more), r.dropWhile d.continuesOperator)

/-- A quoted name after its opening quote: its text with doubled quotes halved, and the rest. -/
def quotedNameSpan? (quote : Char) (done : List Char) : List Char → Option (String × List Char)
  | [] => none
  | c :: r =>
    if c == quote then
      match r with
      | d :: r' =>
        if d == quote then quotedNameSpan? quote (c :: done) r'
        else some (String.ofList done.reverse, d :: r')
      | [] => some (String.ofList done.reverse, [])
    else quotedNameSpan? quote (c :: done) r

/-! ## Literals -/

/-- The character a letter after a backslash stands for in a string. -/
def stringEscape : Char → Char
  | '0' => '\x00'
  | 'a' => '\x07'
  | 'b' => '\x08'
  | 'f' => '\x0c'
  | 'n' => '\n'
  | 'r' => '\r'
  | 't' => '\t'
  | 'Z' => '\x1a'
  | c => c

/-- A literal after its opening quote, with or without backslash escapes. -/
def stringSpan? (quote : Char) (backslash : Bool) (done : List Char) :
    List Char → Option (String × List Char)
  | [] => none
  | [c] => if c == quote then some (String.ofList done.reverse, []) else none
  | c :: e :: r =>
    if c == quote then
      if e == quote then stringSpan? quote backslash (c :: done) r
      else some (String.ofList done.reverse, e :: r)
    else if c == '\\' && backslash then stringSpan? quote backslash (stringEscape e :: done) r
    else stringSpan? quote backslash (c :: done) (e :: r)

/-- Whether a character is a digit to the base 16. -/
def isHexDigit (c : Char) : Bool :=
  c.isDigit || ('a' ≤ c && c ≤ 'f') || ('A' ≤ c && c ≤ 'F')

/-- Whether a character is a digit to the base 8. -/
def isOctalDigit (c : Char) : Bool := '0' ≤ c && c ≤ '7'

/-- The value of a digit to the base 16. -/
def digitOf (c : Char) : Nat :=
  if c.isDigit then c.toNat - '0'.toNat else c.toLower.toNat - 'a'.toNat + 10

/-- Value of digits in a base. -/
def valueIn (base : Nat) (ds : List Char) : Nat := ds.foldl (fun n c => base * n + digitOf c) 0

/-- The character of a code point; none if there is none. -/
def charOf? (n : Nat) : Option Char :=
  if n.isValidChar then some (Char.ofNat n) else none

/-- The character of a byte given by digits: its lowest eight bits, in ASCII and not zero. -/
def byteOf? (base : Nat) (ds : List Char) : Option Char :=
  let n := valueIn base ds % 256
  if 0 < n ∧ n ≤ 127 then some (Char.ofNat n) else none

/-- The value of hexadecimal digits with an optional plus sign before them. -/
def signedHex? (s : List Char) : Option Nat :=
  let ds := match s with
    | '+' :: r => r
    | r => r
  if ds ≠ [] ∧ ds.all isHexDigit then some (valueIn 16 ds) else none

/-- A Unicode escape of a fixed number of characters, which are hexadecimal digits perhaps after a
plus sign; the null character is refused. -/
def unicodeOf? (count : Nat) (r : List Char) : Option Char :=
  let s := r.take count
  if s.length < count then none
  else match signedHex? s with
    | none | some 0 => none
    | some n => charOf? n

/-- What stands after a backslash in a literal with C-style escapes: the character and the number
of characters it takes up. -/
def escape? : List Char → Option (Char × Nat)
  | [] => none
  | 'b' :: _ => some ('\x08', 1)
  | 'f' :: _ => some ('\x0c', 1)
  | 'n' :: _ => some ('\n', 1)
  | 'r' :: _ => some ('\r', 1)
  | 't' :: _ => some ('\t', 1)
  | 'u' :: r => (unicodeOf? 4 r).map fun c => (c, 5)
  | 'U' :: r => (unicodeOf? 8 r).map fun c => (c, 9)
  | 'x' :: r =>
    match (r.take 2).takeWhile isHexDigit with
    | [] => some ('x', 1)
    | ds => (byteOf? 16 ds).map fun c => (c, ds.length + 1)
  | c :: r =>
    if isOctalDigit c then
      let ds := c :: (r.take 2).takeWhile isOctalDigit
      (byteOf? 8 ds).map fun x => (x, ds.length)
    else if c == '\x00' then none
    else some (c, 1)

/-- A literal with C-style escapes after its opening quote. -/
def escapedSpan? : Nat → List Char → List Char → Option (String × List Char)
  | fuel + 1, done, '\'' :: '\'' :: r => escapedSpan? fuel ('\'' :: done) r
  | _ + 1, done, '\'' :: r => some (String.ofList done.reverse, r)
  | fuel + 1, done, '\\' :: r =>
    match escape? r with
    | some (c, n) => escapedSpan? fuel (c :: done) (r.drop n)
    | none => none
  | fuel + 1, done, c :: r => escapedSpan? fuel (c :: done) r
  | _, _, _ => none

/-- A code point of a fixed number of hexadecimal digits. -/
def codePoint? (count : Nat) (r : List Char) : Option Char :=
  let ds := r.take count
  if ds.length = count ∧ ds.all isHexDigit then charOf? (valueIn 16 ds) else none

/-- A literal with Unicode escapes after its opening quote. -/
def unicodeSpan? : Nat → List Char → List Char → Option (String × List Char)
  | fuel + 1, done, '\'' :: '\'' :: r => unicodeSpan? fuel ('\'' :: done) r
  | _ + 1, done, '\'' :: r => some (String.ofList done.reverse, r)
  | fuel + 1, done, '\\' :: '\\' :: r => unicodeSpan? fuel ('\\' :: done) r
  | fuel + 1, done, '\\' :: '+' :: r =>
    match codePoint? 6 r with
    | some c => unicodeSpan? fuel (c :: done) (r.drop 6)
    | none => none
  | fuel + 1, done, '\\' :: r =>
    match codePoint? 4 r with
    | some c => unicodeSpan? fuel (c :: done) (r.drop 4)
    | none => none
  | fuel + 1, done, c :: r => unicodeSpan? fuel (c :: done) r
  | _, _, _ => none

/-- A literal of a kind, from the reading of the text after its opening quote. -/
def literalToken (kind : LiteralKind) (span : Option (String × List Char)) :
    Option (Option Token × List Char) :=
  span.map fun (s, r) => (some (.literal kind s), r)

/-- Text between double dollar signs, after the first two. -/
def dollarSpan? (done : List Char) : List Char → Option (String × List Char)
  | '$' :: '$' :: r => some (String.ofList done.reverse, r)
  | c :: r => dollarSpan? (c :: done) r
  | [] => none

/-- Text up to a closing tag.  A tag that fails to match is taken as text. -/
def taggedSpan? (tag : List Char) : Nat → List Char → List Char → Option (String × List Char)
  | fuel + 1, done, '$' :: r =>
    -- the characters that agree with the tag, and the one that does not
    let agreed := ((tag.zip r).takeWhile fun p => p.1 == p.2).length
    if agreed = tag.length then
      match r.drop tag.length with
      | '$' :: rest => some (String.ofList done.reverse, rest)
      | rest => taggedSpan? tag fuel ((r.take agreed).reverse ++ '$' :: done) rest
    else if r.length ≤ agreed then none
    else taggedSpan? tag fuel ((r.take (agreed + 1)).reverse ++ '$' :: done) (r.drop (agreed + 1))
  | fuel + 1, done, c :: r => taggedSpan? tag fuel (c :: done) r
  | _, _, _ => none

/-- A parameter or a literal between dollar signs, after the first one. -/
def dollarToken (r : List Char) : Option (Option Token × List Char) :=
  match r with
  | '$' :: r => literalToken (.dollar "") (dollarSpan? [] r)
  | r =>
    let isTagChar := fun c => Text.isLetterOrNumeral c || c == '_'
    let tag := r.takeWhile isTagChar
    match r.dropWhile isTagChar with
    | '$' :: rest =>
      literalToken (.dollar (String.ofList tag)) (taggedSpan? tag (rest.length + 1) [] rest)
    | rest => some (some (.placeholder ("$" ++ String.ofList tag)), rest)

/-! ## Numbers -/

/-- The exponent at the front of a text, if there is a whole one. -/
def exponentSpan (r : List Char) : List Char × List Char :=
  match r with
  | e :: r' =>
    if e == 'e' || e == 'E' then
      let (sign, r'') := match r' with
        | '+' :: q => (['+'], q)
        | '-' :: q => (['-'], q)
        | q => ([], q)
      match r''.takeWhile Char.isDigit with
      | [] => ([], r)
      | ds => (e :: sign ++ ds, r''.dropWhile Char.isDigit)
    else ([], r)
  | [] => ([], [])

/-- A number, a hexadecimal literal, a name that begins with digits, or a period. -/
def numberToken (d : Dialect) (s : List Char) : Token × List Char :=
  let whole := s.takeWhile Char.isDigit
  let r := s.dropWhile Char.isDigit
  match whole, r with
  | ['0'], 'x' :: r =>
    (.literal .hex (String.ofList (r.takeWhile isHexDigit)), r.dropWhile isHexDigit)
  | _, _ =>
    let (point, r) : List Char × List Char := match r with
      | '.' :: q => (['.'], q)
      | q => ([], q)
    let text := whole ++ point ++ r.takeWhile Char.isDigit
    let r := r.dropWhile Char.isDigit
    if text = ['.'] then (.symbol ".", r)
    else
      let (exponent, r) := exponentSpan r
      let text := text ++ exponent
      if d = .mysql ∧ exponent = [] ∧ r.takeWhile d.continuesName ≠ [] then wordFrom d text r
      else match r with
        | 'L' :: q => (.number (String.ofList text) true, q)
        | q => (.number (String.ofList text) false, q)

/-! ## Comments -/

/-- The text after a block comment, which may contain others; `depth` counts the open ones. -/
def afterComment? (depth : Nat) (last : Char) : List Char → Option (List Char)
  | [] => none
  | c :: r =>
    if last == '/' && c == '*' then afterComment? (depth + 1) c r
    else if last == '*' && c == '/' then
      if depth ≤ 1 then some r else afterComment? (depth - 1) c r
    else afterComment? depth c r

/-- The text after a line. -/
def afterLine (r : List Char) : List Char := (r.dropWhile (· != '\n')).tail

/-! ## Tokens -/

/-- The token of a step. -/
def emit (p : Token × List Char) : Option (Option Token × List Char) := some (some p.1, p.2)

/-- A step that yields no token. -/
def skipTo (r : List Char) : Option (Option Token × List Char) := some (none, r)

/-- Letters that may introduce a literal. -/
def introduced? (d : Dialect) (c : Char) (r : List Char) :
    Option (Option (Option Token × List Char)) :=
  match c.toLower, r with
  | 'b', '\'' :: q => if d = .generic then some (literalToken .byte (stringSpan? '\'' false [] q)) else none
  | 'b', '"' :: q =>
    if d = .generic then some (literalToken .doubleByte (stringSpan? '"' false [] q)) else none
  | 'r', '\'' :: q => if d = .generic then some (literalToken .raw (stringSpan? '\'' false [] q)) else none
  | 'r', '"' :: q =>
    if d = .generic then some (literalToken .doubleRaw (stringSpan? '"' false [] q)) else none
  | 'n', '\'' :: q => some (literalToken .national (stringSpan? '\'' true [] q))
  | 'e', '\'' :: q => some (literalToken .escaped (escapedSpan? (q.length + 1) [] q))
  | 'u', '&' :: '\'' :: q =>
    if d = .mysql then none else some (literalToken .unicode (unicodeSpan? (q.length + 1) [] q))
  | 'x', '\'' :: q => some (literalToken .hex (stringSpan? '\'' true [] q))
  | _, _ => none

/-- Operators and punctuation. -/
def symbolToken (d : Dialect) (c : Char) (r : List Char) : Option (Option Token × List Char) :=
  let one := fun (t : String) (r : List Char) => emit (.symbol t, r)
  let open' := fun (t : String) (r : List Char) => emit (operatorFrom d t r)
  match c, r with
  | '-', '-' :: r => skipTo (afterLine r)
  | '-', '>' :: '>' :: r => one "->>" r
  | '-', '>' :: r => open' "->" r
  | '-', r => open' "-" r
  | '/', '*' :: r => (afterComment? 1 ' ' r).map fun rest => (none, rest)
  | '/', r =>
    match r with
    | '/' :: q => if d = .generic then one "//" q else one "/" r
    | _ => one "/" r
  | '%', r =>
    match r with
    | w :: _ => if Text.isBlank w then one "%" r else open' "%" r
    | [] => one "%" r
  | '|', '/' :: r => open' "|/" r
  | '|', '|' :: '/' :: r => open' "||/" r
  | '|', '|' :: r => open' "||" r
  | '|', r => open' "|" r
  | '=', '>' :: r => one "=>" r
  | '=', '=' :: r => one "==" r
  | '!', '=' :: r => one "<>" r
  | '!', '!' :: r => one "!!" r
  | '!', '~' :: '*' :: r => one "!~*" r
  | '!', '~' :: '~' :: '*' :: r => one "!~~*" r
  | '!', '~' :: '~' :: r => one "!~~" r
  | '!', '~' :: r => one "!~" r
  | '<', '=' :: '>' :: r => open' "<=>" r
  | '<', '=' :: r => open' "<=" r
  | '<', '>' :: r => open' "<>" r
  | '<', '<' :: r => open' "<<" r
  | '<', '@' :: r => open' "<@" r
  | '<', r => open' "<" r
  | '>', '=' :: r => open' ">=" r
  | '>', '>' :: r => open' ">>" r
  | '>', r => open' ">" r
  | ':', ':' :: r => one "::" r
  | ':', '=' :: r => one ":=" r
  | '&', '&' :: r => open' "&&" r
  | '&', r => open' "&" r
  | '^', '@' :: r => one "^@" r
  | '~', '*' :: r => open' "~*" r
  | '~', '~' :: '*' :: r => open' "~~*" r
  | '~', '~' :: r => open' "~~" r
  | '~', r => open' "~" r
  | '#', r =>
    if d = .mysql then skipTo (afterLine r)
    else match r with
      | '-' :: r => open' "#-" r
      | '>' :: '>' :: r => open' "#>>" r
      | '>' :: r => open' "#>" r
      | ' ' :: _ => one "#" r
      | s :: q => if d.startsName '#' then emit (wordFrom d ['#', s] q) else open' "#" r
      | [] => open' "#" r
  | '@', '>' :: r => one "@>" r
  | '@', '?' :: r => one "@?" r
  | '@', '@' :: r =>
    match r with
    | t :: q => if t != ' ' && d.startsName '@' then emit (wordFrom d ['@', '@', t] q) else one "@@" r
    | [] => one "@@" r
  | '@', r =>
    match r with
    | t :: q => if t != ' ' && d.startsName '@' then emit (wordFrom d ['@', t] q) else one "@" r
    | [] => one "@" r
  | '?', r =>
    if d = .postgres then
      match r with
      | '|' :: r => one "?|" r
      | '&' :: r => one "?&" r
      | r => one "?" r.tail
    else
      emit (.placeholder ("?" ++ String.ofList (r.takeWhile Text.isNumeral)), r.dropWhile Text.isNumeral)
  | c, r => one c.toString r

/-- One step: the token at the front of a text, if it is not white space, and the rest. -/
def lexOne (d : Dialect) (c : Char) (r : List Char) : Option (Option Token × List Char) :=
  if c == ' ' || c == '\t' || c == '\n' || c == '\r' then skipTo r
  else match introduced? d c r with
  | some result => result
  | none =>
    if c == '\'' then literalToken .single (stringSpan? '\'' d.escapesInStrings [] r)
    else if c == '"' && d == .mysql then
      literalToken .double (stringSpan? '"' d.escapesInStrings [] r)
    else if d.quotesName c then
      (quotedNameSpan? c [] r).map fun (s, rest) => (some (.word ⟨s, some c⟩ ""), rest)
    else if c.isDigit || c == '.' then emit (numberToken d (c :: r))
    else if "-/%|=!<>:&^~#@?".toList.contains c then symbolToken d c r
    else if "+*(),;\\[]\x7b\x7d".toList.contains c then emit (.symbol c.toString, r)
    else if d.startsName c then emit (wordFrom d [c] r)
    else if c == '$' then dollarToken r
    else if Text.isBlank c then skipTo r
    else emit (.symbol c.toString, r)

/-- The tokens of a text; `fuel` is at least its length. -/
def tokensFrom (d : Dialect) : Nat → List Char → Option (List Token)
  | _, [] => some []
  | 0, _ => none
  | fuel + 1, c :: r =>
    match lexOne d c r with
    | none => none
    | some (none, rest) => tokensFrom d fuel rest
    | some (some t, rest) => (tokensFrom d fuel rest).map (t :: ·)

/-- The tokens of a text. -/
def tokens? (d : Dialect) (text : String) : Option (List Token) :=
  tokensFrom d text.length text.toList

end SchemaBridge.Sql
