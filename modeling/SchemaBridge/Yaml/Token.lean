/-
# Tokens of a YAML text

A YAML text as a list of tokens.  Indentation shows in them as the beginning and the end of block
sequences and mappings.  Whether a scalar is the key of a mapping is known only from the colon after
it, so the tokens that introduce a key are put in front of tokens already found.
-/
import SchemaBridge.Yaml.Scalar

namespace SchemaBridge.Yaml

/-- A piece of a document: a mark of its structure, or a scalar. -/
inductive Token
  | directive
  | documentStart
  | documentEnd
  | sequenceStart
  | mappingStart
  /-- End of a block sequence or mapping. -/
  | blockEnd
  | openBracket
  | closeBracket
  | openBrace
  | closeBrace
  | comma
  /-- The dash before an item of a block sequence. -/
  | dash
  | key
  | value
  | alias (name : String)
  | anchor (name : String)
  | tag
  /-- A scalar, and whether it is bare. -/
  | scalar (isBare : Bool) (text : String)
  deriving DecidableEq, Repr, Inhabited

/-- A token that turns out to be a key if a colon follows it. -/
structure PossibleKey where
  /-- Whether only a key can stand there. -/
  required : Bool
  /-- Number of tokens before it. -/
  position : Nat
  line : Nat
  column : Nat
  offset : Nat
  deriving DecidableEq, Repr, Inhabited

/-- A text of which a beginning has been made into tokens. -/
structure Scan where
  place : Cursor
  tokens : List Token
  /-- Column of the innermost block collection. -/
  indent : Int
  /-- Columns of the block collections around it. -/
  outer : List Int
  /-- Whether a key may stand at the place. -/
  keyAllowed : Bool
  possible : Option PossibleKey
  /-- The possible key of each bracket or brace around the place. -/
  enclosing : List (Option PossibleKey)
  deriving DecidableEq, Repr, Inhabited

namespace Scan

/-- The scan at the beginning of a text. -/
def start (text : List Char) : Scan :=
  { place := .start text
    tokens := []
    indent := -1
    outer := []
    keyAllowed := true
    possible := none
    enclosing := [] }

/-- Whether the place is inside brackets or braces. -/
def inFlow (s : Scan) : Bool := !s.enclosing.isEmpty

/-- Add a token. -/
def emit (s : Scan) (t : Token) : Scan := { s with tokens := s.tokens ++ [t] }

/-- Put a token in front of those from a position on. -/
def insertAt (s : Scan) (position : Nat) (t : Token) : Scan :=
  { s with tokens := s.tokens.take position ++ t :: s.tokens.drop position }

/-- Go on at another place. -/
def moveTo (s : Scan) (c : Cursor) : Scan := { s with place := c }

/-! ## Possible keys -/

/-- Forget a possible key that the place has left behind. -/
def dropStale (s : Scan) : Reading Scan :=
  let stale := fun (k : PossibleKey) => k.line < s.place.line || k.offset + 1024 < s.place.offset
  if (s.possible :: s.enclosing).any fun k => k.any fun k => stale k && k.required then
    .error "no colon after a key"
  else
    .ok { s with
      possible := s.possible.filter fun k => !stale k
      enclosing := s.enclosing.map fun k => k.filter fun k => !stale k }

/-- Forget the possible key at this level. -/
def dropKey (s : Scan) : Reading Scan :=
  if s.possible.any (·.required) then .error "no colon after a key"
  else .ok { s with possible := none }

/-- Note that a key may begin at the place. -/
def noteKey (s : Scan) : Reading Scan :=
  if !s.keyAllowed then .ok s
  else do
    let s ← s.dropKey
    let key : PossibleKey :=
      { required := !s.inFlow && s.indent = s.place.column
        position := s.tokens.length
        line := s.place.line
        column := s.place.column
        offset := s.place.offset }
    return { s with possible := some key }

/-! ## Indentation -/

/-- Begin a block collection at a column if it lies deeper than the innermost one. -/
def deepen (s : Scan) (column : Nat) (position : Nat) (t : Token) : Scan :=
  if s.inFlow || (column : Int) ≤ s.indent then s
  else { s.insertAt position t with indent := column, outer := s.indent :: s.outer }

/-- End the block collections that lie deeper than a column. -/
def endBlocks (s : Scan) (column : Int) : Scan :=
  if s.inFlow then s
  else
    let levels := s.indent :: s.outer
    let ended := (levels.takeWhile (column < ·)).length
    let left := levels.dropWhile (column < ·)
    { s with
      tokens := s.tokens ++ List.replicate ended .blockEnd
      indent := left.headD (-1)
      outer := left.tail }

/-! ## Single tokens -/

/-- Go past blanks, comments and line ends.  A tab counts as a blank only where no key may
stand. -/
def skipGap : Nat → Scan → Scan
  | 0, s => s
  | fuel + 1, s =>
    let c := if s.place.offset = 0 && s.place.rest.head?.any (·.toNat = 0xfeff) then s.place.advance else s.place
    let c := c.skipWhile fun d => d = ' ' || (d = '\t' && (s.inFlow || !s.keyAllowed))
    let c := if c.rest.head? == some '#' then c.restOfLine.2 else c
    match c.rest with
    | d :: _ =>
      if isBreak d then
        skipGap fuel { s with place := c.advance, keyAllowed := s.keyAllowed || !s.inFlow }
      else s.moveTo c
    | [] => s.moveTo c

/-- A token that begins a line at the outermost level. -/
def mark (s : Scan) (t : Token) (after : Cursor) : Reading Scan := do
  let s ← (s.endBlocks (-1)).dropKey
  return ({ s with keyAllowed := false }.emit t).moveTo after

/-- An opening bracket or brace. -/
def opening (s : Scan) (t : Token) : Reading Scan := do
  let s ← s.noteKey
  let s := { s with enclosing := s.possible :: s.enclosing, possible := none, keyAllowed := true }
  return (s.emit t).moveTo s.place.advance

/-- A closing bracket or brace. -/
def closing (s : Scan) (t : Token) : Reading Scan := do
  let s ← s.dropKey
  let s : Scan := match s.enclosing with
    | k :: r => { s with possible := k, enclosing := r }
    | [] => s
  return ({ s with keyAllowed := false }.emit t).moveTo s.place.advance

/-- The comma after an item or an entry. -/
def comma (s : Scan) : Reading Scan := do
  let s ← s.dropKey
  return ({ s with keyAllowed := true }.emit .comma).moveTo s.place.advance

/-- The dash before an item. -/
def dash (s : Scan) : Reading Scan := do
  if !s.inFlow && !s.keyAllowed then throw "an item is not allowed here"
  let s ← (s.deepen s.place.column s.tokens.length .sequenceStart).dropKey
  return ({ s with keyAllowed := true }.emit .dash).moveTo s.place.advance

/-- A question mark before a key. -/
def explicitKey (s : Scan) : Reading Scan := do
  if !s.inFlow && !s.keyAllowed then throw "a key is not allowed here"
  let s ← (s.deepen s.place.column s.tokens.length .mappingStart).dropKey
  return ({ s with keyAllowed := !s.inFlow }.emit .key).moveTo s.place.advance

/-- The colon before a value.  It makes a key of the possible key before it. -/
def colon (s : Scan) : Reading Scan :=
  match s.possible with
  | some k =>
    let s := (s.insertAt k.position .key).deepen k.column k.position .mappingStart
    let s := { s with possible := none, keyAllowed := false }
    .ok ((s.emit .value).moveTo s.place.advance)
  | none => do
    if !s.inFlow && !s.keyAllowed then throw "a value is not allowed here"
    let s := s.deepen s.place.column s.tokens.length .mappingStart
    return ({ s with keyAllowed := !s.inFlow }.emit .value).moveTo s.place.advance

/-- A token that may begin a key, with the place after it. -/
def item (s : Scan) (read : Cursor → Reading (Token × Cursor)) : Reading Scan := do
  let s ← s.noteKey
  let (t, after) ← read s.place
  return ({ s with keyAllowed := false }.emit t).moveTo after

/-- A name after an asterisk or an ampersand. -/
def readName (make : String → Token) (c : Cursor) : Reading (Token × Cursor) :=
  let c := c.advance
  let name := c.rest.takeWhile fun d => d.isAlphanum || d = '-' || d = '_'
  let after := c.advanceBy name.length
  let ended := atGap after.rest
    || after.rest.head?.any fun d => ['?', ':', ',', ']', '}', '%', '@', '\x60'].contains d
  if name.isEmpty || !ended then .error "a name of letters and digits is missing"
  else .ok (make (String.ofList name), after)

/-- A tag. -/
def readTag (flow : Bool) (c : Cursor) : Reading (Token × Cursor) :=
  let text := c.rest.takeWhile fun d => !isBlank d && !isBreak d && !(flow && d = ',')
  .ok (.tag, c.advanceBy text.length)

/-- A scalar between quotation marks. -/
def readQuoted (double : Bool) (c : Cursor) : Reading (Token × Cursor) := do
  let (text, after) ← quotedScalar double c
  return (.scalar false text, after)

/-- A block of lines. -/
def lines (s : Scan) (literal : Bool) : Reading Scan := do
  let s ← s.dropKey
  let (text, after) ← block literal s.indent s.place
  return ({ s with keyAllowed := true }.emit (.scalar false text)).moveTo after

/-- A bare scalar. -/
def bareScalar (s : Scan) : Reading Scan := do
  let s ← s.noteKey
  let (text, broken, after) ← bare s.inFlow (s.indent + 1) s.place
  return ({ s with keyAllowed := broken }.emit (.scalar true text)).moveTo after

/-- Whether a bare scalar can begin with a text. -/
def beginsBare (flow : Bool) : List Char → Bool
  | [] => false
  | c :: r =>
    if c = '-' then !(r.head?.any isBlank)
    else if c = '?' || c = ':' then !flow && !atGap r
    else !atGap (c :: r) && !("?:,[]{}#&*!|>'\"%@\x60".toList.contains c)

/-- Whether a line is a directive: the version of YAML or the handle of a family of tags. -/
def isDirective (line : List Char) : Bool :=
  let spaced := String.ofList (line.map fun c => if isBlank c then ' ' else c)
  match ((spaced.splitOn " ").filter (· ≠ "")).takeWhile (!·.startsWith "#") with
  | ["%YAML", version] => ["1.1", "1.2"].contains version
  | ["%TAG", handle, _] => handle.startsWith "!" && handle.endsWith "!"
  | _ => false

/-- Read the token at the place, which is not at the end of the text. -/
def token (s : Scan) : Reading Scan :=
  match s.place.rest with
  | [] => .ok s
  | c :: r =>
    if s.place.column = 0 && c = '%' then
      if isDirective s.place.restOfLine.1 then s.mark .directive s.place.restOfLine.2
      else .error "a directive that is unknown or of another version"
    else if s.place.atMark '-' then s.mark .documentStart (s.place.advanceBy 3)
    else if s.place.atMark '.' then s.mark .documentEnd (s.place.advanceBy 3)
    else if c = '[' then s.opening .openBracket
    else if c = '\x7b' then s.opening .openBrace
    else if c = ']' then s.closing .closeBracket
    else if c = '\x7d' then s.closing .closeBrace
    else if c = ',' then s.comma
    else if c = '-' && atGap r then s.dash
    else if c = '?' && (s.inFlow || atGap r) then s.explicitKey
    else if c = ':' && (s.inFlow || atGap r) then s.colon
    else if c = '*' then s.item (readName .alias)
    else if c = '&' then s.item (readName .anchor)
    else if c = '!' then s.item (readTag s.inFlow)
    else if (c = '|' || c = '>') && !s.inFlow then s.lines (c = '|')
    else if c = '\'' || c = '"' then s.item (readQuoted (c = '"'))
    else if beginsBare s.inFlow s.place.rest then s.bareScalar
    else .error "a character that begins no token"

/-- Read the tokens of the rest of the text. -/
def run : Nat → Scan → Reading Scan
  | 0, _ => .error "unexpected end"
  | fuel + 1, s => do
    let s ← (skipGap (s.place.rest.length + 1) s).dropStale
    let s := s.endBlocks s.place.column
    if s.place.rest.isEmpty then (s.endBlocks (-1)).dropKey
    else run fuel (← s.token)

end Scan

/-- The tokens of a text. -/
def tokens (text : String) : Reading (List Token) := do
  let chars := text.toList
  if !chars.all isAllowed then throw "control characters are not allowed"
  let prepared := prepare chars
  return (← (Scan.start prepared).run (prepared.length + 2)).tokens

end SchemaBridge.Yaml
