/-
# Places in a YAML text

A cursor is a place in a text with what lies ahead of it.  Line ends of every kind are one character
here: `prepare` makes line feeds of carriage returns and next-line characters, and leaves the line
and paragraph separators as they are.
-/

namespace SchemaBridge.Yaml

/-! ## Characters -/

/-- A character that may stand in a text. -/
def isAllowed (c : Char) : Bool :=
  let n := c.toNat
  n = 9 || n = 10 || n = 13 || (32 ≤ n && n ≤ 0x7e) || n = 0x85 || (0xa0 ≤ n && n ≤ 0xfffd)
    || 0x10000 ≤ n

/-- Whether a character is a blank or a tab. -/
def isBlank (c : Char) : Bool := c = ' ' || c = '\t'

/-- A line end in a prepared text. -/
def isBreak (c : Char) : Bool := c = '\n' || c.toNat = 0x2028 || c.toNat = 0x2029

/-- Characters with a meaning inside brackets and braces. -/
def isFlowMark (c : Char) : Bool := [',', '[', ']', '{', '}'].contains c

/-- Make line feeds of line ends. -/
def prepare : List Char → List Char
  | '\r' :: '\n' :: r => '\n' :: prepare r
  | '\r' :: r => '\n' :: prepare r
  | c :: r => (if c.toNat = 0x85 then '\n' else c) :: prepare r
  | [] => []

/-- Whether a text begins with a blank or a line end, or has come to its end. -/
def atGap : List Char → Bool
  | [] => true
  | c :: _ => isBlank c || isBreak c

/-! ## Cursors -/

/-- A place in a text. -/
structure Cursor where
  rest : List Char
  line : Nat
  column : Nat
  /-- Number of characters before the place. -/
  offset : Nat
  deriving DecidableEq, Repr, Inhabited

namespace Cursor

/-- The beginning of a text. -/
def start (text : List Char) : Cursor := ⟨text, 0, 0, 0⟩

/-- Go past one character. -/
def advance (c : Cursor) : Cursor :=
  match c.rest with
  | [] => c
  | d :: r =>
    if isBreak d then ⟨r, c.line + 1, 0, c.offset + 1⟩
    else ⟨r, c.line, c.column + 1, c.offset + 1⟩

/-- Go past some characters. -/
def advanceBy (c : Cursor) : Nat → Cursor
  | 0 => c
  | n + 1 => c.advance.advanceBy n

/-- Go past the characters that satisfy `p`. -/
def skipWhile (p : Char → Bool) (c : Cursor) : Cursor := c.advanceBy (c.rest.takeWhile p).length

/-- The text up to the end of the line, and the place where it ends. -/
def restOfLine (c : Cursor) : List Char × Cursor :=
  let line := c.rest.takeWhile fun d => !isBreak d
  (line, c.advanceBy line.length)

/-- Whether a line begins with three given characters, set off from what follows. -/
def atMark (mark : Char) (c : Cursor) : Bool :=
  c.column = 0 && c.rest.take 3 == [mark, mark, mark] && atGap (c.rest.drop 3)

/-- Whether a line begins with the mark of the beginning or the end of a document. -/
def atDocumentMark (c : Cursor) : Bool := c.atMark '-' || c.atMark '.'

end Cursor

end SchemaBridge.Yaml
