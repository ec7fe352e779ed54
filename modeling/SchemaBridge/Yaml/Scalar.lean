/-
# Scalars in a YAML text

A scalar is a piece of text: bare, between quotes, or a block of lines.  In the first two a line end
folds to a space and empty lines to line feeds.  Every reading begins at the first character of the
scalar and returns the text together with the place after it.
-/
import SchemaBridge.Text.Pattern
import SchemaBridge.Yaml.Cursor

namespace SchemaBridge.Yaml

/-- What a step may come to, with the reason if it fails. -/
abbrev Reading := Except String

/-! ## Folding -/

/-- Blanks and line ends between two runs of characters. -/
structure Gap where
  /-- Blanks before the first line end, last first. -/
  blanks : List Char
  /-- The first line end; one that is escaped is empty. -/
  first : Option (List Char)
  /-- Further line ends, last first. -/
  more : List Char
  deriving DecidableEq, Repr, Inhabited

namespace Gap

/-- Nothing between two runs of characters. -/
def empty : Gap := ⟨[], none, []⟩

/-- A gap that begins with an escaped line end. -/
def escaped : Gap := ⟨[], some [], []⟩

/-- What a gap stands for between two runs. -/
def text (g : Gap) : List Char :=
  match g.first with
  | none => g.blanks.reverse
  | some ['\n'] => if g.more.isEmpty then [' '] else g.more.reverse
  | some first => first ++ g.more.reverse

/-- A gap with one more character; `none` if it is none of a gap. -/
def extend? (g : Gap) (c : Char) : Option Gap :=
  if isBlank c then
    some (if g.first.isNone then { g with blanks := c :: g.blanks } else g)
  else if isBreak c then
    some (match g.first with
      | none => { g with first := some [c] }
      | some _ => { g with more := c :: g.more })
  else none

/-- Read a gap. -/
def read : Nat → Gap → Cursor → Gap × Cursor
  | 0, g, c => (g, c)
  | fuel + 1, g, c =>
    match c.rest with
    | [] => (g, c)
    | d :: _ =>
      match g.extend? d with
      | none => (g, c)
      | some g => read fuel g c.advance

end Gap

/-! ## Bare scalars -/

/-- Read a run of characters of a bare scalar, last first. -/
def bareRun (flow : Bool) : Nat → List Char → Cursor → Reading (List Char × Cursor)
  | 0, run, c => .ok (run, c)
  | fuel + 1, run, c =>
    match c.rest with
    | [] => .ok (run, c)
    | d :: r =>
      if atGap c.rest then .ok (run, c)
      else if flow && d = ':' && r.head?.any (fun e => isFlowMark e || e = '?') then
        .error "unexpected colon"
      else if d = ':' && atGap r then .ok (run, c)
      else if flow && isFlowMark d then .ok (run, c)
      else bareRun flow fuel (d :: run) c.advance

/-- Whether a tab stands where the indentation of a bare scalar belongs. -/
def tabInIndent (indent : Int) : Nat → Bool → Cursor → Bool
  | 0, _, _ => false
  | fuel + 1, broken, c =>
    match c.rest with
    | [] => false
    | d :: _ =>
      if isBreak d then tabInIndent indent fuel true c.advance
      else if isBlank d then
        (broken && d = '\t' && c.column < indent) || tabInIndent indent fuel broken c.advance
      else false

/-- Read a bare scalar: its text, last first, and whether the line has ended after it. -/
def bareFrom (flow : Bool) (indent : Int) :
    Nat → List Char → Gap → Cursor → Reading (List Char × Bool × Cursor)
  | 0, done, gap, c => .ok (done, gap.first.isSome, c)
  | fuel + 1, done, gap, c => do
    if c.atDocumentMark || c.rest.head? == some '#' then return (done, gap.first.isSome, c)
    let (run, next) ← bareRun flow c.rest.length [] c
    if run.isEmpty then return (done, gap.first.isSome, c)
    let done := run ++ gap.text.reverse ++ done
    if tabInIndent indent next.rest.length false next then throw "tab in the indentation"
    let (gap, after) := Gap.read next.rest.length .empty next
    if after.offset = next.offset then return (done, false, next)
    if !flow && (after.column : Int) < indent then return (done, gap.first.isSome, after)
    bareFrom flow indent fuel done gap after

/-- Read a bare scalar whose continuation lines are indented by at least `indent`. -/
def bare (flow : Bool) (indent : Int) (c : Cursor) : Reading (String × Bool × Cursor) := do
  let (text, broken, after) ← bareFrom flow indent (c.rest.length + 1) [] .empty c
  return (String.ofList text.reverse, broken, after)

/-! ## Quoted scalars -/

/-- The value of a hexadecimal digit. -/
def hexValue? (c : Char) : Option Nat :=
  if c.isDigit then some (c.toNat - '0'.toNat)
  else if 'a' ≤ c && c ≤ 'f' then some (c.toNat - 'a'.toNat + 10)
  else if 'A' ≤ c && c ≤ 'F' then some (c.toNat - 'A'.toNat + 10)
  else none

/-- The character that an escape of some hexadecimal digits stands for. -/
def hexEscape? (width : Nat) (s : List Char) : Option Char := do
  let digits := s.take width
  if digits.length < width then none
  let values ← digits.mapM hexValue?
  let n := values.foldl (fun n d => 16 * n + d) 0
  if n.isValidChar then some (Char.ofNat n) else none

/-- The character that the text after a backslash stands for, and how many characters spell it. -/
def escape? : List Char → Option (Char × Nat)
  | [] => none
  | c :: r =>
    let simple := [('0', 0), ('a', 7), ('b', 8), ('t', 9), ('\t', 9), ('n', 10), ('v', 11), ('f', 12),
      ('r', 13), ('e', 27), (' ', 32), ('"', 34), ('/', 47), ('\\', 92), ('N', 0x85), ('_', 0xa0),
      ('L', 0x2028), ('P', 0x2029)]
    match simple.lookup c with
    | some n => some (Char.ofNat n, 1)
    | none =>
      let width := match c with
        | 'x' => 2
        | 'u' => 4
        | 'U' => 8
        | _ => 0
      if width = 0 then none else (hexEscape? width r).map fun d => (d, width + 1)

/-- How a run between quotes ends. -/
inductive RunEnd
  /-- By the closing quote. -/
  | closed
  /-- By an escaped line end. -/
  | joined
  /-- By a blank, a line end or the end of the text. -/
  | gap
  deriving DecidableEq, Repr, Inhabited

/-- Read a run of characters between single quotes, last first. -/
def singleRun : Nat → List Char → Cursor → List Char × RunEnd × Cursor
  | 0, run, c => (run, .gap, c)
  | fuel + 1, run, c =>
    match c.rest with
    | '\'' :: '\'' :: _ => singleRun fuel ('\'' :: run) (c.advanceBy 2)
    | '\'' :: _ => (run, .closed, c.advance)
    | d :: _ => if atGap c.rest then (run, .gap, c) else singleRun fuel (d :: run) c.advance
    | [] => (run, .gap, c)

/-- Read a run of characters between double quotes, last first. -/
def doubleRun : Nat → List Char → Cursor → Reading (List Char × RunEnd × Cursor)
  | 0, run, c => .ok (run, .gap, c)
  | fuel + 1, run, c =>
    match c.rest with
    | '"' :: _ => .ok (run, .closed, c.advance)
    | '\\' :: r =>
      if r.head?.any isBreak then .ok (run, .joined, c.advanceBy 2)
      else
        match escape? r with
        | none => .error "unknown escape"
        | some (d, n) => doubleRun fuel (d :: run) (c.advanceBy (n + 1))
    | d :: _ => if atGap c.rest then .ok (run, .gap, c) else doubleRun fuel (d :: run) c.advance
    | [] => .ok (run, .gap, c)

/-- Read the rest of a quoted scalar, last first. -/
def quotedFrom (double : Bool) : Nat → List Char → Cursor → Reading (List Char × Cursor)
  | 0, _, _ => .error "unexpected end"
  | fuel + 1, done, c => do
    if c.atDocumentMark then throw "document mark in a quoted scalar"
    if c.rest.isEmpty then throw "unexpected end"
    let (run, ending, next) ←
      if double then doubleRun c.rest.length [] c else pure (singleRun c.rest.length [] c)
    let done := run ++ done
    match ending with
    | .closed => return (done, next)
    | ending =>
      let (gap, after) :=
        Gap.read next.rest.length (if ending = .joined then .escaped else .empty) next
      quotedFrom double fuel (gap.text.reverse ++ done) after

/-- Read a quoted scalar. -/
def quotedScalar (double : Bool) (c : Cursor) : Reading (String × Cursor) := do
  let (text, after) ← quotedFrom double (c.rest.length + 1) [] c.advance
  return (String.ofList text.reverse, after)

/-! ## Blocks of lines -/

/-- What becomes of the line ends at the end of a block. -/
inductive Chomping
  /-- None is kept. -/
  | strip
  /-- One is kept. -/
  | clip
  /-- All are kept. -/
  | keep
  deriving DecidableEq, Repr, Inhabited

/-- The mark for what becomes of the line ends. -/
def chompMark : List Char → Option Chomping
  | '+' :: _ => some .keep
  | '-' :: _ => some .strip
  | _ => none

/-- The marks after the sign of a block: line ends, and indentation if it is given. -/
def blockMarks (c : Cursor) : Reading (Chomping × Option Nat × Cursor) := do
  let digit := fun (c : Cursor) => match c.rest with
    | d :: _ => if d.isDigit then some (d.toNat - '0'.toNat) else none
    | [] => none
  let (chomping, indent, after) : Chomping × Option Nat × Cursor :=
    match chompMark c.rest with
    | some k =>
      match digit c.advance with
      | some n => (k, some n, c.advanceBy 2)
      | none => (k, none, c.advance)
    | none =>
      match digit c with
      | none => (.clip, none, c)
      | some n =>
        match chompMark c.advance.rest with
        | some k => (k, some n, c.advanceBy 2)
        | none => (.clip, some n, c.advance)
  if indent = some 0 then throw "an indentation of zero"
  return (chomping, indent, after)

/-- Go past what may stand on the line after the sign of a block. -/
def blockHeadEnd (c : Cursor) : Reading Cursor :=
  let c := c.skipWhile isBlank
  let c := if c.rest.head? == some '#' then c.restOfLine.2 else c
  match c.rest with
  | [] => .ok c
  | d :: _ => if isBreak d then .ok c.advance else .error "unexpected text after a block sign"

/-- Read empty lines: line ends, last first, the deepest column reached, and the place after them. -/
def emptyLines (indent : Option Nat) :
    Nat → List Char → Nat → Cursor → Reading (List Char × Nat × Cursor)
  | 0, breaks, deepest, c => .ok (breaks, deepest, c)
  | fuel + 1, breaks, deepest, c =>
    let inside := fun (column : Nat) => indent.all fun n => column < n
    let spaces := (c.rest.takeWhile (· = ' ')).length
    let taken := match indent with
      | none => spaces
      | some n => min spaces (n - c.column)
    let c := c.advanceBy taken
    let deepest := max deepest c.column
    match c.rest with
    | d :: _ =>
      if inside c.column && d = '\t' then .error "tab in the indentation"
      else if isBreak d then emptyLines indent fuel (d :: breaks) deepest c.advance
      else .ok (breaks, deepest, c)
    | [] => .ok (breaks, deepest, c)

/-- A block of lines as it is being read; texts are kept last character first. -/
structure Lines where
  text : List Char
  /-- The line end of the last line. -/
  ending : List Char
  /-- The empty lines after it. -/
  empty : List Char
  /-- Whether the last line began with a blank. -/
  blankLed : Bool
  deriving DecidableEq, Repr, Inhabited

/-- The text so far with what joins it to a further line. -/
def Lines.joined (literal : Bool) (l : Lines) (blankLed : Bool) : List Char :=
  let folds := !literal && l.ending = ['\n'] && !l.blankLed && !blankLed
  if folds then l.empty ++ (if l.empty.isEmpty then [' '] else []) ++ l.text
  else l.empty ++ l.ending ++ l.text

/-- Read the lines of a block. -/
def blockLines (literal : Bool) (indent : Nat) : Nat → Lines → Cursor → Reading (Lines × Cursor)
  | 0, l, c => .ok (l, c)
  | fuel + 1, l, c =>
    if c.column ≠ indent || c.rest.isEmpty then .ok (l, c)
    else do
      let blankLed := c.rest.head?.any isBlank
      let (line, next) := c.restOfLine
      let text := line.reverse ++ l.joined literal blankLed
      let ending := (next.rest.take 1)
      let (empty, _, after) ← emptyLines (some indent) (next.rest.length + 1) [] 0 next.advance
      blockLines literal indent fuel { text, ending, empty, blankLed } after

/-- Read a block of lines, whose parent is indented by `parent`. -/
def block (literal : Bool) (parent : Int) (c : Cursor) : Reading (String × Cursor) := do
  let (chomping, given, c) ← blockMarks c.advance
  let c ← blockHeadEnd c
  let fixed := given.map fun n => if 0 ≤ parent then parent.toNat + n else n
  let (empty, deepest, c) ← emptyLines fixed (c.rest.length + 1) [] 0 c
  let indent := fixed.getD (max (max deepest (parent + 1).toNat) 1)
  let (l, c) ← blockLines literal indent (c.rest.length + 1)
    { text := [], ending := [], empty, blankLed := false } c
  let text := match chomping with
    | .strip => l.text
    | .clip => l.ending ++ l.text
    | .keep => l.empty ++ l.ending ++ l.text
  return (String.ofList text.reverse, c)

end SchemaBridge.Yaml
