/-
# Statements of a dump

A dump is cut into statements at its delimiter, a semicolon unless a `DELIMITER` line of MySQL
changes it.  Quoted text, comments and dollar quotes hide a delimiter; comments are dropped, and
so are the rows of a `COPY ... FROM stdin`.  A conditional comment that opens a MySQL statement is
unwrapped, one after other text is dropped.

The scan goes in steps, each of which takes a segment off the front of the text: `Scan.step` is one
of them and `Scan.run` takes steps until nothing is left.

What a statement is, is told by its first words.

## Key statements

* `length_step`: a step takes at least one character.
-/
import SchemaBridge.Schema.Dialect
import SchemaBridge.Text.Casing
import SchemaBridge.Text.Pattern

namespace SchemaBridge.Dump

/-- One statement and the line it starts on, counted from 1. -/
structure Statement where
  text : String
  line : Nat
  deriving DecidableEq, Repr, Inhabited

/-! ## Segments -/

/-- Quoted text after its opening quote: the part through the closing quote, and the rest.  A
doubled quote does not close; with `backslash` neither does a character after a backslash. -/
def quotedSpan (quote : Char) (backslash : Bool) : List Char → List Char × List Char
  | [] => ([], [])
  | [c] => ([c], [])
  | c :: d :: r =>
    if (backslash && c == '\\') || (c == quote && d == quote) then
      let (taken, rest) := quotedSpan quote backslash r
      (c :: d :: taken, rest)
    else if c == quote then ([c], d :: r)
    else
      let (taken, rest) := quotedSpan quote backslash (d :: r)
      (c :: taken, rest)

/-- A comment after its opening: the part through `*/`, and the rest. -/
def commentSpan : List Char → List Char × List Char
  | [] => ([], [])
  | '*' :: '/' :: r => (['*', '/'], r)
  | c :: r =>
    let (taken, rest) := commentSpan r
    (c :: taken, rest)

/-- The part of a text up to and with a piece, and the rest. -/
def throughPiece (piece : List Char) : List Char → List Char × List Char
  | [] => ([], [])
  | c :: r =>
    match Text.dropPiece? piece (c :: r) with
    | some rest => (piece, rest)
    | none =>
      let (taken, rest) := throughPiece piece r
      (c :: taken, rest)

/-- The letters of a dollar quote's tag after its first dollar: they end at a dollar, and the first
is no digit. -/
def tagLetters? : List Char → Option (List Char)
  | [] => none
  | '$' :: _ => some []
  | c :: r =>
    if Text.isLetterOrNumeral c || c == '_' then (tagLetters? r).map (c :: ·) else none

/-- The tag of a dollar quote after its first dollar; a parameter such as `$1` has none. -/
def dollarTag? (s : List Char) : Option (List Char) :=
  if (s.head?.map Char.isDigit).getD false then none
  else (tagLetters? s).map fun letters => '$' :: letters ++ ['$']

/-- Whether a line goes on. -/
def isNotLineEnd (c : Char) : Bool := c != '\n'

/-- The part of a line up to its end, which is left. -/
def lineSpan (s : List Char) : List Char × List Char :=
  (s.takeWhile isNotLineEnd, s.dropWhile isNotLineEnd)

/-- Rows of copied data, one line after another, from the end of the line before: the number of
lines taken, and the rest.  They end with a line that holds a backslash and a point only. -/
def copyRows : Nat → List Char → Nat × List Char
  | fuel + 1, '\n' :: r =>
    let (row, rest) := lineSpan r
    if Text.trimEnd row = ['\\', '.'] then (1, rest)
    else
      let (n, rest) := copyRows fuel rest
      (n + 1, rest)
  | _, s => (0, s)

/-- The rows that follow a `COPY ... FROM stdin`. -/
def copySpan (s : List Char) : Nat × List Char :=
  let rest := (lineSpan s).2
  copyRows rest.length rest

/-- Whether a statement is followed by copied rows. -/
def isCopyFromStdin (s : List Char) : Bool :=
  let u := Text.upper s
  (Text.dropPiece? "COPY ".toList u).isSome && Text.occurs "FROM STDIN".toList u

/-- The text in a conditional comment, after its opening and its version. -/
def conditionalBody (comment : List Char) : List Char :=
  (comment.take (comment.length - 2)).dropWhile Char.isDigit

/-- The text after the word `DELIMITER`, if a text begins with it and white space follows. -/
def afterDelimiterWord? (s : List Char) : Option (List Char) :=
  let word := "DELIMITER".toList
  if Text.asciiFold (s.take word.length) = Text.asciiFold word then
    match s.drop word.length with
    | c :: r => if Text.isBlank c then some (c :: r) else none
    | [] => none
  else none

/-- Number of line ends. -/
def newlines (s : List Char) : Nat := s.count '\n'

/-- The text that ends a statement; there is at least one character of it. -/
structure Delimiter where
  first : Char
  others : List Char
  deriving DecidableEq, Repr, Inhabited

/-- The text after the delimiter, if a text `c :: r` begins with it. -/
def Delimiter.after? (t : Delimiter) (c : Char) (r : List Char) : Option (List Char) :=
  if c == t.first then Text.dropPiece? t.others r else none

/-- The delimiter a line asks for: its first word. -/
def Delimiter.ofLine? (line : List Char) : Option Delimiter :=
  match Text.words line with
  | (c :: r) :: _ => some ⟨c, r⟩
  | _ => none

/-! ## The scan -/

/-- State of the scan. -/
structure Scan where
  /-- Statements found, last first. -/
  statements : List Statement
  /-- The statement being read, last character first. -/
  current : List Char
  line : Nat
  /-- Line on which the statement being read begins. -/
  startLine : Nat
  delimiter : Delimiter
  /-- Whether all text so far came from unwrapped conditional comments. -/
  conditionalOnly : Bool
  deriving Repr

namespace Scan

/-- The scan at the beginning of a dump. -/
def start : Scan :=
  { statements := [], current := [], line := 1, startLine := 1, delimiter := ⟨';', []⟩
    conditionalOnly := false }

/-- Whether nothing but white space has been read of the statement. -/
def isBlank (s : Scan) : Bool := s.current.all Text.isBlank

/-- Take a segment into the statement as it stands. -/
def take (s : Scan) (segment : List Char) : Scan :=
  { s with current := segment.reverse ++ s.current, line := s.line + newlines segment }

/-- End the statement. -/
def close (s : Scan) : Scan :=
  let text := Text.trim s.current.reverse
  let statements :=
    if text.isEmpty then s.statements else ⟨String.ofList text, s.startLine⟩ :: s.statements
  { s with statements, current := [], conditionalOnly := false }

/-- A comment after its opening. -/
def comment (d : SourceDialect) (s : Scan) (r : List Char) : Scan × List Char :=
  let (body, rest) := commentSpan r
  let opens := s.isBlank || s.conditionalOnly
  let s := { s with line := s.line + newlines body }
  let s := match body with
    | '!' :: inner =>
      if d == SourceDialect.mysql && opens then
        { s with
          current := (conditionalBody inner).reverse ++ s.current
          conditionalOnly := true }
      else s
    | _ => s
  ({ s with current := ' ' :: s.current }, rest)

/-- The delimiter has been met; `r` follows it. -/
def delimited (d : SourceDialect) (s : Scan) (r : List Char) : Scan × List Char :=
  let isCopy := d != .mysql && isCopyFromStdin (Text.trim s.current.reverse)
  let s := s.close
  if isCopy then
    let (lines, rest) := copySpan r
    ({ s with line := s.line + lines }, rest)
  else (s, r)

/-- A character with no special meaning. -/
def plain (s : Scan) (c : Char) : Scan :=
  { s with
    current := c :: s.current
    line := if c = '\n' then s.line + 1 else s.line
    conditionalOnly := s.conditionalOnly && Text.isBlank c }

/-- Take the segment that begins with `c` and goes on in `r`. -/
def segment (d : SourceDialect) (s : Scan) (c : Char) (r : List Char) : Scan × List Char :=
  if c == '\'' || c == '"' || c == '\x60' then
    let (body, rest) := quotedSpan c (d == .mysql && c == '\'') r
    ({ s.take (c :: body) with conditionalOnly := false }, rest)
  else if c == '-' && r.head? == some '-' then (s, r.dropWhile isNotLineEnd)
  else if c == '#' && d == .mysql then (s, r.dropWhile isNotLineEnd)
  else if c == '/' && r.head? == some '*' then s.comment d r.tail
  else match s.delimiter.after? c r with
    | some rest => s.delimited d rest
    | none =>
      if c == '$' && d != .mysql then
        match dollarTag? r with
        | some tag =>
          let (body, rest) := throughPiece tag (r.drop (tag.length - 1))
          (s.take (tag ++ body), rest)
        | none => ({ s with current := c :: s.current }, r)
      else (s.plain c, r)

/-- One step.  Before the first character of a statement, its line is noted and a line that changes
the delimiter is obeyed. -/
def step (d : SourceDialect) (s : Scan) (c : Char) (r : List Char) : Scan × List Char :=
  if s.isBlank then
    let s := { s with startLine := s.line }
    match if d == .mysql then afterDelimiterWord? (c :: r) else none with
    | some rest =>
      let (line, rest) := lineSpan rest
      let delimiter := (Delimiter.ofLine? line).getD s.delimiter
      ({ s with current := [], delimiter }, rest)
    | none => s.segment d c r
  else s.segment d c r

end Scan

/-! ## Steps take at least one character -/

/-- What follows a quotation is no longer than what it was read from. -/
theorem length_quotedSpan (q : Char) (b : Bool) (s : List Char) :
    (quotedSpan q b s).2.length ≤ s.length := by
  fun_induction quotedSpan q b s <;> simp_all <;> omega

/-- What follows a comment is no longer than what it was read from. -/
theorem length_commentSpan (s : List Char) : (commentSpan s).2.length ≤ s.length := by
  fun_induction commentSpan s <;> simp_all <;> omega

/-- A piece that is dropped and what follows it are as long as both together. -/
theorem length_dropPiece? {p s r : List Char} (h : Text.dropPiece? p s = some r) :
    s.length = p.length + r.length := by
  induction p generalizing s with
  | nil => simp_all [Text.dropPiece?]
  | cons a p ih =>
    cases s with
    | nil => simp [Text.dropPiece?] at h
    | cons b s =>
      simp only [Text.dropPiece?] at h
      split at h
      · have := ih h
        simp only [List.length_cons]
        omega
      · simp at h

/-- What follows a piece is no longer than what it was looked for in. -/
theorem length_throughPiece (p s : List Char) : (throughPiece p s).2.length ≤ s.length := by
  induction s with
  | nil => simp [throughPiece]
  | cons c r ih =>
    unfold throughPiece
    split
    · rename_i rest h
      have := length_dropPiece? h
      simp only [List.length_cons] at this ⊢
      omega
    · simp only [List.length_cons]
      omega

/-- What follows a run of characters is no longer than both together. -/
theorem length_dropWhile (p : Char → Bool) (s : List Char) :
    (s.dropWhile p).length ≤ s.length :=
  (List.dropWhile_sublist p).length_le

/-- What follows rows is no longer than what they were read from. -/
theorem length_copyRows (n : Nat) (s : List Char) : (copyRows n s).2.length ≤ s.length := by
  fun_induction copyRows n s with
  | case1 fuel r row rest hline hrow =>
    have : rest = r.dropWhile isNotLineEnd := by
      simp only [lineSpan, Prod.mk.injEq] at hline
      exact hline.2.symm
    have := length_dropWhile isNotLineEnd r
    simp_all
    omega
  | case2 fuel r row rest hline hrow n rest' hn ih =>
    have : rest = r.dropWhile isNotLineEnd := by
      simp only [lineSpan, Prod.mk.injEq] at hline
      exact hline.2.symm
    have := length_dropWhile isNotLineEnd r
    simp_all
    omega
  | case3 => simp

/-- What follows a block of rows is no longer than what it was read from. -/
theorem length_copySpan (s : List Char) : (copySpan s).2.length ≤ s.length := by
  unfold copySpan
  exact Nat.le_trans (length_copyRows _ _) (length_dropWhile _ _)

/-- Something is taken where a delimiter is set. -/
theorem length_afterDelimiterWord? {s r : List Char} (h : afterDelimiterWord? s = some r) :
    r.length < s.length := by
  have hn : "DELIMITER".toList.length = 9 := by decide
  unfold afterDelimiterWord? at h
  simp only [hn] at h
  split at h
  · split at h
    · rename_i c r' hd
      split at h
      · have := congrArg List.length hd
        simp only [List.length_drop, List.length_cons] at this
        cases h
        simp only [List.length_cons]
        omega
      · simp at h
    · simp at h
  · simp at h

/-- A comment leaves no more than there was. -/
theorem Scan.length_comment (d : SourceDialect) (s : Scan) (r : List Char) :
    (s.comment d r).2.length ≤ r.length := by
  unfold Scan.comment
  exact length_commentSpan r

/-- The end of a statement leaves no more than there was. -/
theorem Scan.length_delimited (d : SourceDialect) (s : Scan) (r : List Char) :
    (s.delimited d r).2.length ≤ r.length := by
  unfold Scan.delimited
  simp only
  split
  · exact length_copySpan r
  · exact Nat.le_refl _

/-- A delimiter leaves no more than there was. -/
theorem Delimiter.length_after? {t : Delimiter} {c : Char} {r rest : List Char}
    (h : t.after? c r = some rest) : rest.length ≤ r.length := by
  unfold Delimiter.after? at h
  split at h
  · have := length_dropPiece? h
    omega
  · simp at h

/-- A segment leaves no more than there was. -/
theorem Scan.length_segment (d : SourceDialect) (s : Scan) (c : Char) (r : List Char) :
    (s.segment d c r).2.length ≤ r.length := by
  unfold Scan.segment
  split
  · exact length_quotedSpan _ _ r
  · split
    · exact length_dropWhile _ r
    · split
      · exact length_dropWhile _ r
      · split
        · have h1 := Scan.length_comment d s r.tail
          have h2 : r.tail.length ≤ r.length := by simp
          omega
        · split
          · rename_i rest h
            exact Nat.le_trans (Scan.length_delimited d s rest) (Delimiter.length_after? h)
          · split
            · split
              · rename_i tag _
                have h1 := length_throughPiece tag (r.drop (tag.length - 1))
                have h2 : (r.drop (tag.length - 1)).length ≤ r.length := by simp
                exact Nat.le_trans h1 h2
              · exact Nat.le_refl _
            · exact Nat.le_refl _

/-- So each step comes nearer to the end of the dump. -/
theorem Scan.length_step (d : SourceDialect) (s : Scan) (c : Char) (r : List Char) :
    (s.step d c r).2.length ≤ r.length := by
  unfold Scan.step
  split
  · split
    · rename_i rest h
      have h1 : rest.length < (c :: r).length := by
        split at h
        · exact length_afterDelimiterWord? h
        · simp at h
      have h2 := length_dropWhile isNotLineEnd rest
      simp only [List.length_cons, lineSpan] at h1 h2 ⊢
      omega
    · exact Scan.length_segment d _ c r
  · exact Scan.length_segment d s c r

/-! ## All statements -/

/-- Take steps until nothing is left of the text. -/
def Scan.run (d : SourceDialect) (s : Scan) : List Char → Scan
  | [] => s
  | c :: r => Scan.run d (s.step d c r).1 (s.step d c r).2
termination_by r => r.length
decreasing_by
  have := Scan.length_step d s c r
  simp only [List.length_cons]
  omega

/-- The statements of a dump, in order; blank ones are left out. -/
def statements (d : SourceDialect) (dump : String) : List Statement :=
  (Scan.start.run d dump.toList).close.statements.reverse

/-! ## Kinds of statements -/

/-- What a statement is to a schema. -/
inductive Kind
  | createTable
  | alterTable
  | createIndex
  /-- A new type with a list of labels. -/
  | createEnum
  /-- A statement that makes something a schema model cannot hold. -/
  | unsupported (what : String)
  /-- A statement that is not about the schema. -/
  | ignored
  deriving DecidableEq, Repr, Inhabited

namespace Kind

/-- Number of words looked at. -/
def wordLimit : Nat := 8

/-- What an object is called whose statement is not converted, by the word for it. -/
def unsupportedObjects : List (String × String) :=
  [("VIEW", "view"), ("FUNCTION", "function"), ("PROCEDURE", "procedure"), ("TRIGGER", "trigger"),
    ("TYPE", "type"), ("DOMAIN", "domain"), ("RULE", "rule"), ("POLICY", "policy"),
    ("AGGREGATE", "aggregate"), ("EVENT", "event"), ("MATERIALIZED", "materialized view")]

/-- The kind of a statement that begins with `CREATE`, by the words after that: the first of them that
names an object decides. -/
def ofObject (ws : List String) : Kind :=
  match ws.findSome? fun w => unsupportedObjects.lookup w with
  | some what => unsupported what
  | none => ignored

/-- The kind of a statement. -/
def ofText (text : List Char) : Kind :=
  let upper := (Text.words text).map fun w => String.ofList (Text.upper w)
  match upper.take wordLimit with
  | "CREATE" :: "TABLE" :: _ | "CREATE" :: "UNLOGGED" :: "TABLE" :: _
  | "CREATE" :: "TEMPORARY" :: "TABLE" :: _ => createTable
  | "ALTER" :: "TABLE" :: _ => alterTable
  | "CREATE" :: "INDEX" :: _ | "CREATE" :: "UNIQUE" :: "INDEX" :: _ => createIndex
  | "CREATE" :: "TYPE" :: r =>
    if Text.occurs "AS ENUM".toList (Text.upper text) then createEnum else ofObject ("TYPE" :: r)
  | "CREATE" :: r => ofObject r
  | _ => ignored

end Kind

end SchemaBridge.Dump
