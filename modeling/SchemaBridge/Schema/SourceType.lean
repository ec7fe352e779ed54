/-
# Source types

The declared type of a column, taken apart: its words in lower case, the numbers and the other
parameters between its parentheses, and the number of array levels.  The declaration itself is
kept as read.

`SourceType.parse` reads a declaration such as `numeric(10,2)`, `int(11) unsigned`,
`timestamp(3) with time zone`, `enum('a','b')` or `text[]`; every text has a reading.
-/
import SchemaBridge.Text.Casing
import SchemaBridge.Text.Pattern

namespace SchemaBridge

/-- A declared column type. -/
structure SourceType where
  /-- Words of the type without its parameters, in lower case, with one space between them. -/
  name : String
  /-- Numeric parameters: a length, or precision and scale. -/
  mods : List Int
  /-- Parameters that are not numbers, such as the members of an enumeration. -/
  values : List String
  /-- Number of array levels, 0 for a scalar. -/
  arrayDims : Nat
  /-- The declaration as read. -/
  raw : String
  deriving DecidableEq, Repr, Inhabited

namespace SourceType

/-- Count the array markers `[]` and `ARRAY` at the end of a reversed text and drop them. -/
def peelArrays (r : List Char) : Nat × List Char :=
  match _h : r.dropWhile Text.isBlank with
  | ']' :: '[' :: rest =>
    let (n, s) := peelArrays rest
    (n + 1, s)
  | a :: b :: c :: d :: e :: ' ' :: rest =>
    if [a, b, c, d, e].map Char.toUpper = ['Y', 'A', 'R', 'R', 'A'] ∧ rest ≠ [] then
      let (n, s) := peelArrays rest
      (n + 1, s)
    else (0, r)
  | _ => (0, r)
termination_by r.length
decreasing_by
  all_goals
    have := (List.dropWhile_sublist (p := Text.isBlank) (l := r)).length_le
    rw [_h] at this
    simp only [List.length_cons] at this
    omega

/-- Pieces of a parameter list between the commas that are not inside single quotes.  `piece` is
the piece being read, reversed; `inQuote` tells whether a quote is open. -/
def splitParametersFrom (piece : List Char) (inQuote : Bool) : List Char → List (List Char)
  | [] => [piece.reverse]
  | '\'' :: r => splitParametersFrom ('\'' :: piece) (!inQuote) r
  | ',' :: r =>
    if inQuote then splitParametersFrom (',' :: piece) true r
    else piece.reverse :: splitParametersFrom [] false r
  | c :: r => splitParametersFrom (c :: piece) inQuote r

/-- The parts of a text between commas that are not between quotation marks. -/
def splitParameters (s : List Char) : List (List Char) := splitParametersFrom [] false s

/-- An integer of 64 bits: an optional sign and ASCII digits. -/
def readInteger? (s : List Char) : Option Int :=
  let (negative, digits) := match s with
    | '+' :: r => (false, r)
    | '-' :: r => (true, r)
    | r => (false, r)
  match Text.readNat? digits with
  | none => none
  | some n =>
    let v : Int := if negative then - (n : Int) else n
    if -9223372036854775808 ≤ v ∧ v ≤ 9223372036854775807 then some v else none

/-- Write each pair of single quotes as one. -/
def unpairQuotes : List Char → List Char
  | '\'' :: '\'' :: r => '\'' :: unpairQuotes r
  | c :: r => c :: unpairQuotes r
  | [] => []

/-- What one parameter of a type is. -/
inductive Parameter
  | number (n : Int)
  | text (s : String)
  deriving DecidableEq, Repr

/-- Reading of one parameter: nothing if it is blank, a number, the text of a quoted string, or
the parameter as it stands. -/
def readParameter? (piece : List Char) : Option Parameter :=
  let p := Text.trim piece
  if p.isEmpty then none
  else match readInteger? p with
    | some n => some (.number n)
    | none =>
      if p.length ≥ 2 ∧ p.head? = some '\'' ∧ p.getLast? = some '\'' then
        some (.text (String.ofList (unpairQuotes (p.drop 1).dropLast)))
      else some (.text (String.ofList p))

/-- The words of a text in lower case, with one space between them. -/
def normalizeWords (s : List Char) : String :=
  " ".intercalate ((Text.words s).map fun w => String.ofList (Text.lower w))

/-- The texts before the first opening parenthesis, between it and the last closing one, and after
that, if there are such parentheses in this order. -/
def parameterSpan? (s : List Char) : Option (List Char × List Char × List Char) :=
  match Text.breakOn? ['('] s with
  | none => none
  | some (before, r) =>
    match Text.breakAtLast? ')' r with
    | none => none
    | some (inside, after) => some (before, inside, after)

/-- Read a declaration. -/
def parse (declared : String) : SourceType :=
  let trimmed := Text.trim declared.toList
  let (dims, reversed) := peelArrays trimmed.reverse
  let text := reversed.reverse
  match parameterSpan? text with
  | some (before, inside, after) =>
    let parameters := (splitParameters inside).filterMap readParameter?
    { name := normalizeWords (before ++ ' ' :: after)
      mods := parameters.filterMap fun | .number n => some n | .text _ => none
      values := parameters.filterMap fun | .number _ => none | .text s => some s
      arrayDims := dims
      raw := String.ofList trimmed }
  | none =>
    { name := normalizeWords text
      mods := []
      values := []
      arrayDims := dims
      raw := String.ofList trimmed }

/-- Every array level that is peeled off takes two characters or more. -/
theorem two_mul_peelArrays_le (r : List Char) : 2 * (peelArrays r).1 ≤ r.length := by
  have hblank (l : List Char) := (List.dropWhile_sublist Text.isBlank (l := l)).length_le
  fun_induction peelArrays r with
  | case1 r rest n s hpeeled hrest ih =>
    have hlength := hblank r
    rw [n, List.length_cons, List.length_cons] at hlength
    simp only [hrest] at ih
    dsimp only
    omega
  | case2 r a b c d e rest _ hletters _ n s hrest ih =>
    have hlength := hblank r
    rw [hletters] at hlength
    simp only [List.length_cons, hrest] at hlength ih
    dsimp only
    omega
  | case3 => exact Nat.zero_le _
  | case4 => exact Nat.zero_le _

/-- So the array levels of a declaration are counted by a word, unless it is twice as many characters
long as there are words. -/
theorem two_mul_arrayDims_le (declared : String) :
    2 * (parse declared).arrayDims ≤ declared.toList.length := by
  have hdims : (parse declared).arrayDims = (peelArrays (Text.trim declared.toList).reverse).1 := by
    unfold parse
    dsimp only
    split <;> rfl
  have hpeeled := two_mul_peelArrays_le (Text.trim declared.toList).reverse
  rw [List.length_reverse] at hpeeled
  rw [hdims]
  exact Nat.le_trans hpeeled (Text.length_trim_le _)

/-- The numeric parameter at a position, if it was declared. -/
def modifier? (t : SourceType) (i : Nat) : Option Int := t.mods[i]?

/-- The type with one array level less. -/
def element (t : SourceType) : SourceType := { t with arrayDims := t.arrayDims - 1 }

/-- An element of an array has the name of its type. -/
@[simp] theorem element_name (t : SourceType) : t.element.name = t.name := rfl

/-- An element of an array has one level less. -/
@[simp] theorem element_arrayDims (t : SourceType) : t.element.arrayDims = t.arrayDims - 1 := rfl

end SourceType

end SchemaBridge
