/-
# Bare words

What a bare scalar stands for where no type is asked for: nothing, a truth value, a number or a
text.  Numbers may be written in four bases.  A decimal number with a zero in front is a text.
-/
import SchemaBridge.Text.Pattern

namespace SchemaBridge.Yaml

/-- What a bare scalar stands for. -/
inductive Meaning
  | null
  | bool (b : Bool)
  | int (n : Int)
  /-- A number that is not whole. -/
  | real
  | text
  deriving DecidableEq, Repr, Inhabited

/-- Whether a scalar stands for nothing. -/
def isNull (s : String) : Bool := ["", "null", "Null", "NULL", "~"].contains s

/-- The truth value of a scalar. -/
def bool? (s : String) : Option Bool :=
  if ["true", "True", "TRUE"].contains s then some true
  else if ["false", "False", "FALSE"].contains s then some false
  else none

/-! ## Whole numbers -/

/-- The value of a digit in some base. -/
def digit? (base : Nat) (c : Char) : Option Nat :=
  let n :=
    if c.isDigit then c.toNat - '0'.toNat
    else if 'a' ≤ c && c ≤ 'f' then c.toNat - 'a'.toNat + 10
    else if 'A' ≤ c && c ≤ 'F' then c.toNat - 'A'.toNat + 10
    else 16
  if n < base then some n else none

/-- The number that digits in some base spell.  There has to be one. -/
def digits? (base : Nat) (s : List Char) : Option Nat :=
  if s.isEmpty then none
  else (s.mapM (digit? base)).map fun ds => ds.foldl (fun n d => base * n + d) 0

/-- Base and digits of a number that names its base. -/
def based? : List Char → Option (Nat × List Char)
  | '0' :: 'x' :: r => some (16, r)
  | '0' :: 'o' :: r => some (8, r)
  | '0' :: 'b' :: r => some (2, r)
  | _ => none

/-- Split a sign off: whether it is a minus, and what follows. -/
def signed : List Char → Bool × List Char
  | '-' :: r => (true, r)
  | '+' :: r => (false, r)
  | s => (false, s)

/-- Whether a text is a number but for zeros in front of its digits. -/
def hasLeadingZero (s : List Char) : Bool :=
  let r := (signed s).2
  1 < r.length && r.head? == some '0' && r.all Char.isDigit

/-- The whole number that a scalar spells. -/
def int? (s : List Char) : Option Int := do
  let (negative, r) := signed s
  let n ←
    match (based? r).bind fun (base, ds) => digits? base ds with
    | some n => some n
    | none => if hasLeadingZero s then none else digits? 10 r
  return if negative then -(n : Int) else n

/-- The whole number that is not negative and at most `limit` that a scalar spells. -/
def nat? (limit : Nat) (s : String) : Option Nat :=
  match s.toList with
  | '-' :: _ => none
  | cs => match int? cs with
    | some (.ofNat n) => if n ≤ limit then some n else none
    | _ => none

/-! ## Other numbers -/

/-- A decimal fraction with an exponent: digits before and after the point, and the exponent. -/
def decimal? (s : List Char) : Option (List Char × List Char × Int) := do
  let whole := s.takeWhile Char.isDigit
  let rest := s.dropWhile Char.isDigit
  let (fraction, rest) := match rest with
    | '.' :: r => (r.takeWhile Char.isDigit, r.dropWhile Char.isDigit)
    | r => ([], r)
  if whole.isEmpty && fraction.isEmpty then none
  match rest with
  | [] => some (whole, fraction, 0)
  | e :: r =>
    if e ≠ 'e' ∧ e ≠ 'E' then none
    let (negative, ds) := signed r
    let n ← digits? 10 ds
    return (whole, fraction, if negative then -(n : Int) else n)

/-- Whether a decimal fraction is too large for a double: half a step above the largest one or
more. -/
def overflows (whole fraction : List Char) (exponent : Int) : Bool :=
  let significand := Text.digitsValue (whole ++ fraction)
  let digits := (Nat.toDigits 10 significand).length
  let e := exponent - fraction.length
  let magnitude : Int := digits + e
  let limit := (Nat.pow 2 54 - 1) * Nat.pow 2 970
  if significand = 0 || magnitude < 300 then false
  else if magnitude > 400 then true
  else
    match e with
    | .ofNat n => limit ≤ significand * Nat.pow 10 n
    | .negSucc n => limit * Nat.pow 10 (n + 1) ≤ significand

/-- Whether a scalar spells a finite number or one of the words for other numbers. -/
def isReal (s : String) : Bool :=
  let words := [".inf", ".Inf", ".INF", "+.inf", "+.Inf", "+.INF", "-.inf", "-.Inf", "-.INF", ".nan",
    ".NaN", ".NAN"]
  words.contains s ||
    match decimal? (signed s.toList).2 with
    | some (whole, fraction, e) => !overflows whole fraction e
    | none => false

/-- Whether a whole number fits sixteen bytes, with a sign if it needs one. -/
def fitsWords : Int → Bool
  | .ofNat n => n < Nat.pow 2 128
  | .negSucc n => n < Nat.pow 2 127

/-- What a bare scalar stands for. -/
def meaning (s : String) : Meaning :=
  if isNull s then .null
  else match bool? s with
    | some b => .bool b
    | none =>
      match (int? s.toList).filter fitsWords with
      | some n => .int n
      | none => if !hasLeadingZero s.toList && isReal s then .real else .text

end SchemaBridge.Yaml
