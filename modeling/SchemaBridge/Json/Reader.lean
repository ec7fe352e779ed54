/-
# Reading JSON

`Json.parse` reads one value that takes up the whole text.  Containers nest 127 deep at most; a
string may not contain control characters or half of a surrogate pair; a number must be finite.
-/
import SchemaBridge.Json.Number

namespace SchemaBridge.Json

/-- Why a text is not JSON. -/
inductive ReadError
  | unexpectedEnd
  | unexpected (c : Char)
  | tooDeep
  | numberOutOfRange
  | badEscape
  | trailing
  deriving DecidableEq, Repr, Inhabited

namespace ReadError

/-- What is said of a text that is no value. -/
def message : ReadError → String
  | unexpectedEnd => "the text ends inside a value"
  | unexpected c => "unexpected character '" ++ c.toString ++ "'"
  | tooDeep => "values are nested too deeply"
  | numberOutOfRange => "number out of range"
  | badEscape => "invalid escape in a string"
  | trailing => "text after the value"

end ReadError

/-- What a reading step leaves: a result and the text after it. -/
abbrev Step (α : Type) := Except ReadError (α × List Char)

/-- White space between tokens. -/
def isSpace (c : Char) : Bool := c == ' ' || c == '\n' || c == '\t' || c == '\r'

/-- What follows white space. -/
def skipSpace (s : List Char) : List Char := s.dropWhile isSpace

/-- Fail at the first character of a text. -/
def refuse {α : Type} : List Char → Step α
  | [] => .error .unexpectedEnd
  | c :: _ => .error (.unexpected c)

/-- Value of a hexadecimal digit. -/
def hexValue? (c : Char) : Option Nat :=
  if c.isDigit then some (c.toNat - '0'.toNat)
  else if 'a' ≤ c ∧ c ≤ 'f' then some (c.toNat - 'a'.toNat + 10)
  else if 'A' ≤ c ∧ c ≤ 'F' then some (c.toNat - 'A'.toNat + 10)
  else none

/-- Value of four hexadecimal digits. -/
def hexUnit? (a b c d : Char) : Option Nat := do
  return 4096 * (← hexValue? a) + 256 * (← hexValue? b) + 16 * (← hexValue? c) + (← hexValue? d)

/-- The character a letter after a backslash stands for. -/
def simpleEscape? : Char → Option Char
  | '"' => some '"'
  | '\\' => some '\\'
  | '/' => some '/'
  | 'b' => some '\x08'
  | 'f' => some '\x0c'
  | 'n' => some '\n'
  | 'r' => some '\r'
  | 't' => some '\t'
  | _ => none

/-- Whether a code is the first half of a character. -/
def isHighSurrogate (n : Nat) : Bool := 0xD800 ≤ n && n < 0xDC00

/-- Whether a code is the second half of a character. -/
def isLowSurrogate (n : Nat) : Bool := 0xDC00 ≤ n && n < 0xE000

/-- The rest of a string after its opening quote; `done` holds its characters so far, reversed. -/
def readStringFrom (done : List Char) : List Char → Step String
  | [] => .error .unexpectedEnd
  | '"' :: r => .ok (String.ofList done.reverse, r)
  | '\\' :: 'u' :: a :: b :: c :: d :: r =>
    match hexUnit? a b c d with
    | none => .error .badEscape
    | some n =>
      if isHighSurrogate n then
        match r with
        | '\\' :: 'u' :: e :: f :: g :: h :: r' =>
          match hexUnit? e f g h with
          | none => .error .badEscape
          | some l =>
            if isLowSurrogate l then
              readStringFrom (Char.ofNat (0x10000 + 1024 * (n - 0xD800) + (l - 0xDC00)) :: done) r'
            else .error .badEscape
        | _ => .error .badEscape
      else if isLowSurrogate n then .error .badEscape
      else readStringFrom (Char.ofNat n :: done) r
  | '\\' :: c :: r =>
    match simpleEscape? c with
    | some x => readStringFrom (x :: done) r
    | none => .error .badEscape
  | c :: r => if c.toNat < 32 then .error (.unexpected c) else readStringFrom (c :: done) r

/-- The exponent of a number, if there is one. -/
def readExponent : List Char → Step (Option (Bool × List Char))
  | c :: r =>
    if c == 'e' || c == 'E' then
      let (negative, r) := match r with
        | '-' :: r => (true, r)
        | '+' :: r => (false, r)
        | r => (false, r)
      match r.takeWhile Char.isDigit with
      | [] => refuse r
      | ds => .ok (some (negative, ds), r.dropWhile Char.isDigit)
    else .ok (none, c :: r)
  | [] => .ok (none, [])

/-- The fraction of a number, if there is one. -/
def readFraction : List Char → Step (Option (List Char))
  | '.' :: r =>
    match r.takeWhile Char.isDigit with
    | [] => refuse r
    | ds => .ok (some ds, r.dropWhile Char.isDigit)
  | r => .ok (none, r)

/-- The value of a number from its parts.  It is whole if it has no fraction and no exponent and
fits 64 bits, with or without a sign. -/
def numberOf (negative : Bool) (whole : List Char) (fraction : Option (List Char))
    (exponent : Option (Bool × List Char)) : Except ReadError Json :=
  let n := Text.digitsValue whole
  match fraction, exponent with
  | none, none =>
    if !negative && n ≤ maxWord then .ok (.int n)
    else if negative && 0 < n && n ≤ Nat.pow 2 63 then .ok (.int (-(n : Int)))
    else match realOf? negative whole [] 0 with
      | some v => .ok v
      | none => .error .numberOutOfRange
  | _, _ =>
    let e : Int := match exponent with
      | none => 0
      | some (true, ds) => -(Text.digitsValue ds : Int)
      | some (false, ds) => Text.digitsValue ds
    match realOf? negative whole (fraction.getD []) e with
    | some v => .ok v
    | none => .error .numberOutOfRange

/-- A number, after its sign. -/
def readUnsigned (negative : Bool) (s : List Char) : Except ReadError (Json × List Char) := do
  let whole := s.takeWhile Char.isDigit
  let r := s.dropWhile Char.isDigit
  match whole with
  | [] => refuse r
  | '0' :: d :: _ => .error (.unexpected d)
  | whole =>
    let (fraction, r) ← readFraction r
    let (exponent, r) ← readExponent r
    return (← numberOf negative whole fraction exponent, r)

/-- Largest number of containers around a value, and one. -/
def maxDepth : Nat := 128

mutual

/-- One value; `depth` is the number of containers that may still be opened, and one. -/
def readValue : Nat → Nat → List Char → Step Json
  | 0, _, s => refuse s
  | fuel + 1, depth, s =>
    match skipSpace s with
    | 'n' :: 'u' :: 'l' :: 'l' :: r => .ok (.null, r)
    | 't' :: 'r' :: 'u' :: 'e' :: r => .ok (.bool true, r)
    | 'f' :: 'a' :: 'l' :: 's' :: 'e' :: r => .ok (.bool false, r)
    | '"' :: r => (readStringFrom [] r).map fun (t, r) => (.str t, r)
    | '-' :: r => readUnsigned true r
    | '[' :: r =>
      if depth ≤ 1 then .error .tooDeep
      else match skipSpace r with
        | ']' :: r => .ok (.arr [], r)
        | r => (readItems fuel (depth - 1) r).map fun (vs, r) => (.arr vs, r)
    | '\x7b' :: r =>
      if depth ≤ 1 then .error .tooDeep
      else match skipSpace r with
        | '\x7d' :: r => .ok (.obj [], r)
        | r => (readFields fuel (depth - 1) r).map fun (fs, r) => (.obj fs, r)
    | r => readUnsigned false r

/-- The items of an array up to its closing bracket; there is at least one. -/
def readItems : Nat → Nat → List Char → Except ReadError (List Json × List Char)
  | 0, _, s => refuse s
  | fuel + 1, depth, s => do
    let (v, r) ← readValue fuel depth s
    match skipSpace r with
    | ',' :: r =>
      let (vs, r) ← readItems fuel depth r
      return (v :: vs, r)
    | ']' :: r => return ([v], r)
    | r => refuse r

/-- The fields of an object up to its closing brace; there is at least one. -/
def readFields : Nat → Nat → List Char → Except ReadError (List (String × Json) × List Char)
  | 0, _, s => refuse s
  | fuel + 1, depth, s => do
    match skipSpace s with
    | '"' :: r =>
      let (k, r) ← readStringFrom [] r
      match skipSpace r with
      | ':' :: r =>
        let (v, r) ← readValue fuel depth r
        match skipSpace r with
        | ',' :: r =>
          let (fs, r) ← readFields fuel depth r
          return ((k, v) :: fs, r)
        | '\x7d' :: r => return ([(k, v)], r)
        | r => refuse r
      | r => refuse r
    | r => refuse r

end

/-- Read a text that is one value; the fields of its objects keep their order. -/
def parse (text : String) : Except ReadError Json := do
  let s := text.toList
  let (v, r) ← readValue (2 * s.length + 2) maxDepth s
  match skipSpace r with
  | [] => return v
  | _ => .error .trailing

end SchemaBridge.Json
