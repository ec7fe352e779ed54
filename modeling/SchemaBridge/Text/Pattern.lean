/-
# Searching and replacing in text

Search for a piece of text, replacement of every occurrence, splitting at a character and
dropping characters from the ends, over `List Char`.
-/
import SchemaBridge.Text.Blank

namespace SchemaBridge.Text

/-- The text after `piece`, when the text begins with it. -/
def dropPiece? : List Char → List Char → Option (List Char)
  | [], s => some s
  | _ :: _, [] => none
  | p :: ps, c :: cs => if p == c then dropPiece? ps cs else none

/-- The text before and after the first occurrence of `piece`. -/
def breakOn? (piece : List Char) : List Char → Option (List Char × List Char)
  | [] => if piece.isEmpty then some ([], []) else none
  | c :: r =>
    match dropPiece? piece (c :: r) with
    | some rest => some ([], rest)
    | none => (breakOn? piece r).map fun (a, b) => (c :: a, b)

/-- Whether `piece` occurs in a text. -/
def occurs (piece s : List Char) : Bool := (breakOn? piece s).isSome

/-- Whether a piece occurs in a text. -/
def contains (s piece : String) : Bool := occurs piece.toList s.toList

/-- Write every occurrence of a character as `image`. -/
def replaceChar (c : Char) (image : List Char) (s : List Char) : List Char :=
  s.flatMap fun d => if d == c then image else [d]

/-- Pieces between the occurrences of a character. -/
def splitAtChar (c : Char) : List Char → List (List Char)
  | [] => [[]]
  | d :: r =>
    match splitAtChar c r with
    | [] => [[d]]
    | p :: ps => if d == c then [] :: p :: ps else (d :: p) :: ps

/-- A text has at least one part. -/
theorem splitAtChar_ne_nil (c : Char) (s : List Char) : splitAtChar c s ≠ [] := by
  induction s with
  | nil => simp [splitAtChar]
  | cons d r ih =>
    unfold splitAtChar
    split
    · simp
    · split <;> simp

/-- The text before and after the last occurrence of a character. -/
def breakAtLast? (c : Char) (s : List Char) : Option (List Char × List Char) :=
  let tail := s.reverse.takeWhile (· != c)
  match s.reverse.dropWhile (· != c) with
  | [] => none
  | _ :: front => some (front.reverse, tail.reverse)

/-- Drop characters that satisfy `p` from both ends. -/
def strip (p : Char → Bool) (s : List Char) : List Char := dropEndWhile p (s.dropWhile p)

/-- Lines of a text: a line feed ends a line, a carriage return before it is dropped, and the
text after the last line feed is a line only if it is not empty. -/
def lines (s : List Char) : List (List Char) :=
  let pieces := splitAtChar '\n' s
  let whole := pieces.dropLast.map fun l => if l.getLast? == some '\r' then l.dropLast else l
  match pieces.getLast? with
  | none => whole
  | some [] => whole
  | some l => whole ++ [l]

/-- Decimal digits of a natural number. -/
def decimal (n : Nat) : String := String.ofList (Nat.toDigits 10 n)

/-- Decimal text of an integer. -/
def decimalInt : Int → String
  | .ofNat n => decimal n
  | .negSucc n => "-" ++ decimal (n + 1)

/-- The number a list of ASCII digits denotes. -/
def digitsValue (ds : List Char) : Nat := ds.foldl (fun n d => 10 * n + (d.toNat - '0'.toNat)) 0

/-- A natural number written in ASCII digits only. -/
def readNat? (s : List Char) : Option Nat :=
  if !s.isEmpty && s.all Char.isDigit then some (digitsValue s) else none

/-! ## Fresh names

A name that is taken gets a number behind it, the first that makes it free. -/

/-- A name, then the name with numbers behind it. -/
def candidates (base : String) (start count : Nat) : List String :=
  base :: (List.range count).map fun i => base ++ "_" ++ decimal (i + start)

/-- The first candidate that is not taken; `count` is at least the number of names that are. -/
def freshName (taken : String → Bool) (base : String) (start count : Nat) : String :=
  ((candidates base start count).find? fun n => !taken n).getD base

end SchemaBridge.Text
