/-
# Upper case, lower case and letters

Case changes use the full mappings: one character may become several, and a capital sigma at the
end of a word takes its final form.  Comparison of names that ignores case comes in two forms, one
over ASCII letters alone and one through the full lower case mapping.
-/
import SchemaBridge.Text.CasingTable

namespace SchemaBridge.Text

/-- Upper case form of one character. -/
def upperChar (c : Char) : List Char :=
  if c.toNat < 128 then [c.toUpper]
  else match CharTable.upperLong.find? (·.1 == c.toNat) with
    | some (_, cs) => cs.map Char.ofNat
    | none => [Char.ofNat ((CharTable.upperRuns.findSome? (·.map? c.toNat)).getD c.toNat)]

/-- Lower case form of one character, out of context. -/
def lowerChar (c : Char) : List Char :=
  if c.toNat < 128 then [c.toLower]
  else match CharTable.lowerLong.find? (·.1 == c.toNat) with
    | some (_, cs) => cs.map Char.ofNat
    | none => [Char.ofNat ((CharTable.lowerRuns.findSome? (·.map? c.toNat)).getD c.toNat)]

/-- The first character that is not case-ignorable exists and has case. -/
def nextIsCased (s : List Char) : Bool :=
  match s.dropWhile fun c => CharTable.mem CharTable.caseIgnorable c.toNat with
  | [] => false
  | c :: _ => CharTable.mem CharTable.cased c.toNat

/-- Lower case with the sigma rule: a capital sigma takes its final form when a cased character
comes before it and none after it.  `before` holds the characters already passed, last first. -/
def lowerFrom : List Char → List Char → List Char
  | _, [] => []
  | before, c :: r =>
    (if c == 'Σ' then (if nextIsCased before && !nextIsCased r then ['ς'] else ['σ'])
     else lowerChar c) ++ lowerFrom (c :: before) r

/-- A text in capital letters. -/
def upper (s : List Char) : List Char := s.flatMap upperChar

/-- A text in lower case. -/
def lower (s : List Char) : List Char := lowerFrom [] s

/-- A text in capital letters. -/
def upperText (s : String) : String := String.ofList (upper s.toList)

/-- A text in lower case. -/
def lowerText (s : String) : String := String.ofList (lower s.toList)

/-- Lower case over ASCII letters alone. -/
def asciiFold (s : List Char) : List Char := s.map Char.toLower

/-- Equality up to the case of ASCII letters. -/
def sameFolded (a b : String) : Bool := asciiFold a.toList == asciiFold b.toList

/-- Whether a character is alphabetic. -/
def isLetter (c : Char) : Bool :=
  if c.toNat < 128 then c.isAlpha else CharTable.mem CharTable.alphabetic c.toNat

/-- Digits and other characters that stand for numbers. -/
def isNumeral (c : Char) : Bool :=
  if c.toNat < 128 then c.isDigit else CharTable.mem CharTable.numeric c.toNat

/-- Whether a character is alphabetic or stands for a number. -/
def isLetterOrNumeral (c : Char) : Bool := isLetter c || isNumeral c

/-- Characters are put into capital letters one by one. -/
theorem upper_append (a b : List Char) : upper (a ++ b) = upper a ++ upper b := by
  simp [upper]

end SchemaBridge.Text
