/-
# White space, trimming and words

The white space of every text here is the property White_Space: it has the no-break space and the
ideographic space, but not the byte order mark.  Functions work on `List Char`, where the facts
about them are stated, and have `String` forms for callers.

## Key statements

* `trim_eq_self_of_ends`: trimming leaves a text alone whose ends are not blank.
* `length_trim_le`: trimming makes no text longer.
-/
import SchemaBridge.Text.CharTable

namespace SchemaBridge.Text

/-- White space, in the sense of the property White_Space. -/
def isBlank (c : Char) : Bool :=
  if c.toNat < 128 then c == ' ' || (9 ≤ c.toNat && c.toNat ≤ 13)
  else CharTable.mem CharTable.blank c.toNat

/-- Drop the elements at the end that satisfy `p`. -/
def dropEndWhile (p : Char → Bool) (s : List Char) : List Char :=
  (s.reverse.dropWhile p).reverse

/-- Drop white space at the start. -/
def trimStart (s : List Char) : List Char := s.dropWhile isBlank

/-- Drop white space at the end. -/
def trimEnd (s : List Char) : List Char := dropEndWhile isBlank s

/-- Drop white space at both ends. -/
def trim (s : List Char) : List Char := trimEnd (trimStart s)

/-- The maximal runs of characters that are not blank; `run` is the run being read, reversed. -/
def wordsFrom : List Char → List Char → List (List Char)
  | run, [] => if run.isEmpty then [] else [run.reverse]
  | run, c :: r =>
    if isBlank c then
      if run.isEmpty then wordsFrom [] r else run.reverse :: wordsFrom [] r
    else wordsFrom (c :: run) r

/-- The words of a text: its maximal runs of characters that are not blank. -/
def words (s : List Char) : List (List Char) := wordsFrom [] s

/-- Trimming makes no text longer. -/
theorem length_trim_le (s : List Char) : (trim s).length ≤ s.length := by
  unfold trim trimEnd dropEndWhile trimStart
  rw [List.length_reverse]
  refine Nat.le_trans (List.dropWhile_sublist _).length_le ?_
  rw [List.length_reverse]
  exact (List.dropWhile_sublist _).length_le

/-- Nothing is dropped where the first character stays. -/
theorem dropWhile_eq_self_of_head {p : Char → Bool} {c : Char} {r : List Char} (h : p c = false) :
    (c :: r).dropWhile p = c :: r := by
  simp [h]

/-- A text that neither begins nor ends with a blank is trimmed already. -/
theorem trim_eq_self_of_ends {c d : Char} {s : List Char} (hs : s.head? = some c)
    (ht : s.getLast? = some d) (hc : isBlank c = false) (hd : isBlank d = false) : trim s = s := by
  have h1 : s.dropWhile isBlank = s := by
    cases s with
    | nil => rfl
    | cons a r =>
      simp only [List.head?_cons, Option.some.injEq] at hs
      subst hs
      exact dropWhile_eq_self_of_head hc
  have h2 : s.reverse.dropWhile isBlank = s.reverse := by
    cases hr : s.reverse with
    | nil => rfl
    | cons a r =>
      have : s.getLast? = some a := by
        rw [← List.head?_reverse, hr]; rfl
      rw [this] at ht
      cases ht
      exact dropWhile_eq_self_of_head hd
  simp [trim, trimStart, trimEnd, dropEndWhile, h1, h2]

/-! ## String forms -/

/-- A text without the white space at its ends. -/
def trimText (s : String) : String := String.ofList (trim s.toList)

/-- A text without the white space at its start. -/
def trimStartText (s : String) : String := String.ofList (trimStart s.toList)

/-- A text without the white space at its end. -/
def trimEndText (s : String) : String := String.ofList (trimEnd s.toList)

/-- The words of a text as strings. -/
def wordsOf (s : String) : List String := (words s.toList).map String.ofList

/-- The words of a text with one space between them. -/
def flatten (s : String) : String := " ".intercalate (wordsOf s)

/-- A text is blank when it has no character but white space. -/
def isBlankText (s : String) : Bool := s.toList.all isBlank

end SchemaBridge.Text
