/-
# Index definitions the grammar cannot read

MySQL indexes may cover the beginning of a column only, and may carry options no other statement
has.  The length of a covered beginning is taken out of the text before it is read.  Where a table
still cannot be read, the lines that define secondary indexes are taken out.
-/
import SchemaBridge.Text.Casing
import SchemaBridge.Text.Pattern

namespace SchemaBridge.Dump

/-- The text after a number between parentheses, if a text begins with one. -/
def afterLength? : List Char → Option (List Char)
  | '(' :: r =>
    match r.takeWhile Char.isDigit, r.dropWhile Char.isDigit with
    | _ :: _, ')' :: rest => some rest
    | _, _ => none
  | _ => none

/-- Something is taken where a length is. -/
theorem length_afterLength? {s rest : List Char} (h : afterLength? s = some rest) :
    rest.length < s.length := by
  unfold afterLength? at h
  split at h
  · rename_i r
    split at h
    · rename_i heq
      have h1 := congrArg List.length heq
      have h2 := (List.dropWhile_sublist (p := Char.isDigit) (l := r)).length_le
      cases h
      simp only [List.length_cons] at h1 ⊢
      omega
    · simp at h
  · simp at h

/-- The name that ends with a closing backtick, given the text before that, last character first. -/
def nameBefore? (seen : List Char) : Option String :=
  match seen.dropWhile (· != '\x60') with
  | [] => none
  | _ => some (String.ofList (seen.takeWhile (· != '\x60')).reverse)

/-- Take out the lengths after backticks.  `seen` is the text since the last backtick that was
followed by a parenthesis, last character first; the names before the lengths are returned, too. -/
def dropLengthsFrom (seen : List Char) : List Char → List Char × List String
  | [] => ([], [])
  | c :: r =>
    if c == '\x60' && r.head? == some '(' then
      match _h : afterLength? r with
      | some rest =>
        let (text, names) := dropLengthsFrom [] rest
        (c :: text, (nameBefore? seen).toList ++ names)
      | none =>
        let (text, names) := dropLengthsFrom [] r
        (c :: text, names)
    else
      let (text, names) := dropLengthsFrom (c :: seen) r
      (c :: text, names)
termination_by s => s.length
decreasing_by
  · have := length_afterLength? _h
    simp only [List.length_cons]
    omega
  all_goals simp

/-- A text without the lengths of covered beginnings, and the columns these stood after. -/
def dropLengths (text : String) : String × List String :=
  let (s, names) := dropLengthsFrom [] text.toList
  (String.ofList s, names)

/-- What a line begins with that defines a secondary index, in upper case. -/
def indexOpenings : List String :=
  ["KEY ", "INDEX ", "UNIQUE KEY ", "UNIQUE INDEX ", "FULLTEXT ", "SPATIAL "]

/-- Whether a line of a table's definition defines a secondary index. -/
def definesIndex (line : List Char) : Bool :=
  let upper := Text.upper (Text.trim line)
  indexOpenings.any fun o => (Text.dropPiece? o.toList upper).isSome

/-- A line without the commas at its end. -/
def withoutCommas (line : List Char) : List Char := Text.dropEndWhile (· == ',') line

/-- Take the commas off the first line that is not blank, of lines in reverse order. -/
def closeList : List (List Char) → List (List Char)
  | [] => []
  | l :: r =>
    if l.all Text.isBlank then l :: closeList r else withoutCommas (Text.trimEnd l) :: r

/-- The lines that stay, last first, and those taken out, last first. -/
def sortLine (state : List (List Char) × List (List Char)) (line : List Char) :
    List (List Char) × List (List Char) :=
  let (kept, dropped) := state
  if definesIndex line then (kept, withoutCommas (Text.trim line) :: dropped)
  else
    let kept := if (Text.trim line).head? == some ')' then closeList kept else kept
    (line :: kept, dropped)

/-- A text without the lines that define secondary indexes, and these lines. -/
def dropIndexLines (text : String) : String × List String :=
  let (kept, dropped) := (Text.lines text.toList).foldl sortLine ([], [])
  ("\n".intercalate (kept.reverse.map String.ofList), dropped.reverse.map String.ofList)

end SchemaBridge.Dump
