/-
# Expressions for the target

The expression at the front of a text is read in the dialect of the source, changed where the two
dialects differ, and printed.  Casts get the target's types, columns of the table get the model's
spelling and the target's quotes, and functions with another name in the target get that name.  Text
that cannot be read stays as it is: the target decides about it.

Reading, visiting and printing are left to a library, which is a parameter of `translateWith`;
`translate` has the one here.
-/
import SchemaBridge.Schema.Table
import SchemaBridge.Sql.Library
import SchemaBridge.TypeMap.Target

namespace SchemaBridge.Verification

open Sql (Head Ident Library)

/-- The quote around the names of a dialect. -/
def nameQuote : TargetDialect → Char
  | .google => '\x60'
  | .postgres => '"'

/-- The name of a function in the target, if it has another one there; names in lower case. -/
def functionName? : TargetDialect → String → Option String
  | .google, "now" | .google, "current_timestamp" | .google, "localtimestamp" | .google, "sysdate"
  | .google, "getdate" => some "CURRENT_TIMESTAMP"
  | .google, "current_date" | .google, "curdate" => some "CURRENT_DATE"
  | .google, "gen_random_uuid" | .google, "uuid_generate_v4" | .google, "uuid" =>
    some "GENERATE_UUID"
  | .google, "character_length" => some "CHAR_LENGTH"
  | .postgres, "gen_random_uuid" | .postgres, "uuid_generate_v4" | .postgres, "uuid" =>
    some "spanner.generate_uuid"
  | .postgres, "sysdate" | .postgres, "getdate" => some "now"
  | .postgres, "curdate" => some "current_date"
  | _, _ => none

/-- The parts of a qualified name without quotes. -/
def bareParts (name : String) : List Ident :=
  (Text.splitAtChar '.' name.toList).map fun p => Ident.bare (String.ofList p)

/-- A name that is a column of the table, in the model's spelling and the target's quotes. -/
def requote (d : TargetDialect) (t : Table) (i : Ident) : Ident :=
  match t.columnByName? i.value with
  | some c => ⟨c.name, some (nameQuote d)⟩
  | none => i

/-- Apply a function to the last element. -/
def mapLast {α : Type} (f : α → α) : List α → List α
  | [] => []
  | [a] => [f a]
  | a :: b :: r => a :: mapLast f (b :: r)

/-- The type of a cast in the target. -/
def castType (source : SourceDialect) (d : TargetDialect) (type : String) : String :=
  (TypeMap.map source (SourceType.parse type)).target.render d

section

variable (L : Library) (source : SourceDialect) (d : TargetDialect) (t : Table)

/-- The head of an expression in the target. -/
def translateHead : Head → Head
  | .name parts => .name (mapLast (requote d t) parts)
  | .cast kind type => .cast (if kind = .colons then .cast else kind) (castType source d type)
  | .call function hasArguments =>
    match functionName? d (Text.lowerText (L.printName function)) with
    | some renamed => .call (bareParts renamed) true
    | none => .call function hasArguments
  | .literal .double value => .literal (if d = .postgres then .single else .double) value
  | h => h

/-- One expression in the target; what is inside it is left alone. -/
def translateNode (e : L.Tree) : L.Tree := L.withHead e (translateHead L source d t (L.head e))

/-- The text of an expression for the target, as a library reads, visits and prints it. -/
def translateWith (text : String) : String :=
  match L.expression? (.ofSource source) text with
  | some e => L.print (L.visit (translateNode L source d t) e)
  | none => text

end

/-- The text of an expression for the target. -/
def translate (source : SourceDialect) (d : TargetDialect) (t : Table) (text : String) : String :=
  translateWith Sql.library source d t text

/-- Changing the last element changes no length. -/
@[simp] theorem length_mapLast {α : Type} (f : α → α) (l : List α) :
    (mapLast f l).length = l.length := by
  fun_induction mapLast f l <;> simp_all

/-- The last element is the one that is changed. -/
theorem mapLast_append_singleton {α : Type} (f : α → α) (l : List α) (a : α) :
    mapLast f (l ++ [a]) = l ++ [f a] := by
  induction l with
  | nil => rfl
  | cons b r ih =>
    cases r with
    | nil => rfl
    | cons c r => simpa [mapLast] using ih

end SchemaBridge.Verification
