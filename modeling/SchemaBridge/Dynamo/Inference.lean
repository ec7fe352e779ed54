/-
# Types of sampled attributes

An attribute without a declared type gets the type of nine tenths of its sampled values, those that
are null left out.  The quotient of the two counts is a floating-point number, and so is what it is
compared with.  Which items the sample lists first makes no difference: names and types are taken in
their own order.

## Key statements

* `mem_nameSet`: a name set has the names it was made of.
-/
import SchemaBridge.Dynamo.Export

namespace SchemaBridge.Dynamo

/-- Put a name into a list in ascending order that has every name once. -/
def insertName (n : String) : List String → List String
  | [] => [n]
  | m :: r => if n < m then n :: m :: r else if n = m then m :: r else m :: insertName n r

/-- The names of a list in ascending order, each once. -/
def nameSet (ns : List String) : List String := ns.foldr insertName []

/-- The type a value is labelled with: the first key of its object; none for null. -/
def valueType? : Json → Option String
  | .obj ((t, _) :: _) => if t = "NULL" then none else some t
  | _ => none

/-- The attributes that occur in a sample. -/
def sampledNames (items : List Item) : List String :=
  nameSet (items.flatMap fun i => i.map (·.1))

/-- The types an attribute has in a sample, one for each value that is not null. -/
def sampledTypes (name : String) (items : List Item) : List String :=
  items.filterMap fun i => (i.lookup name).bind valueType?

/-- The types of a list and how often each occurs. -/
def tally (types : List String) : List (String × Nat) :=
  (nameSet types).map fun t => (t, types.count t)

/-- The more frequent of two entries of a tally, the first of two that are equally frequent. -/
def moreFrequent (a b : String × Nat) : String × Nat := if a.2 < b.2 then b else a

/-- What is known of the type of an attribute without a declared one. -/
inductive Inferred
  /-- Nine tenths of the values have this type. -/
  | dominant (type : String)
  | mixed (counts : List (String × Nat))
  /-- No value is other than null. -/
  | unknown
  deriving DecidableEq, Repr, Inhabited

/-- The share of the values that a type must have. -/
def dominantShare : Float := 0.9

/-- Whether a count is a large enough share of a total; both are words of 64 bits, and the quotient is
rounded. -/
def isShare (count total : Nat) : Bool :=
  decide (dominantShare ≤ count.toUInt64.toFloat / total.toUInt64.toFloat)

/-- The type that dominates a list of types. -/
def inferType (types : List String) : Inferred :=
  match tally types with
  | [] => .unknown
  | first :: rest =>
    let top := rest.foldl moreFrequent first
    if isShare top.2 types.length then .dominant top.1 else .mixed (first :: rest)

/-- The entries of a tally as messages show them. -/
def describeCounts (counts : List (String × Nat)) : String :=
  ", ".intercalate (counts.map fun (t, n) => t ++ " x" ++ Text.decimal n)

/-- A name that is inserted is there beside those that were. -/
theorem mem_insertName (n m : String) (l : List String) :
    m ∈ insertName n l ↔ m = n ∨ m ∈ l := by
  induction l with
  | nil => simp [insertName]
  | cons a r ih =>
    unfold insertName
    split
    · simp
    · split
      · rename_i h
        simp [h]
      · simp only [List.mem_cons, ih]
        constructor <;> rintro (h | h | h) <;> simp [h]

/-- A list and its names in order have the same members. -/
theorem mem_nameSet (m : String) (l : List String) : m ∈ nameSet l ↔ m ∈ l := by
  induction l with
  | nil => simp [nameSet]
  | cons a r ih =>
    have : nameSet (a :: r) = insertName a (nameSet r) := rfl
    rw [this, mem_insertName, ih, List.mem_cons]

end SchemaBridge.Dynamo
