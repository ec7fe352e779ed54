/-
# Well-formed mappings

A mapping is the choice of a target type for what a source type is read as.  Three things hold of each
of them, whatever the name and the parameters of the source type.  It is exact when nothing is noted and
only then.  A length it declares is one the target allows.  And an array is mapped as its elements are,
unless they are arrays themselves.

A reading tells what was lost by its warning, and a choice by its note, so the first is shown of both
and joined.  For the last one the levels of a PostgreSQL array, declared or written as an underscore
before the name, are counted, and what is left is the name of a scalar.

## Key statements

* `confidence_choose`: a choice is exact when it has no note and only then.
* `readPostgres_eq`: a PostgreSQL type is read as its scalar in that many array levels.
* `map_of_arrayLevels_eq_one`, `map_of_two_le_arrayLevels`: the mapping of an array by its levels.
* `map_isFaithful`: what holds of every mapping.
-/
import SchemaBridge.TypeMap.Target

namespace SchemaBridge

namespace TargetType

/-- Whether a type has a length only if its kind allows that length. -/
def IsBounded (t : TargetType) : Prop :=
  match t.kind with
  | .string => ∀ n ∈ t.length, 1 ≤ n ∧ n ≤ 2621440
  | .bytes => ∀ n ∈ t.length, 1 ≤ n ∧ n ≤ 10485760
  | _ => t.length = none

/-- A length is kept between 1 and its limit. -/
theorem mem_boundedLength {limit n : Nat} {l : Option Nat} :
    n ∈ boundedLength limit l ↔ n ∈ l ∧ 1 ≤ n ∧ n ≤ limit := by
  simp [boundedLength, Option.mem_def, Nat.one_le_iff_ne_zero, Nat.pos_iff_ne_zero]

/-- Texts have lengths within their limit. -/
theorem isBounded_string (n : Option Nat) : (string n).IsBounded :=
  fun _ h => (mem_boundedLength.1 h).2

/-- Bytes have lengths within their limit. -/
theorem isBounded_bytes (n : Option Nat) : (bytes n).IsBounded :=
  fun _ h => (mem_boundedLength.1 h).2

theorem isBounded_asArray {t : TargetType} (h : t.IsBounded) : t.asArray.IsBounded := h

end TargetType

namespace Reading

/-- Whether a reading warns exactly when something was lost. -/
def IsFair (r : Reading) : Prop := r.lossy = r.warning.isSome

theorem isFair_asArray {r : Reading} (h : r.IsFair) : r.asArray.IsFair := h

end Reading

/-- The array levels of a PostgreSQL type: those declared, and one for each underscore before its
name. -/
def SourceType.arrayLevels (t : SourceType) : Nat :=
  t.arrayDims + (t.name.toList.takeWhile (· = '_')).length

/-- The type of the elements of a PostgreSQL array, whatever its levels. -/
def SourceType.scalar (t : SourceType) : SourceType :=
  { t with arrayDims := 0, name := String.ofList (t.name.toList.dropWhile (· = '_')) }

namespace SourceType

variable {t : SourceType}

/-- A name that is marked has a mark at least. -/
theorem one_le_marks (h : t.name.toList.head? = some '_') :
    1 ≤ (t.name.toList.takeWhile (· = '_')).length := by
  obtain ⟨r, hr⟩ := List.head?_eq_some_iff.1 h
  rw [hr, List.takeWhile_cons_of_pos (by simp)]
  exact Nat.succ_le_succ (Nat.zero_le _)

/-- A name that is not marked has none. -/
theorem marks_eq_nil (h : t.name.toList.head? ≠ some '_') :
    t.name.toList.takeWhile (· = '_') = [] := by
  cases hname : t.name.toList with
  | nil => rfl
  | cons c r =>
    have hc : c ≠ '_' := by
      rintro rfl
      exact h (by rw [hname]; rfl)
    exact List.takeWhile_cons_of_neg (by simpa using hc)

/-- The elements of a type without marks. -/
theorem scalar_of_not_marked (h : t.name.toList.head? ≠ some '_') :
    t.scalar = { t with arrayDims := 0 } := by
  have hname : t.name.toList.dropWhile (· = '_') = t.name.toList := by
    have hsplit := List.takeWhile_append_dropWhile (p := (· = '_')) (l := t.name.toList)
    rwa [marks_eq_nil h, List.nil_append] at hsplit
  rw [scalar, hname, String.ofList_toList]

/-- The type of elements is not marked. -/
theorem not_marked_scalar (t : SourceType) : t.scalar.name.toList.head? ≠ some '_' := by
  have h := List.head?_dropWhile_not (· = '_') t.name.toList
  rw [scalar, String.toList_ofList]
  intro hmark
  simp [hmark] at h

@[simp] theorem arrayLevels_scalar (t : SourceType) : t.scalar.arrayLevels = 0 := by
  rw [arrayLevels, marks_eq_nil (not_marked_scalar t)]
  rfl

@[simp] theorem scalar_scalar (t : SourceType) : t.scalar.scalar = t.scalar :=
  scalar_of_not_marked (not_marked_scalar t)

/-- With one level, elements are those of the array. -/
theorem scalar_eq_element (hdims : t.arrayDims = 1) (h : t.name.toList.head? ≠ some '_') :
    t.scalar = t.element := by
  rw [scalar_of_not_marked h, element, hdims]

end SourceType

namespace TypeMap

open CanonicalType

/-! ## Choices -/

section Choices

variable {c : CanonicalType}

/-- Whether a canonical type is none of those chosen an array for. -/
def isFlat : CanonicalType → Bool
  | array _ | .set _ => false
  | _ => true

/-- Every type that is chosen has its length within the limit. -/
theorem isBounded_choose (c : CanonicalType) : (choose c).target.IsBounded := by
  fun_induction choose c
  case case37 => exact TargetType.isBounded_asArray (TargetType.isBounded_string none)
  case case40 inner _ element _ ih => exact TargetType.isBounded_asArray ih
  all_goals
    first
    | rfl
    | exact TargetType.isBounded_string _
    | exact TargetType.isBounded_bytes _

/-- A choice is exact when it has no note and only then. -/
theorem confidence_choose (c : CanonicalType) :
    (choose c).confidence = .exact ↔ (choose c).note = none := by
  fun_induction choose c
  case case40 inner _ element _ ih => exact ih
  all_goals simp [Mapping.exact, Mapping.lossy, Mapping.unsupported]

/-- A type without levels is mapped to no array. -/
theorem array_choose_of_isFlat (h : isFlat c = true) : (choose c).target.array = false := by
  fun_cases choose c
  all_goals first | rfl | cases h

/-- A type without levels is no array. -/
theorem isArray_of_isFlat (h : isFlat c = true) : isArray c = false := by
  cases c <;> first | rfl | cases h

/-- The choice for an array of a type that is not stored as one. -/
theorem choose_array (h : isFlat c = true) :
    choose (array c) = { choose c with target := (choose c).target.asArray } := by
  simp [choose, isArray_of_isFlat h, array_choose_of_isFlat h]

/-- An array of arrays has no target type. -/
theorem choose_array_array (c : CanonicalType) : choose (array (array c))
    = .unsupported (.string none)
        "Multi-dimensional arrays are not supported; stored as text." := by
  simp [choose, isArray]

end Choices

/-! ## Readings -/

section Readings

variable {t : SourceType} {r : Reading}

/-- A PostgreSQL scalar is read as a type that is no array, with a warning if something is lost. -/
theorem readPostgresScalar_spec (t : SourceType) : (readPostgresScalar t).IsFair
    ∧ isFlat (readPostgresScalar t).canonical = true := by
  unfold readPostgresScalar
  split
  case h_21 =>
    split
    · split <;> exact ⟨rfl, rfl⟩
    · exact ⟨rfl, rfl⟩
  all_goals exact ⟨rfl, rfl⟩

/-- MySQL's types are read fairly. -/
theorem isFair_readMysql (t : SourceType) : (readMysql t).IsFair := by
  unfold readMysql
  dsimp only
  split
  all_goals first | rfl | (split <;> first | rfl | (split <;> rfl))

/-- DynamoDB's types are read fairly. -/
theorem isFair_readDynamo (t : SourceType) : (readDynamo t).IsFair := by
  unfold readDynamo
  split <;> rfl

/-- Levels upon levels. -/
theorem nestArrays_add (m n : Nat) (r : Reading) :
    nestArrays (m + n) r = nestArrays m (nestArrays n r) := by
  induction m with
  | zero => rw [Nat.zero_add, nestArrays]
  | succ m ih => rw [Nat.succ_add, nestArrays, nestArrays, ih]

/-- A fair reading stays so in arrays. -/
theorem isFair_nestArrays (h : r.IsFair) (n : Nat) : (nestArrays n r).IsFair := by
  induction n with
  | zero => exact h
  | succ n ih => exact Reading.isFair_asArray ih

/-- The marks of a name are levels of arrays. -/
theorem readPostgresNamed_eq (t : SourceType) (cs : List Char) : readPostgresNamed t cs
    = nestArrays (cs.takeWhile (· = '_')).length
        (readPostgresScalar { t with name := String.ofList (cs.dropWhile (· = '_')) }) := by
  induction cs with
  | nil => rfl
  | cons c cs ih =>
    by_cases hc : c = '_'
    · subst hc
      rw [List.takeWhile_cons_of_pos (by simp), List.dropWhile_cons_of_pos (by simp),
        readPostgresNamed, ih]
      rfl
    · rw [List.takeWhile_cons_of_neg (by simpa using hc),
        List.dropWhile_cons_of_neg (by simpa using hc), readPostgresNamed]
      · rfl
      · rintro base ⟨rfl, -⟩
        exact hc rfl

/-- A PostgreSQL type is read as its scalar in that many array levels. -/
theorem readPostgres_eq (t : SourceType) :
    readPostgres t = nestArrays t.arrayLevels (readPostgresScalar t.scalar) := by
  rw [readPostgres, readPostgresNamed_eq, SourceType.arrayLevels, nestArrays_add]
  rfl

/-- Every type is read fairly. -/
theorem isFair_read (d : SourceDialect) (t : SourceType) : (read d t).IsFair := by
  cases d with
  | postgres =>
    rw [read, readPostgres_eq]
    exact isFair_nestArrays (readPostgresScalar_spec _).1 _
  | mysql => exact isFair_readMysql t
  | dynamo => exact isFair_readDynamo t

end Readings

/-! ## Mappings -/

section Mappings

variable {t : SourceType} {r : Reading}

/-- The mapping of a source type by its reading. -/
def ofReading (r : Reading) : Mapping :=
  { target := (choose r.canonical).target
    confidence :=
      if r.lossy ∧ (choose r.canonical).confidence = .exact then .lossy
      else (choose r.canonical).confidence
    note := joinNotes r.warning (choose r.canonical).note
    ambiguity := r.ambiguity }

/-- A type is mapped by what is read of it. -/
theorem map_eq_ofReading (d : SourceDialect) (t : SourceType) : map d t = ofReading (read d t) :=
  rfl

/-- There is no note if there are none to join. -/
theorem joinNotes_eq_none_iff {a b : Option String} : joinNotes a b = none ↔ a = none ∧ b = none := by
  cases a <;> cases b <;> simp [joinNotes]

/-- A mapping is exact when its reading has no warning, its choice has no note, and only then. -/
theorem confidence_ofReading (h : r.IsFair) :
    (ofReading r).confidence = .exact ↔ (ofReading r).note = none := by
  have hw : r.lossy = true ↔ r.warning ≠ none := by rw [h, Option.isSome_iff_ne_none]
  have hc := confidence_choose r.canonical
  rw [ofReading, joinNotes_eq_none_iff, ← hc]
  by_cases hl : r.lossy = true
  · have hwarned : ¬ r.warning = none := hw.1 hl
    by_cases he : (choose r.canonical).confidence = .exact <;> simp [hl, he, hwarned]
  · have hsilent : r.warning = none := Classical.not_not.1 (mt hw.2 hl)
    simp [hl, hsilent]

/-- A mapping is exact when it has no note and only then. -/
theorem confidence_map (d : SourceDialect) (t : SourceType) :
    (map d t).confidence = .exact ↔ (map d t).note = none :=
  confidence_ofReading (isFair_read d t)

/-- An array is mapped as its elements are. -/
theorem ofReading_asArray (h : isFlat r.canonical = true) :
    ofReading r.asArray = { ofReading r with target := (ofReading r).target.asArray } := by
  simp [ofReading, Reading.asArray, choose_array h]

/-- Two array levels, whatever is in them, are stored as text. -/
theorem ofReading_asArray_asArray (r : Reading) :
    (ofReading r.asArray.asArray).target = ⟨.string, none, false⟩
    ∧ (ofReading r.asArray.asArray).confidence = .unsupported := by
  simp [ofReading, Reading.asArray, choose_array_array, Mapping.unsupported, TargetType.string,
    TargetType.boundedLength]

/-- PostgreSQL's types are mapped by their elements and levels. -/
theorem map_postgres (t : SourceType) :
    map .postgres t = ofReading (nestArrays t.arrayLevels (readPostgresScalar t.scalar)) := by
  rw [map_eq_ofReading, read, readPostgres_eq]

/-- One array level over a scalar is an array of what the scalar is mapped to. -/
theorem map_of_arrayLevels_eq_one (h : t.arrayLevels = 1) : map .postgres t
    = { map .postgres t.scalar with target := (map .postgres t.scalar).target.asArray } := by
  rw [map_postgres t, map_postgres t.scalar, h, SourceType.arrayLevels_scalar,
    SourceType.scalar_scalar]
  exact ofReading_asArray (readPostgresScalar_spec _).2

/-- More array levels are stored as text. -/
theorem map_of_two_le_arrayLevels (h : 2 ≤ t.arrayLevels) :
    (map .postgres t).target = ⟨.string, none, false⟩
    ∧ (map .postgres t).confidence = .unsupported := by
  obtain ⟨n, hn⟩ := Nat.exists_eq_add_of_le h
  rw [map_postgres, hn, nestArrays_add]
  exact ofReading_asArray_asArray _

/-- What holds of every mapping.  It is exact when it has no note and only then, its length is
absent or one the target allows, and a PostgreSQL array is mapped as its elements are unless it has
further levels, which an underscore before the name stands for too. -/
theorem map_isFaithful (d : SourceDialect) (t : SourceType) :
    ((map d t).confidence = .exact ↔ (map d t).note = none)
    ∧ (map d t).target.IsBounded
    ∧ (2 ≤ t.arrayDims ∨ t.name.toList.head? = some '_' ∧ 1 ≤ t.arrayDims →
        (map .postgres t).target = ⟨.string, none, false⟩
        ∧ (map .postgres t).confidence = .unsupported)
    ∧ (t.arrayDims = 1 → t.name.toList.head? ≠ some '_' →
        (map .postgres t).target = (map .postgres t.element).target.asArray
        ∧ (map .postgres t).confidence = (map .postgres t.element).confidence
        ∧ (map .postgres t).note = (map .postgres t.element).note) := by
  refine ⟨confidence_map d t, isBounded_choose _, fun h => ?_,
    fun hdims hmark => ?_⟩
  · refine map_of_two_le_arrayLevels ?_
    rcases h with h | ⟨hmark, h⟩
    · exact Nat.le_trans h (Nat.le_add_right _ _)
    · exact Nat.add_le_add h (SourceType.one_le_marks hmark)
  · have hlevels : t.arrayLevels = 1 := by
      rw [SourceType.arrayLevels, hdims, SourceType.marks_eq_nil hmark, List.length_nil]
    have helement : t.scalar = t.element := SourceType.scalar_eq_element hdims hmark
    rw [map_of_arrayLevels_eq_one hlevels, helement]
    exact ⟨rfl, rfl, rfl⟩

/-- Arrays of one and of two levels, and one whose name stands for a second one. -/
theorem map_of_declared_arrays :
    (map .postgres ⟨"varchar", [10], [], 1, "varchar(10)[]"⟩).target = ⟨.string, some 10, true⟩
    ∧ (map .postgres ⟨"int4", [], [], 2, "int4[][]"⟩).target = ⟨.string, none, false⟩
    ∧ (map .postgres ⟨"_int4", [], [], 1, "_int4[]"⟩).confidence = .unsupported := by
  obtain ⟨hsingle, -, -⟩ :=
    (map_isFaithful .postgres ⟨"varchar", [10], [], 1, "varchar(10)[]"⟩).2.2.2 rfl (by decide)
  obtain ⟨hnested, -⟩ :=
    (map_isFaithful .postgres ⟨"int4", [], [], 2, "int4[][]"⟩).2.2.1 (.inl (Nat.le_refl 2))
  obtain ⟨-, hmarked⟩ := (map_isFaithful .postgres ⟨"_int4", [], [], 1, "_int4[]"⟩).2.2.1
    (.inr ⟨by decide, Nat.le_refl 1⟩)
  exact ⟨hsingle, hnested, hmarked⟩

end Mappings

end TypeMap

end SchemaBridge
