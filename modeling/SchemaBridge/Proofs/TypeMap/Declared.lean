/-
# Declared numbers

A source type declares its numbers with 64 bits and a canonical type keeps 32 of them.  A length that
does not fit becomes the largest one, which is past every limit of the target, so a length is the
declared one or unbounded.  Of a precision or a scale the lowest 32 bits are kept.  What is compared
with the limits of the target is then the residue, and two declarations with one residue are mapped
alike.

## Key statements

* `read_of_isDecimal`, `read_of_isCharacter`, `read_of_isBinary`: what the declared types are read as.
* `confidence_of_isDecimal`: an exact decimal is one whose residues fit.
* `map_declared`: what becomes of declared numbers.
-/
import SchemaBridge.Proofs.TypeMap.Mapping

namespace SchemaBridge.TypeMap

open CanonicalType

/-- Whether the target stores every number of a precision and a scale. -/
def Fits (p s : Int) : Prop := p ≤ 38 ∧ s ≤ 9 ∧ s ≤ p

instance (p s : Int) : Decidable (Fits p s) :=
  inferInstanceAs (Decidable (p ≤ 38 ∧ s ≤ 9 ∧ s ≤ p))

/-! ## Types that declare numbers -/

/-- The name of a MySQL type without the words for signs and padding. -/
def mysqlName (t : SourceType) : String :=
  " ".intercalate
    ((Text.wordsOf t.name).filter fun w => ! ["unsigned", "signed", "zerofill"].contains w)

/-- Whether a type is a scalar with a precision and a scale. -/
def IsDecimal : SourceDialect → SourceType → Prop
  | .postgres, t => t.arrayDims = 0 ∧ (t.name = "numeric" ∨ t.name = "decimal")
  | .mysql, t => mysqlName t ∈ ["decimal", "numeric", "dec", "fixed"]
  | .dynamo, _ => False

instance : (d : SourceDialect) → (t : SourceType) → Decidable (IsDecimal d t)
  | .postgres, _ => inferInstanceAs (Decidable (_ ∧ _))
  | .mysql, _ => inferInstanceAs (Decidable (_ ∈ _))
  | .dynamo, _ => inferInstanceAs (Decidable False)

/-- Whether a type is a scalar character string with a length. -/
def IsCharacter : SourceDialect → SourceType → Prop
  | .postgres, t => t.arrayDims = 0
    ∧ t.name ∈ ["char", "character", "bpchar", "varchar", "character varying"]
  | .mysql, t => mysqlName t ∈ ["char", "varchar"]
  | .dynamo, _ => False

instance : (d : SourceDialect) → (t : SourceType) → Decidable (IsCharacter d t)
  | .postgres, _ => inferInstanceAs (Decidable (_ ∧ _))
  | .mysql, _ => inferInstanceAs (Decidable (_ ∈ _))
  | .dynamo, _ => inferInstanceAs (Decidable False)

/-- Whether a type is a scalar byte string with a length. -/
def IsBinary : SourceDialect → SourceType → Prop
  | .mysql, t => mysqlName t ∈ ["binary", "varbinary"]
  | _, _ => False

instance : (d : SourceDialect) → (t : SourceType) → Decidable (IsBinary d t)
  | .postgres, _ => inferInstanceAs (Decidable False)
  | .mysql, _ => inferInstanceAs (Decidable (_ ∈ _))
  | .dynamo, _ => inferInstanceAs (Decidable False)

section Read

variable {d : SourceDialect} {t : SourceType} {p n : Int}

/-- A PostgreSQL scalar is read by its name. -/
theorem readPostgres_of_scalar (hdims : t.arrayDims = 0)
    (hmark : t.name.toList.head? ≠ some '_') : readPostgres t = readPostgresScalar t := by
  have hlevels : t.arrayLevels = 0 := by
    rw [SourceType.arrayLevels, hdims, SourceType.marks_eq_nil hmark, List.length_nil]
  have hscalar : t.scalar = t := by rw [SourceType.scalar_of_not_marked hmark, ← hdims]
  rw [readPostgres_eq, hlevels, hscalar, nestArrays]

/-- A decimal with a declared precision is read with the residues of precision and scale. -/
theorem read_of_isDecimal (h : IsDecimal d t) (hp : t.modifier? 0 = some p) :
    read d t = .exact (decimal (some (wordOf p)) (some (wordOf ((t.modifier? 1).getD 0)))) := by
  cases d with
  | postgres =>
    obtain ⟨hdims, hname⟩ := h
    rw [read, readPostgres_of_scalar hdims (by rcases hname with h | h <;> rw [h] <;> decide)]
    rcases hname with hname | hname <;>
      simp only [readPostgresScalar, hname, declaredDecimal, hp, Option.map_some]
  | mysql =>
    have hname : mysqlName t = "decimal" ∨ mysqlName t = "numeric" ∨ mysqlName t = "dec"
        ∨ mysqlName t = "fixed" := by simpa [IsDecimal] using h
    unfold mysqlName at hname
    rcases hname with hname | hname | hname | hname <;>
      simp only [read, readMysql, hname, hp, Option.getD_some]
  | dynamo => exact h.elim

/-- A length that is given is kept up to the largest one. -/
theorem lengthOr_of_pos (hn : t.modifier? 0 = some n) (hpos : 1 ≤ n) (default : Nat) :
    lengthOr t default = min n.toNat (wordSize - 1) := by
  rw [lengthOr, hn]
  exact if_pos hpos

/-- A length of characters is read as a word holds it. -/
theorem read_of_isCharacter (h : IsCharacter d t) (hn : t.modifier? 0 = some n) (hpos : 1 ≤ n) :
    read d t = .exact (char (min n.toNat (wordSize - 1)))
    ∨ read d t = .exact (varchar (min n.toNat (wordSize - 1))) := by
  cases d with
  | postgres =>
    obtain ⟨hdims, hname⟩ := h
    have hname : t.name = "char" ∨ t.name = "character" ∨ t.name = "bpchar" ∨ t.name = "varchar"
        ∨ t.name = "character varying" := by simpa using hname
    have hmark : t.name.toList.head? ≠ some '_' := by
      rcases hname with h | h | h | h | h <;> rw [h] <;> decide
    rw [read, readPostgres_of_scalar hdims hmark]
    rcases hname with h | h | h | h | h <;>
      simp [readPostgresScalar, h, lengthOr_of_pos hn hpos, Reading.exact]
  | mysql =>
    have hname : mysqlName t = "char" ∨ mysqlName t = "varchar" := by
      simpa [IsCharacter] using h
    unfold mysqlName at hname
    rcases hname with hname | hname
    · left
      simp only [read, readMysql, hname, lengthOr_of_pos hn hpos]
    · right
      simp only [read, readMysql, hname, lengthOr_of_pos hn hpos]
  | dynamo => exact h.elim

/-- A length of bytes is read as a word holds it. -/
theorem read_of_isBinary (h : IsBinary d t) (hn : t.modifier? 0 = some n) (hpos : 1 ≤ n) :
    read d t = .exact (binary (min n.toNat (wordSize - 1)))
    ∨ read d t = .exact (varbinary (min n.toNat (wordSize - 1))) := by
  cases d with
  | mysql =>
    have hname : mysqlName t = "binary" ∨ mysqlName t = "varbinary" := by
      simpa [IsBinary] using h
    unfold mysqlName at hname
    rcases hname with hname | hname
    · left
      simp only [read, readMysql, hname, lengthOr_of_pos hn hpos]
    · right
      simp only [read, readMysql, hname, lengthOr_of_pos hn hpos]
  | postgres => exact h.elim
  | dynamo => exact h.elim

end Read

/-! ## Limits of the target -/

section Limits

variable {d : SourceDialect} {t : SourceType} {p s n : Int}

/-- The lowest 32 bits of a number that is not negative are its residue. -/
theorem wordOf_of_nonneg (h : 0 ≤ n) : (wordOf n : Int) = n % 4294967296 := by
  rw [wordOf, Int.natCast_emod, Int.toNat_of_nonneg h]
  rfl

/-- A decimal number is exact if its digits fit. -/
theorem confidence_decimal (p s : Nat) :
    (choose (decimal (some p) (some s))).confidence = .exact ↔ Fits p s := by
  have hfits : Fits p s ↔ p ≤ maxPrecision ∧ s ≤ maxScale ∧ s ≤ p := by
    simp only [Fits, maxPrecision, maxScale]
    omega
  rw [hfits]
  by_cases h : p ≤ maxPrecision ∧ s ≤ maxScale ∧ s ≤ p <;>
    simp [choose, h, Mapping.exact, Mapping.lossy]

/-- An exact decimal is one whose residues fit. -/
theorem confidence_of_isDecimal (h : IsDecimal d t) (hp : t.modifier? 0 = some p)
    (hs : (t.modifier? 1).getD 0 = s) (hp0 : 1 ≤ p) (hs0 : 0 ≤ s) :
    (map d t).confidence = .exact ↔ Fits (p % 4294967296) (s % 4294967296) := by
  rw [map_eq_ofReading, read_of_isDecimal h hp, hs, ← wordOf_of_nonneg (by omega),
    ← wordOf_of_nonneg hs0, ← confidence_decimal]
  rfl

/-- A length is kept when the target allows it, and unbounded when it is past the limit: the largest
length that is read is past it too. -/
theorem boundedLength_of_pos (limit : Nat) (hpos : 1 ≤ n) (hlimit : limit < wordSize - 1) :
    TargetType.boundedLength limit (declaredLength (min n.toNat (wordSize - 1)))
      = if n ≤ limit then some n.toNat else none := by
  have hn : min n.toNat (wordSize - 1) ≠ 0 := by
    rw [wordSize]
    omega
  rw [declaredLength, if_neg hn, TargetType.boundedLength]
  split
  next hle =>
    have hmin : min n.toNat (wordSize - 1) = n.toNat := by omega
    have hkept : 0 < n.toNat ∧ n.toNat ≤ limit := by omega
    rw [hmin, Option.filter_some_pos (by simpa using hkept)]
  next hgt =>
    have hpast : ¬ min n.toNat (wordSize - 1) ≤ limit := by omega
    rw [Option.filter_some_neg (by simp [hpast])]

/-- The length of a text is kept if the target admits it. -/
theorem target_of_isCharacter (h : IsCharacter d t) (hn : t.modifier? 0 = some n)
    (hpos : 1 ≤ n) :
    (map d t).target = ⟨.string, if n ≤ 2621440 then some n.toNat else none, false⟩ := by
  have hlength := boundedLength_of_pos TargetType.maxStringLength hpos (by decide)
  rw [map_eq_ofReading]
  rcases read_of_isCharacter h hn hpos with hread | hread <;> rw [hread]
  all_goals
    show (⟨.string, _, false⟩ : TargetType) = _
    rw [hlength]
    rfl

/-- The length of bytes is kept if the target admits it. -/
theorem target_of_isBinary (h : IsBinary d t) (hn : t.modifier? 0 = some n) (hpos : 1 ≤ n) :
    (map d t).target = ⟨.bytes, if n ≤ 10485760 then some n.toNat else none, false⟩ := by
  have hlength := boundedLength_of_pos TargetType.maxBytesLength hpos (by decide)
  rw [map_eq_ofReading]
  rcases read_of_isBinary h hn hpos with hread | hread <;> rw [hread]
  all_goals
    show (⟨.bytes, _, false⟩ : TargetType) = _
    rw [hlength]
    rfl

/-- What becomes of declared numbers.  A decimal is exact when what 32 bits keep of its precision and
its scale fits the target, which for numbers of 32 bits is when the numbers fit; one that fits is
always exact.  A length is as declared up to the limit of the target, and unbounded from there. -/
theorem map_declared (d : SourceDialect) (t : SourceType) :
    (∀ p s : Int, IsDecimal d t → t.modifier? 0 = some p → (t.modifier? 1).getD 0 = s →
      1 ≤ p → 0 ≤ s →
        ((map d t).confidence = .exact ↔ Fits (p % 4294967296) (s % 4294967296))
        ∧ (Fits p s → (map d t).confidence = .exact)
        ∧ (p < 4294967296 → s < 4294967296 → ((map d t).confidence = .exact ↔ Fits p s)))
    ∧ ∀ n : Int, t.modifier? 0 = some n → 1 ≤ n →
        (IsCharacter d t →
          (map d t).target = ⟨.string, if n ≤ 2621440 then some n.toNat else none, false⟩)
        ∧ (IsBinary d t →
          (map d t).target = ⟨.bytes, if n ≤ 10485760 then some n.toNat else none, false⟩) := by
  refine ⟨fun p s hd hp hs hp0 hs0 => ?_, fun n hn hpos =>
    ⟨fun h => target_of_isCharacter h hn hpos, fun h => target_of_isBinary h hn hpos⟩⟩
  have hexact := confidence_of_isDecimal hd hp hs hp0 hs0
  refine ⟨hexact, fun hfits => hexact.2 ?_, fun hpw hsw => ?_⟩
  · obtain ⟨hp38, hs9, hsp⟩ := hfits
    rw [Int.emod_eq_of_lt (by omega) (by omega), Int.emod_eq_of_lt hs0 (by omega)]
    exact ⟨hp38, hs9, hsp⟩
  · rw [hexact, Int.emod_eq_of_lt (by omega) hpw, Int.emod_eq_of_lt hs0 hsw]

/-- A decimal that fits, a string within its limit and bytes past theirs. -/
theorem map_of_small_numbers :
    (map .postgres ⟨"numeric", [10, 2], [], 0, "numeric(10,2)"⟩).confidence = .exact
    ∧ (map .mysql ⟨"varchar", [255], [], 0, "varchar(255)"⟩).target = ⟨.string, some 255, false⟩
    ∧ (map .mysql ⟨"varbinary", [20000000], [], 0, "varbinary(20000000)"⟩).target
      = ⟨.bytes, none, false⟩ := by
  have hdecimal := (map_declared .postgres ⟨"numeric", [10, 2], [], 0, "numeric(10,2)"⟩).1 10 2
    (by decide) rfl rfl (by decide) (by decide)
  have hstring := ((map_declared .mysql ⟨"varchar", [255], [], 0, "varchar(255)"⟩).2 255
    rfl (by decide)).1 (by decide)
  have hbytes := ((map_declared .mysql
    ⟨"varbinary", [20000000], [], 0, "varbinary(20000000)"⟩).2 20000000 rfl (by decide)).2
    (by decide)
  exact ⟨hdecimal.2.1 (by decide), hstring, hbytes⟩

/-- A precision and a scale past 32 bits that are read as 1 and as 2. -/
theorem confidence_of_large_numbers :
    IsDecimal .postgres ⟨"numeric", [4294967297, 0], [], 0, "numeric(4294967297,0)"⟩
    ∧ (map .postgres ⟨"numeric", [4294967297, 0], [], 0, "numeric(4294967297,0)"⟩).confidence
      = .exact
    ∧ ¬ Fits 4294967297 0
    ∧ IsDecimal .mysql ⟨"decimal", [20, 4294967298], [], 0, "decimal(20,4294967298)"⟩
    ∧ (map .mysql ⟨"decimal", [20, 4294967298], [], 0, "decimal(20,4294967298)"⟩).confidence
      = .exact
    ∧ ¬ Fits 20 4294967298 := by
  decide

end Limits

end SchemaBridge.TypeMap
