/-
# Columns that are a key

Columns are meant to be a key of a table if they are, as a set, the columns of the primary key or of a
unique index.  This is decided by comparing numbers: a key covers them if it has as many parts and all
of these are among them.  For a key that repeats no column that comes to the same.  One that does is
taken for a key of more columns than it has, and not for one of those it has.

## Key statements

* `Table.isUniqueKey_iff`: what is asked of the primary key or a unique index.
* `Covers.perm`, `Covers.consistsOf_iff`, `ConsistsOf.covers_iff`: when this makes the columns exactly
  those of the key.
* `Table.exists_isUniqueKey_of_repeated`: a key that repeats a column is taken for another one.
* `Table.isUniqueKey_exact`: when the answers are right.
-/
import Mathlib.Algebra.Order.BigOperators.Group.List
import Mathlib.Algebra.Order.Group.Nat
import Mathlib.Data.List.Nodup
import Mathlib.Data.List.Perm.Subperm
import SchemaBridge.Schema.Validity

namespace SchemaBridge

section Duplicates

variable {α : Type} [BEq α]

/-- Leaving out what comes again leaves some of the list. -/
theorem eraseDups_sublist (l : List α) : l.eraseDups.Sublist l := by
  match l with
  | [] => exact List.Sublist.refl _
  | a :: l =>
    rw [List.eraseDups_cons]
    exact ((eraseDups_sublist _).trans List.filter_sublist).cons_cons a
termination_by l.length
decreasing_by exact Nat.lt_succ_of_le (List.length_filter_le _ _)

variable [LawfulBEq α]

/-- Nothing comes again after that. -/
theorem nodup_eraseDups (l : List α) : l.eraseDups.Nodup := by
  match l with
  | [] => exact List.nodup_nil
  | a :: l =>
    rw [List.eraseDups_cons, List.nodup_cons]
    refine ⟨fun hmem => ?_, nodup_eraseDups _⟩
    have hne := (List.mem_filter.1 (List.mem_eraseDups.1 hmem)).2
    simp at hne
termination_by l.length
decreasing_by exact Nat.lt_succ_of_le (List.length_filter_le _ _)

/-- A list from which nothing is erased repeats nothing. -/
theorem length_eraseDups_eq_iff (l : List α) : l.eraseDups.length = l.length ↔ l.Nodup := by
  constructor
  · intro h
    exact (eraseDups_sublist l).eq_of_length h ▸ nodup_eraseDups l
  · intro h
    refine Nat.le_antisymm (eraseDups_sublist l).length_le ?_
    exact (List.subperm_of_subset h fun a ha => List.mem_eraseDups.2 ha).length_le

/-- Where nothing comes again nothing is left out. -/
theorem eraseDups_of_nodup {l : List α} (h : l.Nodup) : l.eraseDups = l :=
  (eraseDups_sublist l).eq_of_length ((length_eraseDups_eq_iff l).2 h)

end Duplicates

/-- A key has as many parts as there are columns, and all of them are among these. -/
structure Covers (columns : List ColumnId) (keys : List KeyPart) : Prop where
  asMany : keys.length = columns.length
  among : ∀ k ∈ keys, k.column ∈ columns

/-- A key that repeats no column consists of the columns it covers. -/
theorem Covers.perm {columns : List ColumnId} {keys : List KeyPart} (h : Covers columns keys)
    (hkeys : (keys.map (·.column)).Nodup) : (keys.map (·.column)).Perm columns := by
  refine (List.subperm_of_subset hkeys fun c hc => ?_).perm_of_length_le ?_
  · obtain ⟨k, hk, rfl⟩ := List.mem_map.1 hc
    exact h.among k hk
  · rw [List.length_map]
    exact Nat.le_of_eq h.asMany.symm

namespace Table

/-- Columns cover a key if they are as many as all of its columns and among them. -/
theorem coversKey_iff (columns : List ColumnId) (keys : List KeyPart) :
    coversKey columns keys = true ↔ Covers columns keys := by
  unfold coversKey
  rw [Bool.and_eq_true, beq_iff_eq, List.all_eq_true]
  constructor
  · rintro ⟨hlength, hall⟩
    exact ⟨hlength, fun k hk => List.contains_iff_mem.1 (hall k hk)⟩
  · intro h
    exact ⟨h.asMany, fun k hk => List.contains_iff_mem.2 (h.among k hk)⟩

/-- What is asked of columns that are a key: they are some, none is repeated, and the primary key or a
unique index covers them. -/
theorem isUniqueKey_iff (t : Table) (columns : List ColumnId) : t.isUniqueKey columns = true
    ↔ columns ≠ [] ∧ columns.Nodup ∧ (Covers columns t.primaryKey
      ∨ ∃ i ∈ t.indexes, i.unique = true ∧ Covers columns i.keys) := by
  unfold isUniqueKey
  by_cases hnodup : columns.Nodup
  · simp only [eraseDups_of_nodup hnodup, Bool.and_eq_true, Bool.or_eq_true, List.any_eq_true, coversKey_iff,
      Bool.not_eq_true', List.isEmpty_eq_false_iff, beq_self_eq_true, and_true, hnodup, true_and]
  · have hshorter : (columns.eraseDups.length == columns.length) = false := by
      rw [beq_eq_false_iff_ne]
      exact fun h => hnodup ((length_eraseDups_eq_iff columns).1 h)
    simp only [hshorter, Bool.and_false, Bool.false_and, Bool.false_eq_true, hnodup, false_and,
      and_false]

end Table

/-! ## Keys that consist of given columns -/

/-- The columns of a key are the given ones, as a set. -/
def ConsistsOf (columns : List ColumnId) (keys : List KeyPart) : Prop :=
  ∀ c, c ∈ columns ↔ c ∈ keys.map (·.column)

/-- A key consists of columns if both have the same members. -/
theorem consistsOf_iff (columns : List ColumnId) (keys : List KeyPart) : ConsistsOf columns keys
    ↔ columns ⊆ keys.map (·.column) ∧ keys.map (·.column) ⊆ columns := by
  constructor
  · intro h
    exact ⟨fun c hc => (h c).1 hc, fun c hc => (h c).2 hc⟩
  · rintro ⟨hcolumns, hkeys⟩ c
    exact ⟨fun hc => hcolumns hc, fun hc => hkeys hc⟩

instance (columns : List ColumnId) (keys : List KeyPart) : Decidable (ConsistsOf columns keys) :=
  decidable_of_iff' _ (consistsOf_iff columns keys)

section Counting

variable {columns : List ColumnId} {keys : List KeyPart}

/-- As many parts as columns, all among them: they are all of the columns if none comes twice. -/
theorem Covers.consistsOf_iff (h : Covers columns keys) (hcolumns : columns.Nodup) :
    ConsistsOf columns keys ↔ (keys.map (·.column)).Nodup := by
  constructor
  · intro hsame
    have hsub : columns.Subperm (keys.map (·.column)) :=
      List.subperm_of_subset hcolumns fun c hc => (hsame c).1 hc
    have hperm : columns.Perm (keys.map (·.column)) := by
      apply hsub.perm_of_length_le
      rw [List.length_map]
      exact Nat.le_of_eq h.asMany
    exact hperm.nodup_iff.1 hcolumns
  · intro hkeys c
    exact (h.perm hkeys).mem_iff.symm

/-- The columns of a key, counted: they are as many as its parts if none comes twice. -/
theorem ConsistsOf.covers_iff (h : ConsistsOf columns keys) (hcolumns : columns.Nodup) :
    Covers columns keys ↔ (keys.map (·.column)).Nodup := by
  constructor
  · intro hcovers
    exact (hcovers.consistsOf_iff hcolumns).1 h
  · intro hkeys
    have hperm : (keys.map (·.column)).Perm columns :=
      (List.perm_ext_iff_of_nodup hkeys hcolumns).2 fun c => (h c).symm
    refine ⟨?_, fun k hk => (h k.column).2 (List.mem_map_of_mem hk)⟩
    rw [← hperm.length_eq, List.length_map]

end Counting

namespace Table

variable (t : Table)

/-- What makes the rows of a table unique: its primary key and its unique indexes. -/
def uniqueKeys : List (List KeyPart) :=
  t.primaryKey :: (t.indexes.filter (·.unique)).map (·.keys)

/-- The unique keys of a table are its primary key and those of its unique indexes. -/
theorem exists_mem_uniqueKeys {p : List KeyPart → Prop} : (∃ keys ∈ t.uniqueKeys, p keys)
    ↔ p t.primaryKey ∨ ∃ i ∈ t.indexes, i.unique = true ∧ p i.keys := by
  unfold uniqueKeys
  simp only [List.mem_cons, List.mem_map, List.mem_filter]
  constructor
  · rintro ⟨keys, rfl | ⟨i, ⟨hi, hunique⟩, rfl⟩, hp⟩
    · exact Or.inl hp
    · exact Or.inr ⟨i, hi, hunique, hp⟩
  · rintro (hp | ⟨i, hi, hunique, hp⟩)
    · exact ⟨_, Or.inl rfl, hp⟩
    · exact ⟨_, Or.inr ⟨i, ⟨hi, hunique⟩, rfl⟩, hp⟩

/-- Columns that are meant to be a key: they are some, none is repeated, and a key consists of
them. -/
def HasExactKey (columns : List ColumnId) : Prop :=
  columns ≠ [] ∧ columns.Nodup ∧ ∃ keys ∈ t.uniqueKeys, ConsistsOf columns keys

instance (columns : List ColumnId) : Decidable (t.HasExactKey columns) :=
  inferInstanceAs (Decidable (_ ∧ _ ∧ _))

/-- Columns that are taken for a key: they are some, none is repeated, and a key covers them. -/
theorem isUniqueKey_iff_covers (columns : List ColumnId) : t.isUniqueKey columns = true
    ↔ columns ≠ [] ∧ columns.Nodup ∧ ∃ keys ∈ t.uniqueKeys, Covers columns keys := by
  rw [isUniqueKey_iff, exists_mem_uniqueKeys]

/-- If no key repeats a column and has no others but the given ones, they are taken for what they
are. -/
theorem isUniqueKey_iff_of_distinct {columns : List ColumnId} (h : ∀ keys ∈ t.uniqueKeys,
      (∀ k ∈ keys, k.column ∈ columns) → (keys.map (·.column)).Nodup) :
    t.isUniqueKey columns = true ↔ t.HasExactKey columns := by
  rw [isUniqueKey_iff_covers]
  constructor
  · rintro ⟨hne, hcolumns, keys, hkeys, hcovers⟩
    have hdistinct := h keys hkeys hcovers.among
    exact ⟨hne, hcolumns, keys, hkeys, (hcovers.consistsOf_iff hcolumns).2 hdistinct⟩
  · rintro ⟨hne, hcolumns, keys, hkeys, hsame⟩
    have hdistinct := h keys hkeys fun k hk => (hsame k.column).2 (List.mem_map_of_mem hk)
    exact ⟨hne, hcolumns, keys, hkeys, (hsame.covers_iff hcolumns).2 hdistinct⟩

/-! ## A key that repeats a column -/

/-- There are always columns that no key of the table names, as many as are asked for. -/
theorem exists_otherColumns (n : ℕ) : ∃ others : List ColumnId, others.length = n ∧ others.Nodup
    ∧ ∀ keys ∈ t.uniqueKeys, ∀ k ∈ keys, k.column ∉ others := by
  -- no identifier is above the sum of all that are named
  refine ⟨(List.range' ((t.uniqueKeys.flatten.map (·.column.val)).sum + 1) n).map ColumnId.mk,
    ?_, ?_, ?_⟩
  · rw [List.length_map, List.length_range']
  · refine List.Nodup.map ?_ List.nodup_range'
    intro i j h
    exact ColumnId.mk.inj h
  · intro keys hkeys k hk hother
    obtain ⟨i, hi, hik⟩ := List.mem_map.1 hother
    have hnamed : k.column.val ∈ t.uniqueKeys.flatten.map (·.column.val) :=
      List.mem_map_of_mem (List.mem_flatten.2 ⟨keys, hkeys, hk⟩)
    have hle := List.le_sum_of_mem hnamed
    have hlt := (List.mem_range'_1.1 hi).1
    have hval : i = k.column.val := congrArg ColumnId.val hik
    omega

/-- A key that repeats a column is taken for one of its columns and others besides, which no key
consists of. -/
theorem exists_isUniqueKey_of_repeated {keys : List KeyPart} (hkeys : keys ∈ t.uniqueKeys)
    (hrepeated : ¬ (keys.map (·.column)).Nodup) :
    ∃ columns, t.isUniqueKey columns = true ∧ ¬ t.HasExactKey columns := by
  have hshorter : (keys.map (·.column)).eraseDups.length < keys.length := by
    have hle := (eraseDups_sublist (keys.map (·.column))).length_le
    have hne := mt (length_eraseDups_eq_iff (keys.map (·.column))).1 hrepeated
    rw [List.length_map] at hle hne
    omega
  -- the columns of the key, once each, and as many others as it has parts too many
  obtain ⟨n, hn⟩ := Nat.exists_eq_add_of_lt hshorter
  obtain ⟨others, hlength, hnodup, hother⟩ := t.exists_otherColumns (n + 1)
  have hne : others ≠ [] := List.ne_nil_of_length_eq_add_one hlength
  have hdisjoint : ∀ c ∈ (keys.map (·.column)).eraseDups, c ∉ others := by
    intro c hc
    obtain ⟨k, hk, rfl⟩ := List.mem_map.1 (List.mem_eraseDups.1 hc)
    exact hother keys hkeys k hk
  refine ⟨(keys.map (·.column)).eraseDups ++ others, ?_, ?_⟩
  · apply (t.isUniqueKey_iff_covers _).2
    refine ⟨List.append_ne_nil_of_right_ne_nil _ hne, ?_, keys, hkeys, ?_, ?_⟩
    · exact List.Nodup.append (nodup_eraseDups _) hnodup hdisjoint
    · rw [List.length_append, hlength]
      omega
    · intro k hk
      apply List.mem_append_left
      exact List.mem_eraseDups.2 (List.mem_map_of_mem hk)
  · rintro ⟨-, -, keys', hkeys', hsame⟩
    obtain ⟨c, hc⟩ := List.exists_mem_of_ne_nil others hne
    obtain ⟨k, hk, rfl⟩ := List.mem_map.1 ((hsame c).1 (List.mem_append_right _ hc))
    exact hother keys' hkeys' k hk hc

/-- **When columns are taken for the key that they are.**  What is asked is that a key has as many
parts as there are columns, and all of these among them.  This is right for columns none of which is
repeated by a key of no others, and it is right for all columns exactly if no key repeats a column. -/
theorem isUniqueKey_exact :
    (∀ columns, t.isUniqueKey columns = true
      ↔ columns ≠ [] ∧ columns.Nodup ∧ ∃ keys ∈ t.uniqueKeys, Covers columns keys)
    ∧ (∀ columns, (∀ keys ∈ t.uniqueKeys, (∀ k ∈ keys, k.column ∈ columns)
        → (keys.map (·.column)).Nodup) → (t.isUniqueKey columns = true ↔ t.HasExactKey columns))
    ∧ ((∀ columns, t.isUniqueKey columns = true ↔ t.HasExactKey columns)
      ↔ ∀ keys ∈ t.uniqueKeys, (keys.map (·.column)).Nodup) := by
  refine ⟨t.isUniqueKey_iff_covers, fun _ => t.isUniqueKey_iff_of_distinct, ?_, ?_⟩
  · intro hright keys hkeys
    by_contra hrepeated
    obtain ⟨columns, hanswer, hnone⟩ := t.exists_isUniqueKey_of_repeated hkeys hrepeated
    exact hnone ((hright columns).1 hanswer)
  · intro hdistinct columns
    exact t.isUniqueKey_iff_of_distinct fun keys hkeys _ => hdistinct keys hkeys

/-- A table with two columns, the first one its key, and a unique index that names the second one
twice. -/
def repeating : Table :=
  { Table.empty ⟨1⟩ "t" with
    columns := [.plain ⟨2⟩ "a" ⟨"integer", [], [], 0, "integer"⟩,
      .plain ⟨3⟩ "b" ⟨"integer", [], [], 0, "integer"⟩]
    primaryKey := [⟨⟨2⟩, false⟩]
    indexes := [⟨⟨4⟩, "u", [⟨⟨3⟩, false⟩, ⟨⟨3⟩, false⟩], true⟩] }

/-- The key is a key, and the rest goes by the index. -/
theorem isUniqueKey_exact_repeating :
    (∀ keys ∈ repeating.uniqueKeys, (∀ k ∈ keys, k.column ∈ [⟨2⟩])
      → (keys.map (·.column)).Nodup)
    ∧ (repeating.isUniqueKey [⟨2⟩] = true ↔ repeating.HasExactKey [⟨2⟩])
    ∧ ¬ ∀ columns, repeating.isUniqueKey columns = true ↔ repeating.HasExactKey columns := by
  obtain ⟨-, hlocal, hall⟩ := isUniqueKey_exact repeating
  have hdistinct : ∀ keys ∈ repeating.uniqueKeys, (∀ k ∈ keys, k.column ∈ [(⟨2⟩ : ColumnId)])
      → (keys.map (·.column)).Nodup := by
    decide
  refine ⟨hdistinct, hlocal _ hdistinct, fun hright => ?_⟩
  have hrepeated : ¬ ∀ keys ∈ repeating.uniqueKeys, (keys.map (·.column)).Nodup := by
    decide
  exact hrepeated (hall.1 hright)

/-- In a valid model, both columns are taken for a key, though none consists of them, and the second
one is not, though the index consists of it. -/
theorem mistaken_repeating :
    ({ Model.empty .postgres .google default with
        tables := [(⟨1⟩, repeating)], nextId := 5 } : Model).validate = .ok ()
    ∧ (repeating.isUniqueKey [⟨2⟩, ⟨3⟩] = true ∧ ¬ repeating.HasExactKey [⟨2⟩, ⟨3⟩])
    ∧ repeating.isUniqueKey [⟨3⟩] = false ∧ repeating.HasExactKey [⟨3⟩] := by
  refine ⟨?_, ⟨?_, ?_⟩, ?_, ?_⟩
  all_goals decide +kernel

end Table

end SchemaBridge
