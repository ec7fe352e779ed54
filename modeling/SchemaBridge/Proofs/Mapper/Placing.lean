/-
# What the first phase decides

The first phase of a mapping decides on the columns and the primary key of every table; the second
and the third one change indexes and foreign keys, and speak of nothing else.  So columns and keys of
a mapped model, and what is said of them, are those of the first phase, however often the model is
mapped.

## Key statements

* `map_tables_placed`, `map_places`: every table of a mapped model is as the first phase has left it,
  save for indexes and foreign keys.
* `filter_map`: what a mapping says and no later phase does is said by the first one.
* `foldl_map`: what any number of mappings makes of a model.
-/
import SchemaBridge.Proofs.Mapper.Names
import SchemaBridge.Proofs.Mapper.Repetition

namespace SchemaBridge

/-- A table without its columns, keys and indexes. -/
def Table.frame (t : Table) : Table :=
  { t with columns := [], primaryKey := [], indexes := [], foreignKeys := [] }

namespace Mapper

/-! ## Tables -/

section Tables

variable {m : Model} {source : SourceDialect} {d : TargetDialect} {synthetic : String} {n : Nat}
  {id : TableId} {t : Table}

/-- A table without what the later phases change. -/
def withoutParts (t : Table) : Table := { t with indexes := [], foreignKeys := [] }

/-- A table that is as the first phase leaves another one, save for what later phases change. -/
def IsPlacedAs (source : SourceDialect) (d : TargetDialect) (synthetic : String)
    (e e' : TableId × Table) : Prop :=
  e'.1 = e.1 ∧ ∃ n, withoutParts e'.2 = withoutParts (place source d synthetic n e.1 e.2).table

/-- Each table is placed. -/
theorem placeAll_places (source : SourceDialect) (d : TargetDialect) (synthetic : String) (n : Nat)
    (l : KeyedTables) : List.Forall₂ (IsPlacedAs source d synthetic) l
      (placeAll source d synthetic n l).tables := by
  induction l generalizing n with
  | nil => exact .nil
  | cons e l ih => exact .cons ⟨rfl, n, rfl⟩ (ih _)

/-- The tables the first phase leaves are those of the mapped model, save for indexes and foreign
keys. -/
theorem map_tables_placed (h : m.Sound) (synthetic : String) :
    List.Forall₂ (fun e e' => e'.1 = e.1 ∧ withoutParts e'.2 = withoutParts e.2)
      (placed synthetic m).tables (map synthetic m).tables := by
  rw [map_eq h synthetic]
  refine List.forall₂_map_right_iff.2 ((mapTableIndexes_tables _ _).imp ?_)
  rintro e e' ⟨hid, kept, he, -⟩
  exact ⟨hid, by rw [he]; rfl⟩

/-- Every table of a mapped model is as the first phase makes it of the one it was. -/
theorem map_places (h : m.Sound) (synthetic : String) :
    List.Forall₂ (IsPlacedAs m.source m.target synthetic) m.tables (map synthetic m).tables := by
  refine forall₂_comp ?_ (placeAll_places _ _ _ m.nextId _) (map_tables_placed h synthetic)
  rintro e e' e'' ⟨hid, n, hplaced⟩ ⟨hid', hparts⟩
  exact ⟨hid'.trans hid, n, hparts.trans hplaced⟩

/-- Tables that differ in indexes and foreign keys alone. -/
theorem parts_of_withoutParts {t t' : Table} (h : withoutParts t' = withoutParts t) :
    t'.columns = t.columns ∧ t'.primaryKey = t.primaryKey ∧ t'.frame = t.frame := by
  have hcolumns : (withoutParts t').columns = (withoutParts t).columns := by rw [h]
  have hkey : (withoutParts t').primaryKey = (withoutParts t).primaryKey := by rw [h]
  have hframe : (withoutParts t').frame = (withoutParts t).frame := by rw [h]
  exact ⟨hcolumns, hkey, hframe⟩

/-- The columns the first phase leaves: a synthetic key, if it puts one in front, and the others with
their types. -/
theorem place_columns (source : SourceDialect) (d : TargetDialect) (synthetic : String) (n : Nat)
    (id : TableId) (t : Table) : ∃ front : List Column,
      (place source d synthetic n id t).table.columns = front ++ t.columns.map (mapColumn source)
      ∧ ∀ c ∈ front, ∃ i name, c = syntheticColumn d i name := by
  unfold place placeKey
  dsimp only
  split
  · exact ⟨[], rfl, List.forall_mem_nil _⟩
  · split
    · exact ⟨[], rfl, List.forall_mem_nil _⟩
    · refine ⟨[_], rfl, fun c hc => ?_⟩
      rw [List.mem_singleton.1 hc]
      exact ⟨_, _, rfl⟩

/-- Placing a table leaves its frame. -/
theorem place_frame (source : SourceDialect) (d : TargetDialect) (synthetic : String) (n : Nat)
    (id : TableId) (t : Table) : (place source d synthetic n id t).table.frame = t.frame := by
  unfold place placeKey
  dsimp only
  split
  · rfl
  · split <;> rfl

end Tables

/-! ## Findings -/

section Findings

variable {m : Model} {id : TableId} {t : Table} {i : Issue}

/-- A finding such as the later phases make: about an index, a foreign key or a table. -/
structure IsLate (i : Issue) : Prop where
  category : i.category = .nameCollision ∨ i.category = .unsupportedConstraint
    ∨ i.category = .typeMismatch
  target : ∀ id c, i.target ≠ .column id c

/-- What is said of indexes is said later. -/
theorem isLate_indexedTables {synthetic : String} (hi : i ∈ (indexedTables synthetic m).2) :
    IsLate i := by
  obtain ⟨e, -, p, -, hi⟩ := exists_of_mem_mapTableIndexes hi
  rcases mem_planFindings hi with ⟨c, -, rfl⟩ | ⟨name, -, rfl⟩
  · exact ⟨.inr (.inl rfl), fun _ _ => nofun⟩
  · exact ⟨.inl rfl, fun _ _ => nofun⟩

theorem isLate_mismatchIssues {d : TargetDialect} {parent : Table} {f : ForeignKey}
    (hi : i ∈ mismatchIssues d id t parent f) : IsLate i := by
  obtain ⟨⟨child, referenced⟩, -, hi⟩ := List.mem_filterMap.1 hi
  dsimp only at hi
  obtain ⟨a, -, hi⟩ := Option.bind_eq_some_iff.1 hi
  obtain ⟨b, -, hi⟩ := Option.bind_eq_some_iff.1 hi
  split at hi <;> cases hi
  exact ⟨.inr (.inr rfl), fun _ _ => nofun⟩

theorem isLate_actionIssue {f : ForeignKey} {clause : String} {declared : FkAction}
    {severity : Option Severity} (hi : i ∈ actionIssue id t f clause declared severity) :
    IsLate i := by
  cases severity with
  | none => cases hi
  | some severity =>
    rw [List.mem_singleton.1 hi]
    exact ⟨.inr (.inl rfl), fun _ _ => nofun⟩

theorem isLate_planKey {f : ForeignKey} (hi : i ∈ (planKey m id t f).2) : IsLate i := by
  unfold planKey at hi
  split at hi
  · cases hi
  split at hi
  · rw [List.mem_singleton.1 hi]
    exact ⟨.inr (.inl rfl), fun _ _ => nofun⟩
  · rcases List.mem_append.1 hi with hi | hi
    · rcases List.mem_append.1 hi with hi | hi
      · exact isLate_mismatchIssues hi
      · exact isLate_actionIssue hi
    · exact isLate_actionIssue hi

theorem isLate_keyFindings (hi : i ∈ keyFindings m) : IsLate i := by
  obtain ⟨e, -, hi⟩ := List.mem_flatMap.1 hi
  rw [mapTableForeignKeys_issues] at hi
  obtain ⟨f, -, hi⟩ := List.mem_flatMap.1 hi
  exact isLate_planKey hi

/-- What a mapping says and no later phase does is said by the first one, behind what other stages
have said. -/
theorem filter_map (h : m.Sound) (synthetic : String) {q : Issue → Bool}
    (hlate : ∀ i, IsLate i → q i = false) : (map synthetic m).issues.filter q
      = (m.clearIssues .mapper).issues.filter q ++ (placed synthetic m).issues.filter q := by
  have hindexes : (indexedTables synthetic m).2.filter q = [] :=
    List.filter_eq_nil_iff.2 fun i hi => by simp [hlate i (isLate_indexedTables hi)]
  have hkeys : (keyFindings (indexed synthetic m)).filter q = [] :=
    List.filter_eq_nil_iff.2 fun i hi => by simp [hlate i (isLate_keyFindings hi)]
  rw [map_eq h synthetic]
  dsimp only
  rw [List.filter_append, List.filter_append, List.filter_append, hindexes, hkeys, List.append_nil,
    List.append_nil]

/-! ## Repeated mappings -/

/-- What any number of mappings makes of a model: from the second one on, the findings that are spent
are gone. -/
theorem foldl_map (h : m.Sound) (synthetic : String) (names : List String) :
    names.foldl (fun m synthetic => map synthetic m) (map synthetic m) = { map synthetic m with
      issues := if names = [] then (map synthetic m).issues
        else unspent (map synthetic m).issues } := by
  induction names generalizing m synthetic with
  | nil => rfl
  | cons s names ih =>
    rw [List.foldl_cons, ih (sound_map h synthetic) s, map_again h synthetic s]
    simp only [unspent_unspent, ite_self, reduceCtorEq, if_false]

end Findings

end Mapper

end SchemaBridge
