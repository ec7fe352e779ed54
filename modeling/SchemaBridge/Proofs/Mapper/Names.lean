/-
# What a mapping does to names and keys

For the validity of a mapped model only three things of it matter beyond soundness: the names of
its tables, the names of its columns, and whether an index is empty.  A mapping keeps the first, adds
the name of a synthetic key to the second, and does not change the third.

## Key statements

* `place_of_key`, `place_of_no_key`: what the first phase makes of a table that readers describe.
* `mappedTo_map`: these three for every table of a mapped model.
* `validate_map_eq_ok_iff`: when the mapping of a sound model is valid.
-/
import SchemaBridge.Proofs.Assembly.Operations
import SchemaBridge.Proofs.Mapper.Soundness

namespace SchemaBridge.Mapper

/-- What validity sees of a table and of what mapping makes of it. -/
structure MappedTo (synthetic : String) (t t' : Table) : Prop where
  name : t'.name = t.name
  columnNames : t'.columns.map (·.name)
    = (if t.primaryKey = [] then [syntheticName t synthetic] else []) ++ t.columns.map (·.name)
  emptyIndex : (∃ i ∈ t'.indexes, i.keys = []) ↔ ∃ i ∈ t.indexes, i.keys = []

/-- A mapping leaves the names of columns. -/
theorem withColumns_names (source : SourceDialect) (t : Table) :
    (withColumns source t).columns.map (·.name) = t.columns.map (·.name) := by
  simp [withColumns]

/-- A column is found by a name if one has it up to case. -/
theorem isSome_columnByName? (t : Table) (n : String) :
    (t.columnByName? n).isSome
      = (t.columns.map (·.name)).any fun x => Text.sameFolded x n := by
  unfold Table.columnByName?
  rw [List.isSome_find?, List.any_map]
  rfl

/-- The name of a synthetic key depends on the names of the columns alone. -/
theorem syntheticName_congr {t t' : Table}
    (h : t'.columns.map (·.name) = t.columns.map (·.name)) (base : String) :
    syntheticName t' base = syntheticName t base := by
  have hlength : t'.columns.length = t.columns.length := by
    have hl := congrArg List.length h
    rwa [List.length_map, List.length_map] at hl
  unfold syntheticName
  rw [hlength, funext (isSome_columnByName? t'), funext (isSome_columnByName? t), h]

/-- The name of a synthetic key is that of no column, up to the case of ASCII letters. -/
theorem folded_ne_syntheticName (t : Table) (base : String) :
    ∀ c ∈ t.columns, Text.folded c.name ≠ Text.folded (syntheticName t base) := by
  intro c hc
  have hlength : t.columns.length = (t.columns.map (·.name)).length := by
    rw [List.length_map]
  unfold syntheticName
  rw [hlength]
  exact Text.folded_ne_freshName (isSome_columnByName? t) base 1 c.name (List.mem_map_of_mem hc)

/-! ## Tables that readers describe -/

section Plain

variable {t : Table}

/-- A mapping of columns makes none synthetic. -/
theorem notSynthetic_withColumns (source : SourceDialect) (h : t.IsPlain) :
    ∀ c ∈ (withColumns source t).columns, c.synthetic = false := by
  intro c hc
  obtain ⟨c', hc', rfl⟩ := List.mem_map.1 hc
  rw [mapColumn_synthetic, h.notSynthetic c' hc']

/-- So a plain table has no synthetic key yet. -/
theorem syntheticKey?_withColumns (source : SourceDialect) (h : t.IsPlain) :
    (withColumns source t).syntheticKey? = none :=
  List.find?_eq_none.2 fun c hc => by simp [notSynthetic_withColumns source h c hc]

/-- A table that has a key keeps it. -/
theorem place_of_key (source : SourceDialect) (d : TargetDialect) (synthetic : String) (n : Nat)
    (id : TableId) (h : t.IsPlain) (hkey : t.primaryKey ≠ []) :
    place source d synthetic n id t = ⟨withColumns source t, n,
      t.columns.flatMap (columnIssues source d id t.name) ++ keyIssues d id (withColumns source t)⟩ := by
  have hhas : (withColumns source t).hasPrimaryKey = true := by
    simpa [Table.hasPrimaryKey, withColumns] using hkey
  unfold place placeKey
  simp only [syntheticKey?_withColumns source h, hhas, if_true]

/-- A table that has none gets a synthetic one. -/
theorem place_of_no_key (source : SourceDialect) (d : TargetDialect) (synthetic : String) (n : Nat)
    (id : TableId) (h : t.IsPlain) (hkey : t.primaryKey = []) :
    place source d synthetic n id t = ⟨withSyntheticKey d synthetic n (withColumns source t), n + 1,
      t.columns.flatMap (columnIssues source d id t.name)
        ++ [syntheticIssue id t.name (syntheticName t synthetic)]⟩ := by
  have hhas : (withColumns source t).hasPrimaryKey = false := by
    simp [Table.hasPrimaryKey, withColumns, hkey]
  have hname : syntheticName (withColumns source t) synthetic = syntheticName t synthetic :=
    syntheticName_congr (withColumns_names source t) synthetic
  unfold place placeKey
  simp only [syntheticKey?_withColumns source h, hhas, hname]
  rfl

/-- The first phase, of a table that has no synthetic key yet. -/
theorem mappedTo_place (source : SourceDialect) (d : TargetDialect) (synthetic : String) (n : Nat)
    (id : TableId) (h : t.IsPlain) :
    MappedTo synthetic t (place source d synthetic n id t).table := by
  by_cases hk : t.primaryKey = []
  · rw [place_of_no_key source d synthetic n id h hk]
    refine ⟨rfl, ?_, Iff.rfl⟩
    simp only [if_pos hk, withSyntheticKey, List.map_cons, List.singleton_append]
    rw [withColumns_names, syntheticName_congr (withColumns_names source t)]
    rfl
  · rw [place_of_key source d synthetic n id h hk]
    refine ⟨rfl, ?_, Iff.rfl⟩
    rw [if_neg hk, List.nil_append, withColumns_names]

end Plain

/-! ## Mapped models -/

/-- Each table is mapped with its names. -/
theorem mappedTo_placeAll (source : SourceDialect) (d : TargetDialect) (synthetic : String)
    (n : Nat) {l : KeyedTables} (h : ∀ e ∈ l, e.2.IsPlain) :
    List.Forall₂ (fun e e' => MappedTo synthetic e.2 e'.2) l
      (placeAll source d synthetic n l).tables := by
  induction l generalizing n with
  | nil => exact List.Forall₂.nil
  | cons e l ih =>
    exact List.Forall₂.cons
      (mappedTo_place source d synthetic n e.1 (h e List.mem_cons_self))
      (ih _ fun e he => h e (List.mem_cons_of_mem _ he))

/-- Two tables that agree in their names and on whether an index is empty. -/
structure SameNames (t t' : Table) : Prop where
  name : t'.name = t.name
  columns : t'.columns = t.columns
  emptyIndex : (∃ i ∈ t'.indexes, i.keys = []) ↔ ∃ i ∈ t.indexes, i.keys = []

theorem MappedTo.trans {synthetic : String} {t t' t'' : Table} (h : MappedTo synthetic t t')
    (h' : SameNames t' t'') : MappedTo synthetic t t'' :=
  ⟨h'.name.trans h.name, by rw [h'.columns]; exact h.columnNames, h'.emptyIndex.trans h.emptyIndex⟩

/-- An index without a column is never dropped. -/
theorem sameNames_keepsIndexes {e e' : TableId × Table} (h : KeepsIndexes e e') :
    SameNames e.2 e'.2 := by
  obtain ⟨-, kept, he, hkept⟩ := h
  rw [he]
  refine ⟨rfl, rfl, ?_⟩
  constructor
  · rintro ⟨i, hi, hk⟩
    have hm : indexCore i ∈ (keyable e.2).map indexCore := hkept ▸ List.mem_map_of_mem hi
    obtain ⟨j, hj, hc⟩ := List.mem_map.1 hm
    exact ⟨j, List.mem_of_mem_filter hj, (congrArg (·.2.1) hc).trans hk⟩
  · rintro ⟨i, hi, hk⟩
    have hkeep : i ∈ keyable e.2 := by
      refine List.mem_filter.2 ⟨hi, ?_⟩
      unfold unkeyableColumn?
      rw [hk]
      rfl
    have hm : indexCore i ∈ kept.map indexCore := hkept ▸ List.mem_map_of_mem hkeep
    obtain ⟨j, hj, hc⟩ := List.mem_map.1 hm
    exact ⟨j, hj, (congrArg (·.2.1) hc).trans hk⟩

/-- What keeps names may follow. -/
theorem mappedTo_sameNames {synthetic : String} {l l' l'' : KeyedTables}
    (h : List.Forall₂ (fun e e' => MappedTo synthetic e.2 e'.2) l l')
    (h' : List.Forall₂ (fun e e' => SameNames e.2 e'.2) l' l'') :
    List.Forall₂ (fun e e' => MappedTo synthetic e.2 e'.2) l l'' := by
  induction h generalizing l'' with
  | nil =>
    cases h'
    exact List.Forall₂.nil
  | cons hab _ ih =>
    cases h' with
    | cons hbc h' => exact List.Forall₂.cons (hab.trans hbc) (ih h')

/-- Every table of a mapped model beside the table it was. -/
theorem mappedTo_map {m : Model} (h : m.Sound) (hplain : ∀ e ∈ m.tables, e.2.IsPlain)
    (synthetic : String) :
    List.Forall₂ (fun e e' => MappedTo synthetic e.2 e'.2) m.tables (map synthetic m).tables := by
  have hfirst := foldl_mapTable synthetic (m.clearIssues .mapper) (h.clearIssues .mapper).nodup_keys
  rw [Model.clearIssues_tables] at hfirst
  -- the first phase adds columns; the other two change indexes and foreign keys alone
  set m₁ := (m.tables.map (·.1)).foldl (mapTable synthetic) (m.clearIssues .mapper) with hm₁
  have hplaced : List.Forall₂ (fun e e' => MappedTo synthetic e.2 e'.2) m.tables m₁.tables := by
    rw [hfirst]
    exact mappedTo_placeAll _ _ synthetic _ hplain
  have hindexes : List.Forall₂ (fun e e' => SameNames e.2 e'.2) m₁.tables (mapIndexes m₁).tables :=
    (mapTableIndexes_tables _ m₁.tables).imp fun _ _ h => sameNames_keepsIndexes h
  have hkeys : List.Forall₂ (fun e e' => SameNames e.2 e'.2) (mapIndexes m₁).tables
      (mapForeignKeys (mapIndexes m₁)).tables := by
    rw [mapForeignKeys_tables]
    exact forall₂_map fun e _ => ⟨rfl, rfl, Iff.rfl⟩
  exact mappedTo_sameNames (mappedTo_sameNames hplaced hindexes) hkeys

/-! ## Validity -/

/-- What the validity of a mapped model asks of the model it comes from: no two tables of one name,
no empty index, and for a synthetic key a name that no column has. -/
structure IsClear (synthetic : String) (m : Model) : Prop where
  tableNames : (m.tables.map fun e => Text.lowerText e.2.name).Nodup
  indexKeys : ∀ e ∈ m.tables, ∀ i ∈ e.2.indexes, i.keys ≠ []
  syntheticNames : ∀ e ∈ m.tables, e.2.primaryKey = [] →
    Text.lowerText (syntheticName e.2 synthetic) ∉ e.2.columns.map fun c => Text.lowerText c.name

/-- The names of columns stay different unless that of a synthetic key is taken. -/
theorem MappedTo.nodup_iff {synthetic : String} {t t' : Table} (h : MappedTo synthetic t t')
    (hplain : t.IsPlain) : (t'.columns.map fun c => Text.lowerText c.name).Nodup
      ↔ (t.primaryKey = [] → Text.lowerText (syntheticName t synthetic)
          ∉ t.columns.map fun c => Text.lowerText c.name) := by
  have hnames := congrArg (List.map Text.lowerText) h.columnNames
  rw [List.map_map, List.map_append, List.map_map] at hnames
  have hnames' : (t'.columns.map fun c => Text.lowerText c.name)
      = (if t.primaryKey = [] then [syntheticName t synthetic] else []).map Text.lowerText
        ++ t.columns.map fun c => Text.lowerText c.name := hnames
  rw [hnames']
  by_cases hk : t.primaryKey = []
  · simp only [hk, if_true, List.map_cons, List.map_nil, List.singleton_append, List.nodup_cons,
      forall_const]
    exact and_iff_left hplain.names
  · simp only [hk, if_false, List.map_nil, List.nil_append, false_implies, iff_true]
    exact hplain.names

/-- What is true on one side of related lists is true on the other. -/
theorem forall_of_forall₂ {α : Type} {R : α → α → Prop} {P Q : α → Prop} {l l' : List α}
    (hr : List.Forall₂ R l l') (h : ∀ a ∈ l, ∀ b, R a b → (P b ↔ Q a)) :
    (∀ b ∈ l', P b) ↔ ∀ a ∈ l, Q a := by
  induction hr with
  | nil => simp
  | cons hab _ ih =>
    rw [List.forall_mem_cons, List.forall_mem_cons, h _ List.mem_cons_self _ hab,
      ih fun a ha => h a (List.mem_cons_of_mem _ ha)]

/-- The mapping of a sound model whose tables are as readers describe them is valid exactly when the
model is clear. -/
theorem validate_map_eq_ok_iff {m : Model} (h : m.Sound) (hplain : ∀ e ∈ m.tables, e.2.IsPlain)
    (synthetic : String) : (map synthetic m).validate = .ok () ↔ IsClear synthetic m := by
  have hmapped := mappedTo_map h hplain synthetic
  have hnames : ((map synthetic m).tables.map fun e => Text.lowerText e.2.name)
      = m.tables.map fun e => Text.lowerText e.2.name := by
    generalize (map synthetic m).tables = l' at hmapped
    generalize m.tables = l at hmapped
    induction hmapped with
    | nil => rfl
    | cons hab _ ih => rw [List.map_cons, List.map_cons, ih, hab.name]
  have htables := forall_of_forall₂
    (P := fun e => (e.2.columns.map fun c => Text.lowerText c.name).Nodup
      ∧ ∀ i ∈ e.2.indexes, i.keys ≠ [])
    (Q := fun e => (e.2.primaryKey = [] → Text.lowerText (syntheticName e.2 synthetic)
        ∉ e.2.columns.map fun c => Text.lowerText c.name) ∧ ∀ i ∈ e.2.indexes, i.keys ≠ [])
    hmapped fun e he e' hr => by
      -- an index without keys has no column to be dropped for, so it stays
      have hempty := hr.emptyIndex
      have hkeys : (∀ i ∈ e'.2.indexes, i.keys ≠ []) ↔ ∀ i ∈ e.2.indexes, i.keys ≠ [] := by
        constructor
        · intro hall i hi hk
          obtain ⟨j, hj, hkj⟩ := hempty.2 ⟨i, hi, hk⟩
          exact hall j hj hkj
        · intro hall i hi hk
          obtain ⟨j, hj, hkj⟩ := hempty.1 ⟨i, hi, hk⟩
          exact hall j hj hkj
      rw [hr.nodup_iff (hplain e he), hkeys]
  rw [(sound_map h synthetic).validate_eq_ok_iff, hnames, htables]
  constructor
  · rintro ⟨hn, hall⟩
    exact ⟨hn, fun e he => (hall e he).2, fun e he => (hall e he).1⟩
  · intro hc
    exact ⟨hc.tableNames, fun e he => ⟨hc.syntheticNames e he, hc.indexKeys e he⟩⟩

end SchemaBridge.Mapper
