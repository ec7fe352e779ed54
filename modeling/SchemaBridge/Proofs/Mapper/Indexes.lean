/-
# Indexes of a mapped model

What the second phase makes of the indexes and says of them is read off its plans.  The first phase,
which comes before, gives the columns their types and leaves indexes alone; the third one changes
foreign keys only.  So the plans of a model tell which of its indexes the mapped model has, under which
names, and what the mapper says of them.

## Key statements

* `sharedNames_map`: the names in the namespace that tables and indexes share.
* `filter_isIndexFinding_map`: among the findings of a mapping, those of the second phase.
* `map_indexes`: what a mapping does with the indexes of a model.
-/
import SchemaBridge.Proofs.Mapper.ForeignKeys

namespace SchemaBridge

/-- Whether none of the columns of an index is, in the target, an array or JSON. -/
def Table.isIndexable (t : Table) (i : Index) : Bool :=
  i.keys.all fun k => (t.targetType? k.column).all fun type => !type.array && type.kind ≠ .json

namespace Mapper

/-- The names in the namespace that tables and indexes share. -/
def sharedNames (m : Model) : List String :=
  foldedNames m.tables ++ m.tables.flatMap fun e => foldedIndexNames e.2.indexes

/-- Whether a finding about a table is about an index it had. -/
def tellsOfIndex (i : Issue) : Bool :=
  i.category = .unsupportedConstraint && "Index ".toList.isPrefixOf i.detail.toList

/-- An index that remains: as it was, with one finding if it has another name and none if it has
not. -/
structure IsMappedIndex (m' : Model) (id : TableId) (table : String) (i i' : Index) : Prop where
  core : indexCore i' = indexCore i
  findings : findingsAbout m' (.index id i.id)
    = if i'.name = i.name then [] else [renamedIndexIssue id table i i'.name]

/-- What a mapping makes of the indexes of a table: `t` is the table before and `t'` the one under
the same identifier in the mapped model. -/
structure IndexesMapped (m' : Model) (id : TableId) (t t' : Table) : Prop where
  /-- An index remains exactly when all of its columns can be indexed. -/
  remains : ∀ i ∈ t.indexes, i.id ∈ t'.indexes.map (·.id) ↔ t'.isIndexable i = true
  /-- Those that remain are in their order. -/
  kept : List.Forall₂ (IsMappedIndex m' id t'.name) (t.indexes.filter t'.isIndexable) t'.indexes
  /-- Each one that is dropped has one finding, which names it and the first column at fault. -/
  removed : List.Forall₂
    (fun i f => ∃ c, unkeyableColumn? t'.columns i = some c
      ∧ f = droppedIndexIssue id t'.name i c)
    (t.indexes.filter fun i => !t'.isIndexable i)
    ((findingsAbout m' (.table id)).filter tellsOfIndex)

/-! ## Findings -/

section Findings

variable {id : TableId} {table : String} {p : Index × IndexPlan}
  {plans : List (Index × IndexPlan)}

/-- Whether a finding is one of the second phase. -/
def isIndexFinding (i : Issue) : Bool :=
  i.stage = .mapper && match i.target with
    | .index _ _ => true
    | .table _ => tellsOfIndex i
    | _ => false

/-- What is said of a table may be about an index. -/
theorem isIndexFinding_of_table {i : Issue} (hs : i.stage = .mapper) (ht : i.target = .table id) :
    isIndexFinding i = tellsOfIndex i := by
  simp [isIndexFinding, hs, ht]

/-- That an index is dropped tells of it. -/
theorem tellsOfIndex_droppedIndexIssue (id : TableId) (table : String) (i : Index) (c : Column) :
    tellsOfIndex (droppedIndexIssue id table i c) = true := by
  simp [tellsOfIndex, droppedIndexIssue, issue, Issue.raise, String.toList_append]

/-- That a foreign key is dropped does not. -/
theorem tellsOfIndex_droppedKeyIssue (id : TableId) (t parent : Table) (f : ForeignKey) :
    tellsOfIndex (droppedKeyIssue id t parent f) = false := by
  simp [tellsOfIndex, droppedKeyIssue, issue, Issue.raise, String.toList_append,
    List.isPrefixOf_cons_cons]

/-- What plans say is about indexes. -/
theorem isIndexFinding_planFindings : ∀ f ∈ planFindings id table p, isIndexFinding f = true := by
  intro f hf
  rcases mem_planFindings hf with ⟨c, -, rfl⟩ | ⟨name, -, rfl⟩
  · rw [isIndexFinding_of_table rfl rfl, tellsOfIndex_droppedIndexIssue]
  · rfl

/-- What the first phase says is no finding of the second one. -/
theorem isIndexFinding_of_lasting {i : Issue} (hfirm : IsFirm i.target) (hs : i.stage = .mapper)
    (hspent : isSpent i = false) : isIndexFinding i = false := by
  cases ht : i.target with
  | index _ _ =>
    rw [ht] at hfirm
    cases hfirm
  | table id => simp [isIndexFinding, ht, tellsOfIndex, category_ne_of_lasting hs hspent ht]
  | _ => simp [isIndexFinding, ht]

/-- What the third phase says is about foreign keys. -/
theorem isIndexFinding_keyFindings (m : Model) : ∀ i ∈ keyFindings m, isIndexFinding i = false := by
  intro i hi
  obtain ⟨e, -, hi⟩ := List.mem_flatMap.1 hi
  rw [mapTableForeignKeys_issues] at hi
  obtain ⟨f, -, hi⟩ := List.mem_flatMap.1 hi
  rcases mem_planKey_issues hi with ⟨parent, rfl⟩ | ⟨-, ht⟩
  · rw [isIndexFinding_of_table rfl rfl, tellsOfIndex_droppedKeyIssue]
  · simp [isIndexFinding, ht]

/-- Among the findings of a mapping, those of the second phase. -/
theorem filter_isIndexFinding_map {m : Model} (h : m.WellFormed) (synthetic : String) :
    (map synthetic m).issues.filter isIndexFinding = (indexedTables synthetic m).2 := by
  have hother : ((m.clearIssues .mapper).issues).filter isIndexFinding = [] := by
    refine List.filter_eq_nil_iff.2 fun i hi => ?_
    have hs : i.stage ≠ .mapper := by simpa using (List.mem_filter.1 hi).2
    simp [isIndexFinding, hs]
  have hplaced : (placed synthetic m).issues.filter isIndexFinding = [] := by
    refine List.filter_eq_nil_iff.2 fun i hi => ?_
    obtain ⟨hs, hspent⟩ := placeAll_lasting _ _ _ _ _ i hi
    simp [isIndexFinding_of_lasting (isFirm_placeAll _ _ _ _ _ i hi) hs hspent]
  have hkeys : (keyFindings (indexed synthetic m)).filter isIndexFinding = [] :=
    List.filter_eq_nil_iff.2 fun i hi => by simp [isIndexFinding_keyFindings _ i hi]
  have hindexes : (indexedTables synthetic m).2.filter isIndexFinding
      = (indexedTables synthetic m).2 := by
    refine List.filter_eq_self.2 fun i hi => ?_
    obtain ⟨e, -, p, -, hi⟩ := exists_of_mem_mapTableIndexes hi
    exact isIndexFinding_planFindings i hi
  rw [map_eq_of_wellFormed h]
  dsimp only
  rw [List.filter_append, hkeys, List.append_nil, indexed_eq h.nodup_keys]
  dsimp only
  rw [List.filter_append, List.filter_append, hother, hplaced, hindexes]
  rfl

/-- The findings about an index, or about a table and an index it had, are those of the second
phase. -/
theorem findingsAbout_index {m : Model} (h : m.WellFormed) (synthetic : String) (id : TableId)
    (i : IndexId) : findingsAbout (map synthetic m) (.index id i)
      = (indexedTables synthetic m).2.filter fun f => f.target = .index id i := by
  rw [← filter_isIndexFinding_map h, ← filter_findingsAbout (q := fun _ => true), List.filter_true]
  intro f ht
  rw [isIndexFinding, ht]

/-- What is said of the indexes of a table. -/
theorem findingsAbout_table_indexes {m : Model} (h : m.WellFormed) (synthetic : String)
    (id : TableId) : (findingsAbout (map synthetic m) (.table id)).filter tellsOfIndex
      = (indexedTables synthetic m).2.filter fun f => f.target = .table id := by
  rw [← filter_isIndexFinding_map h]
  refine filter_findingsAbout fun f ht => ?_
  rw [isIndexFinding, ht]

/-! ### Findings of a table -/

/-- What is said of an index that is kept. -/
theorem filter_planFindings_index (hids : (plans.map (·.1.id)).Nodup) {i : Index} {name : String}
    (hp : (i, .keep name) ∈ plans) : (plans.flatMap (planFindings id table)).filter
        (fun f => f.target = .index id i.id)
      = if name = i.name then [] else [renamedIndexIssue id table i name] := by
  rw [filter_flatMap_of_key hids hp]
  · refine List.filter_eq_self.2 fun f hf => ?_
    rcases mem_planFindings hf with ⟨c, hc, -⟩ | ⟨name', -, rfl⟩
    · cases hc
    · exact decide_eq_true rfl
  · intro q _ hne
    refine List.filter_eq_nil_iff.2 fun f hf => ?_
    rcases mem_planFindings hf with ⟨c, -, rfl⟩ | ⟨name', -, rfl⟩
    · simp [droppedIndexIssue, issue, Issue.raise]
    · simpa [renamedIndexIssue, issue, Issue.raise] using hne

/-- What is said of those that are dropped. -/
theorem forall₂_dropped (id : TableId) (table : String) {columns : List Column}
    (hcolumn : ∀ p ∈ plans, p.2.column? = unkeyableColumn? columns p.1) :
    List.Forall₂ (fun p f => ∃ c, unkeyableColumn? columns p.1 = some c
        ∧ f = droppedIndexIssue id table p.1 c)
      (plans.filter fun p => p.2.column?.isSome)
      ((plans.flatMap (planFindings id table)).filter fun f => f.target = .table id) := by
  rw [List.filter_flatMap]
  refine forall₂_filter_flatMap ?_ ?_
  · intro p _ hkeep
    refine List.filter_eq_nil_iff.2 fun f hf => ?_
    rcases mem_planFindings hf with ⟨c, hc, -⟩ | ⟨name, -, rfl⟩
    · rw [hc] at hkeep
      cases hkeep
    · simp [renamedIndexIssue, issue, Issue.raise]
  · rintro ⟨i, plan⟩ hp hdrop
    cases plan with
    | drop c => exact ⟨_, List.filter_cons_of_pos (decide_eq_true rfl), c, (hcolumn _ hp).symm, rfl⟩
    | keep name => cases hdrop

/-- Those that are kept, beside what they were. -/
theorem forall₂_keptIndexes {R : Index → Index → Prop}
    (h : ∀ i name, (i, IndexPlan.keep name) ∈ plans → R i { i with name }) :
    List.Forall₂ (fun p => R p.1) (plans.filter fun p => p.2.column?.isNone) (keptIndexes plans) := by
  unfold keptIndexes
  rw [List.filterMap_eq_flatMap_toList]
  refine forall₂_filter_flatMap ?_ ?_
  · rintro ⟨i, plan⟩ _ hdrop
    cases plan with
    | drop c => rfl
    | keep name => cases hdrop
  · rintro ⟨i, plan⟩ hp hkeep
    cases plan with
    | drop c => cases hkeep
    | keep name => exact ⟨_, rfl, h i name hp⟩

end Findings

/-! ## Mapped models -/

/-- An index can be kept when no column of it stands in the way. -/
theorem isIndexable_eq (t : Table) (i : Index) :
    t.isIndexable i = (unkeyableColumn? t.columns i).isNone := by
  have hpart (k : KeyPart) : ((t.targetType? k.column).all fun type =>
        !type.array && type.kind ≠ .json) = true
      ↔ (t.columns.find? (·.id = k.column)).filter isUnkeyable = none := by
    unfold Table.targetType? Table.column?
    cases t.columns.find? (·.id = k.column) with
    | none => simp
    | some c =>
      cases hc : c.targetType with
      | none => simp [hc, isUnkeyable]
      | some type => simp [hc, isUnkeyable, TargetType.isKeyable]
  rw [Bool.eq_iff_iff, Option.isNone_iff_eq_none, unkeyableColumn?, List.findSome?_eq_none_iff,
    Table.isIndexable, List.all_eq_true]
  exact forall₂_congr fun k _ => hpart k

/-- Names stay when tables are placed. -/
theorem foldedNames_placeAll (source : SourceDialect) (d : TargetDialect) (synthetic : String)
    (n : Nat) (l : KeyedTables) :
    foldedNames (placeAll source d synthetic n l).tables = foldedNames l := by
  induction l generalizing n with
  | nil => rfl
  | cons e l ih =>
    have hname := placeKey_name d synthetic n e.1 (withColumns source e.2)
    exact congrArg₂ List.cons (congrArg Text.lowerText hname) (ih _)

/-- The plans for the indexes of a model. -/
def modelPlans (synthetic : String) (m : Model) :
    List ((TableId × Table) × List (Index × IndexPlan)) :=
  plannedTables (foldedNames (placed synthetic m).tables) (placed synthetic m).tables

section Mapped

variable {m : Model} {synthetic : String}

/-- The tables with their plans carried out. -/
theorem indexed_tables (h : m.WellFormed) (synthetic : String) :
    (indexed synthetic m).tables = (modelPlans synthetic m).map withPlans := by
  rw [indexed_eq h.nodup_keys]
  exact congrArg Prod.fst (mapTableIndexes_eq _ _)

/-- What all plans say. -/
theorem indexedTables_findings (synthetic : String) (m : Model) :
    (indexedTables synthetic m).2 = (modelPlans synthetic m).flatMap tableFindings :=
  congrArg Prod.snd (mapTableIndexes_eq _ _)

/-- Every table has plans for the indexes it was given. -/
theorem exists_modelPlans (h : m.WellFormed) (synthetic : String) {id : TableId} {t : Table}
    (ht : (id, t) ∈ m.tables) : ∃ u used, u.indexes = t.indexes
      ∧ ((id, u), planIndexes u used u.indexes) ∈ modelPlans synthetic m := by
  have hplaced := indexes_placeAll m.source m.target synthetic m.nextId m.tables
  have hback : List.Forall₂ (fun e e' : TableId × Table => e'.1 = e.1 ∧ e.2.indexes = e'.2.indexes)
      (placed synthetic m).tables m.tables :=
    (hplaced.imp fun _ _ he => ⟨he.1.symm, he.2⟩).flip
  obtain ⟨u, hu, hsame⟩ := exists_tableIn_of_forall₂ (R := fun u t => u.indexes = t.indexes) hback
    (tableIn_of_mem h.nodup_keys ht)
  obtain ⟨used, hplans⟩ := exists_plans (mem_of_tableIn hu)
  exact ⟨u, used, hsame, hplans⟩

/-- No table is planned for twice. -/
theorem nodup_modelPlans (h : m.WellFormed) (synthetic : String) :
    ((modelPlans synthetic m).map (·.1.1)).Nodup := by
  have hids := (nodup_indexed h synthetic).1
  rwa [indexed_tables h, List.map_map] at hids

/-- The findings of the second phase about a table and its indexes are made for that table. -/
theorem filter_indexedTables (h : m.WellFormed) {id : TableId} {u : Table}
    {plans : List (Index × IndexPlan)} (hu : ((id, u), plans) ∈ modelPlans synthetic m)
    {target : IssueTarget} (htarget : target.table? = some id) :
    (indexedTables synthetic m).2.filter (fun f => f.target = target)
      = (plans.flatMap (planFindings id u.name)).filter fun f => f.target = target := by
  rw [indexedTables_findings, filter_flatMap_of_key (nodup_modelPlans h synthetic) hu]
  · rfl
  · intro e _ hne
    refine List.filter_eq_nil_iff.2 fun f hf => ?_
    obtain ⟨p, -, hf⟩ := List.mem_flatMap.1 hf
    have hother := table?_of_mem_planFindings hf
    simp only [decide_eq_true_eq]
    rintro rfl
    exact hne (Option.some.inj (hother.symm.trans htarget))

/-- The names of the tables and indexes of a mapped model are in use one after another. -/
theorem sharedNames_map (h : m.WellFormed) (synthetic : String) :
    sharedNames (map synthetic m) = foldedNames (placed synthetic m).tables
      ++ (modelPlans synthetic m).flatMap fun p => foldedIndexNames (keptIndexes p.2) := by
  have hnames : (modelPlans synthetic m).map (·.1) = (placed synthetic m).tables :=
    map_fst_plannedTables _ _
  rw [map_eq_of_wellFormed h]
  unfold sharedNames
  dsimp only
  rw [indexed_tables h, rekeyed, List.map_map]
  conv_rhs => rw [← hnames]
  unfold foldedNames
  rw [List.map_map, List.map_map, List.flatMap_map]
  rfl

/-- A choice among first components. -/
theorem filter_eq_map_fst {α β : Type} {l : List α} {ps : List (α × β)} (hfst : ps.map (·.1) = l)
    {p : α → Bool} {q : α × β → Bool} (h : ∀ x ∈ ps, p x.1 = q x) :
    l.filter p = (ps.filter q).map (·.1) := by
  rw [← hfst, List.filter_map]
  exact congrArg _ (List.filter_congr h)

/-- Indexes keep their identifiers. -/
theorem map_id_of_mapped {m' : Model} {id : TableId} {table : String} {l l' : List Index}
    (h : List.Forall₂ (IsMappedIndex m' id table) l l') : l'.map (·.id) = l.map (·.id) := by
  induction h with
  | nil => rfl
  | cons hi _ ih =>
    have hid := congrArg Prod.fst hi.core
    exact congrArg₂ List.cons hid ih

/-- What becomes of the indexes of a table, from the plans for them. -/
theorem indexesMapped_of_plans (h : m.WellFormed) {id : TableId} {t u : Table} {used : List String}
    (ht : (id, t) ∈ m.tables)
    (hu : ((id, u), planIndexes u used u.indexes) ∈ modelPlans synthetic m)
    (hsame : u.indexes = t.indexes) {t' : Table} (hname : t'.name = u.name)
    (hcolumns : t'.columns = u.columns)
    (hindexes : t'.indexes = keptIndexes (planIndexes u used u.indexes)) :
    IndexesMapped (map synthetic m) id t t' := by
  rw [hsame] at hu hindexes
  have hids : (t.indexes.map (·.id)).Nodup :=
    t.nodup_indexes ((List.nodup_flatMap.1 h.distinct).1 _ ht)
  have hfst := map_fst_planIndexes u used t.indexes
  have hcolumn : ∀ p ∈ planIndexes u used t.indexes, p.2.column? = unkeyableColumn? t'.columns p.1 :=
    fun p hp => hcolumns ▸ column?_of_mem_planIndexes hp
  -- from here on the plans are any list that says this of the indexes
  generalize planIndexes u used t.indexes = plans at hu hindexes hfst hcolumn
  have hkept : t.indexes.filter t'.isIndexable
      = (plans.filter fun p => p.2.column?.isNone).map (·.1) := by
    refine filter_eq_map_fst hfst fun p hp => ?_
    rw [isIndexable_eq, hcolumn p hp]
  have hdropped : (t.indexes.filter fun i => !t'.isIndexable i)
      = (plans.filter fun p => p.2.column?.isSome).map (·.1) := by
    refine filter_eq_map_fst hfst fun p hp => ?_
    rw [isIndexable_eq, hcolumn p hp, Option.not_isNone]
  have hmapped : List.Forall₂ (IsMappedIndex (map synthetic m) id t'.name)
      (t.indexes.filter t'.isIndexable) t'.indexes := by
    rw [hkept, hindexes, List.forall₂_map_left_iff]
    refine forall₂_keptIndexes (R := IsMappedIndex (map synthetic m) id t'.name)
      fun i name hp => ⟨rfl, ?_⟩
    have hplans : (plans.map (·.1.id)).Nodup := by
      rwa [← hfst, List.map_map] at hids
    rw [findingsAbout_index h, filter_indexedTables h hu rfl,
      filter_planFindings_index hplans hp, hname]
  constructor
  case remains =>
    intro i hi
    rw [map_id_of_mapped hmapped]
    exact mem_map_filter_iff hids hi
  case kept => exact hmapped
  case removed =>
    rw [findingsAbout_table_indexes h, filter_indexedTables h hu rfl, hdropped,
      List.forall₂_map_left_iff, hname]
    exact forall₂_dropped id u.name hcolumn

end Mapped

/-- **Indexes of a mapped model.**  No two tables or indexes of a mapped model have the same name in
lower case.  In every table exactly those indexes remain none of whose columns is an array or JSON.
Of each one that is dropped the mapper says so, once.  Those that remain are in their order, each
with its identifier, its columns and their directions, and its uniqueness; the mapper speaks of one
exactly when it has another name, and then once. -/
theorem map_indexes {m : Model} (h : m.validate = .ok ()) (synthetic : String) :
    (sharedNames (map synthetic m)).Nodup
      ∧ ∀ e ∈ m.tables, ∃ t', (map synthetic m).table? e.1 = some t'
        ∧ IndexesMapped (map synthetic m) e.1 e.2 t' := by
  have hw := (Model.validate_eq_ok_iff m).1 h
  constructor
  · have htables : (foldedNames (placed synthetic m).tables).Nodup := by
      rw [placed, foldedNames_placeAll]
      exact hw.tableNames
    rw [sharedNames_map hw]
    exact List.perm_append_comm.nodup_iff.1 (nodup_plannedTables _ htables)
  · rintro ⟨id, t⟩ ht
    obtain ⟨u, used, hsame, hu⟩ := exists_modelPlans hw synthetic ht
    have hmem : withPlans ((id, u), planIndexes u used u.indexes) ∈ (indexed synthetic m).tables := by
      rw [indexed_tables hw]
      exact List.mem_map_of_mem hu
    have htable : (map synthetic m).table? id = _ := table?_map hw id
    rw [Model.table?_eq_tableIn (indexed synthetic m),
      tableIn_of_mem (nodup_indexed hw synthetic).1 hmem] at htable
    exact ⟨_, htable, indexesMapped_of_plans hw ht hu hsame rfl rfl rfl⟩

/-- Two tables with indexes named like one another, like a table and like the name that another index
would get, and with two indexes that cannot be kept. -/
def indexedModel : Model :=
  Builder.finish <|
    ((Builder.start .postgres .google .rename (Audit.start "request" ⟨0, 0⟩)).addTable
      { TableDraft.empty none "a" with
        columns := [.plain "x" ⟨"integer", [], [], 0, "integer"⟩, .plain "j" ⟨"json", [], [], 0, "json"⟩]
        indexes := [⟨some "i", [("x", true)], true⟩, ⟨some "b_i", [("x", false)], false⟩,
          ⟨some "o", [("x", false), ("j", false)], false⟩] }).2.addTable
      { TableDraft.empty none "b" with
        columns := [.plain "x" ⟨"integer", [], [], 0, "integer"⟩,
          .plain "l" ⟨"integer", [], [], 1, "integer[]"⟩]
        indexes := [⟨some "I", [("x", false)], false⟩, ⟨some "A", [("x", true)], true⟩,
          ⟨some "k", [("l", false)], true⟩, ⟨some "K", [("x", false)], false⟩] } |>.2

/-- What a mapping leaves of these indexes and says of them. -/
structure SpeaksOfIndexes (m' : Model) : Prop where
  names : sharedNames m' = ["a", "b", "i", "b_i", "b_i_2", "b_a", "k"]
  kept : (m'.table? ⟨7⟩).map (fun t => t.indexes.map fun i => (i.id, i.name, i.unique))
    = some [(⟨10⟩, "b_I_2", false), (⟨11⟩, "b_A", true), (⟨13⟩, "K", false)]
  removed : ((findingsAbout m' (.table ⟨1⟩)).filter tellsOfIndex).map (·.detail)
    = ["Index o on a dropped: column j cannot be indexed."]
  renamed : (findingsAbout m' (.index ⟨7⟩ ⟨10⟩)).map (fun i => (i.category, i.detail))
    = [(.nameCollision, "Index I on b renamed to b_I_2: index names must be unique.")]
  silent : findingsAbout m' (.index ⟨7⟩ ⟨13⟩) = []

theorem map_indexes_indexedModel :
    indexedModel.validate = .ok () ∧ SpeaksOfIndexes (map "id" indexedModel)
      ∧ (sharedNames (map "id" indexedModel)).Nodup
      ∧ ∀ e ∈ indexedModel.tables, ∃ t', (map "id" indexedModel).table? e.1 = some t'
        ∧ IndexesMapped (map "id" indexedModel) e.1 e.2 t' := by
  have h : indexedModel.validate = .ok () := by decide +kernel
  refine ⟨h, ⟨?_, ?_, ?_, ?_, ?_⟩, map_indexes h "id"⟩
  all_goals decide +kernel

end Mapper

end SchemaBridge
