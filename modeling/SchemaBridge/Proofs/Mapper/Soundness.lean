/-
# A mapping keeps a model sound

The mapper adds columns and takes indexes and foreign keys away, after issues have been attached to
them.  It stays sound because of the order of its work: it drops its own issues first, so that those
left are about tables or the schema; the first phase speaks of columns only, and these stay; the
second speaks of indexes it keeps and the third, which takes foreign keys, of foreign keys it keeps.

## Key statements

* `sound_map`: the mapping of a sound model is sound.
-/
import SchemaBridge.Proofs.Mapper.Phases

namespace SchemaBridge.Mapper

variable {m : Model}

/-! ## Columns and primary keys -/

/-- What is said of a column is about it. -/
theorem mem_columnIssues {source : SourceDialect} {d : TargetDialect} {id : TableId}
    {table : String} {c : Column} {i : Issue} (h : i ∈ columnIssues source d id table c) :
    i.stage = .mapper ∧ i.target = .column id c.id ∧ i.category ∈ partCategories := by
  unfold columnIssues at h
  split at h
  · cases h
  rcases List.mem_append.1 h with h | h
  · rcases List.mem_append.1 h with h | h
    · unfold lossIssue at h
      split at h
      · cases h
      · rw [List.mem_singleton.1 h]
        exact ⟨rfl, rfl, (by decide : IssueCategory.lossyType ∈ partCategories)⟩
    · unfold ambiguityIssue at h
      split at h
      · cases h
      · rw [List.mem_singleton.1 h]
        exact ⟨rfl, rfl, (by decide : IssueCategory.ambiguousMapping ∈ partCategories)⟩
  · unfold identityIssue at h
    split at h
    · rw [List.mem_singleton.1 h]
      exact ⟨rfl, rfl, (by decide : IssueCategory.unsupportedConstraint ∈ partCategories)⟩
    · cases h

/-- What is said of a key is about a column of the table. -/
theorem mem_keyIssues {d : TargetDialect} {id : TableId} {t : Table} {i : Issue}
    (h : i ∈ keyIssues d id t) : i.stage = .mapper ∧ i.category ∈ partCategories
      ∧ ∃ c, t.hasColumn c = true ∧ i.target = .column id c := by
  obtain ⟨k, -, hi⟩ := List.mem_filterMap.1 h
  obtain ⟨c, hc, hi⟩ := Option.bind_eq_some_iff.1 hi
  obtain ⟨type, -, hi⟩ := Option.bind_eq_some_iff.1 hi
  split at hi
  · cases hi
  · cases hi
    refine ⟨rfl, (by decide : IssueCategory.unsupportedConstraint ∈ partCategories), c.id, ?_, rfl⟩
    rw [Table.hasColumn_iff]
    exact List.mem_map_of_mem (List.mem_of_find?_eq_some hc)

/-- A finding about a table or one of its columns. -/
def ConcernsColumns (id : TableId) (t : Table) (i : Issue) : Prop :=
  i.stage = .mapper ∧ (i.target = .table id ∨ ∃ c, t.hasColumn c = true ∧ i.target = .column id c)

/-- So what it is about is there. -/
theorem ConcernsColumns.hasTarget {id : TableId} {t : Table} {i : Issue}
    (h : ConcernsColumns id t i) {l : KeyedTables} (ht : tableIn l id = some t) :
    HasTargetIn l i.target := by
  obtain ⟨-, hi | ⟨c, hc, hi⟩⟩ := h
  · rw [hi]
    exact HasTargetIn.of_tableIn ht
  · rw [hi]
    intro k hk
    cases hk
    exact ⟨t, ht, hc⟩

/-- Findings about a table that is there leave a model sound. -/
theorem sound_addFindings (h : m.Sound) {id : TableId} {t : Table} (ht : m.table? id = some t)
    {l : List Issue} (hl : ∀ i ∈ l, ConcernsColumns id t i) :
    ({ m with issues := m.issues ++ l } : Model).Sound :=
  h.addIssues (fun i hi => (hl i hi).hasTarget ht) fun i hi hs => absurd (hl i hi).1 hs

/-- What is said of all columns is about them. -/
theorem columnIssues_concern (source : SourceDialect) (d : TargetDialect) (id : TableId)
    (table : String) (t : Table) :
    ∀ i ∈ t.columns.flatMap (columnIssues source d id table), ConcernsColumns id t i := by
  intro i hi
  obtain ⟨c, hc, hi⟩ := List.mem_flatMap.1 hi
  obtain ⟨hs, ht, -⟩ := mem_columnIssues hi
  exact ⟨hs, Or.inr ⟨c.id, (Table.hasColumn_iff t c.id).2 (List.mem_map_of_mem hc), ht⟩⟩

/-- A mapping leaves the identifiers of columns. -/
theorem withColumns_ids (source : SourceDialect) (t : Table) :
    (withColumns source t).columns.map (·.id) = t.columns.map (·.id) := by
  simp [withColumns]

/-- Mapping columns keeps a model sound. -/
theorem sound_mapColumns (h : m.Sound) (id : TableId) : (mapColumns m id).Sound := by
  cases ht : m.table? id with
  | none =>
    unfold mapColumns
    rw [ht]
    exact h
  | some t =>
    have hreplace : t.MayReplace m (withColumns m.source t) :=
      Table.MayReplace.ofSameParts h ht rfl (withColumns_ids m.source t) rfl rfl rfl
        (h.refers _ (mem_of_tableIn ht)).primaryKey
    have hmodified := h.modifyTable ht hreplace
    have hfound : (m.modifyTable id (withColumns m.source)).table? id
        = some (withColumns m.source t) := by
      rw [Model.table?_eq_tableIn, Model.modifyTable_tables, tableIn_changeIn, if_pos rfl,
        ← Model.table?_eq_tableIn, ht]
      rfl
    rw [mapColumns_eq ht]
    refine sound_addFindings hmodified hfound ?_
    intro i hi
    obtain ⟨hs, hc | ⟨c, hc, hi⟩⟩ := columnIssues_concern m.source m.target id t.name t i hi
    · exact ⟨hs, Or.inl hc⟩
    · exact ⟨hs, Or.inr ⟨c, (Table.hasColumn_congr (withColumns_ids m.source t) c).trans hc, hi⟩⟩

/-- A synthetic column stands in front of the columns of its table. -/
theorem sound_withSyntheticKey (h : m.Sound) {id : TableId} {t : Table} (ht : m.table? id = some t)
    (synthetic : String) :
    (m.allocate.2.modifyTable id fun u =>
      { u with
        columns := syntheticColumn m.target ⟨m.nextId⟩ (syntheticName t synthetic) :: u.columns
        primaryKey := [⟨⟨m.nextId⟩, false⟩] }).Sound := by
  have hrefers : t.RefersIn m.tables := h.refers _ (mem_of_tableIn ht)
  set t' := withSyntheticKey m.target synthetic m.nextId t with ht'
  have hkept : ∀ c, t.hasColumn c = true → t'.hasColumn c = true := by
    intro c hc
    rw [Table.hasColumn_iff] at hc ⊢
    exact List.mem_cons_of_mem _ hc
  -- the table has one part more, and the old ones refer to what they did
  have hreplace : t.MayReplace m.allocate.2 t' := by
    refine Table.MayReplace.ofNewPart h ht rfl ?_ hkept ⟨?_, ?_, ?_⟩ ?_
    · simp only [ht', withSyntheticKey, Table.ids, List.map_cons, List.cons_append]
      exact List.Perm.swap _ _ _
    · intro k hk
      rw [List.mem_singleton.1 hk, Table.hasColumn_iff]
      exact List.mem_cons_self
    · intro i hi k hk
      exact hkept _ (hrefers.indexes i hi k hk)
    · intro f hf
      exact (hrefers.foreignKeys f hf).mono (fun _ p hp => ⟨p, hp, fun _ hc => hc⟩) hkept
    · intro target hp
      cases target with
      | column _ c => exact hkept c hp
      | _ => exact hp
  exact h.allocate.modifyTable (f := fun u => { u with
    columns := syntheticColumn m.target ⟨m.nextId⟩ (syntheticName t synthetic) :: u.columns
    primaryKey := [⟨⟨m.nextId⟩, false⟩] }) ht hreplace

theorem sound_mapPrimaryKey (h : m.Sound) (synthetic : String) (id : TableId) :
    (mapPrimaryKey synthetic m id).Sound := by
  unfold mapPrimaryKey
  split
  · exact h
  rename_i t ht
  split
  · exact h.addIssue (HasTargetIn.of_tableIn ht) fun hs => absurd rfl hs
  split
  · refine sound_addFindings h ht ?_
    intro i hi
    obtain ⟨hs, -, hc⟩ := mem_keyIssues hi
    exact ⟨hs, Or.inr hc⟩
  · have hsound := sound_withSyntheticKey h ht synthetic
    refine hsound.addIssue ?_ fun hs => absurd rfl hs
    have hfound : tableIn (changeIn m.tables id fun u => { u with
        columns := syntheticColumn m.target ⟨m.nextId⟩ (syntheticName t synthetic) :: u.columns
        primaryKey := [⟨⟨m.nextId⟩, false⟩] }) id
        = some (withSyntheticKey m.target synthetic m.nextId t) := by
      rw [tableIn_changeIn, if_pos rfl, ← Model.table?_eq_tableIn, ht]
      rfl
    exact HasTargetIn.of_tableIn hfound

theorem sound_foldl_mapTable (h : m.Sound) (synthetic : String) (ids : List TableId) :
    (ids.foldl (mapTable synthetic) m).Sound := by
  induction ids generalizing m with
  | nil => exact h
  | cons id ids ih => exact ih (sound_mapPrimaryKey (sound_mapColumns h id) synthetic id)

/-- A target that no later phase can take away: the schema, a table, a column or a check. -/
def IsFirm : IssueTarget → Prop
  | .index _ _ | .foreignKey _ _ => False
  | _ => True

/-- What is about a table or more stays about something. -/
theorem isFirm_of_isBroad {target : IssueTarget} (h : target.IsBroad) : IsFirm target := by
  cases target with
  | schema => trivial
  | table _ => trivial
  | _ => cases h

/-- What is said of columns and keys stays about something. -/
theorem isFirm_place (source : SourceDialect) (d : TargetDialect) (synthetic : String) (n : Nat)
    (id : TableId) (t : Table) :
    ∀ i ∈ (place source d synthetic n id t).issues, IsFirm i.target := by
  intro i hi
  rcases List.mem_append.1 hi with hi | hi
  · obtain ⟨c, -, hi⟩ := List.mem_flatMap.1 hi
    rw [(mem_columnIssues hi).2.1]
    trivial
  · unfold placeKey at hi
    split at hi
    · rw [List.mem_singleton.1 hi]
      trivial
    · split at hi
      · obtain ⟨-, -, c, -, ht⟩ := mem_keyIssues hi
        rw [ht]
        trivial
      · rw [List.mem_singleton.1 hi]
        trivial

theorem isFirm_placeAll (source : SourceDialect) (d : TargetDialect) (synthetic : String) (n : Nat)
    (l : KeyedTables) : ∀ i ∈ (placeAll source d synthetic n l).issues, IsFirm i.target := by
  induction l generalizing n with
  | nil =>
    intro i hi
    cases hi
  | cons e l ih =>
    obtain ⟨id, t⟩ := e
    intro i hi
    rcases List.mem_append.1 hi with hi | hi
    · exact isFirm_place source d synthetic n id t i hi
    · exact ih _ i hi

/-! ## Indexes and foreign keys -/

/-- Mapping indexes leaves parts out at most. -/
theorem trims_keepsIndexes {e e' : TableId × Table} (h : KeepsIndexes e e') : e.2.Trims e'.2 := by
  obtain ⟨-, kept, he, hkept⟩ := h
  have hsub : (kept.map indexCore).Sublist (e.2.indexes.map indexCore) :=
    hkept ▸ (List.filter_sublist (l := e.2.indexes)).map indexCore
  rw [he]
  refine ⟨rfl, rfl, rfl, rfl, ?_, ?_, fun f hf => ⟨f, hf, rfl, rfl, rfl⟩⟩
  · have hids : (kept.map (·.id.val)).Sublist (e.2.indexes.map (·.id.val)) := by
      have hm := hsub.map fun x => x.1.val
      rwa [List.map_map, List.map_map] at hm
    exact (((hids.append (List.Sublist.refl _)).append_left _).cons_cons _)
  · intro i' hi'
    have hm := hsub.subset (List.mem_map_of_mem hi')
    obtain ⟨i, hi, hcore⟩ := List.mem_map.1 hm
    exact ⟨i, hi, congrArg (·.2.1) hcore.symm⟩

theorem trimmed_mapIndexes (m : Model) : Trimmed m.tables (mapIndexes m).tables :=
  (mapTableIndexes_tables _ m.tables).imp fun _ _ h => ⟨h.1, trims_keepsIndexes h⟩

/-- What is firm stays when indexes and foreign keys are left out. -/
theorem hasTarget_trimmed {l l' : KeyedTables} (hl : Trimmed l l') {target : IssueTarget}
    (hf : IsFirm target) (h : HasTargetIn l target) : HasTargetIn l' target := by
  refine h.mono fun id t ht => ?_
  obtain ⟨t', ht', htrim⟩ := hl.tableIn ht
  refine ⟨t', ht', fun hp => ?_⟩
  cases target with
  | column _ c => exact (htrim.hasColumn c).trans hp
  | check _ c =>
    show ∃ x ∈ t'.checks, x.id = c
    rw [htrim.checks]
    exact hp
  | index _ _ => cases hf
  | foreignKey _ _ => cases hf
  | schema => trivial
  | table _ => trivial

/-- What no later phase can take away once indexes have been seen to. -/
def IsNoForeignKey : IssueTarget → Prop
  | .foreignKey _ _ => False
  | _ => True

/-- Mapping indexes keeps a model sound. -/
theorem sound_mapIndexes (h : m.Sound) (hfirm : ∀ i ∈ m.issues, IsFirm i.target) :
    (mapIndexes m).Sound ∧ ∀ i ∈ (mapIndexes m).issues, IsNoForeignKey i.target := by
  have htrimmed := trimmed_mapIndexes m
  have hnodup : ((mapIndexes m).tables.map (·.1)).Nodup := by
    rw [htrimmed.keys]
    exact h.nodup_keys
  -- what is found is about the table or about an index that it still has
  have hfound : ∀ i ∈ (mapTableIndexes (m.tableList.map fun t => Text.lowerText t.name) m.tables).2,
      i.stage = .mapper ∧ HasTargetIn (mapIndexes m).tables i.target ∧ IsNoForeignKey i.target := by
    intro i hi
    obtain ⟨e, he, hs, hc⟩ := mapTableIndexes_issues _ _ i hi
    have htable : tableIn (mapIndexes m).tables e.1 = some e.2 := tableIn_of_mem hnodup he
    refine ⟨hs, ?_⟩
    rcases hc with hc | ⟨x, hx, hc⟩
    · rw [hc]
      exact ⟨HasTargetIn.of_tableIn htable, trivial⟩
    · rw [hc]
      refine ⟨?_, trivial⟩
      intro k hk
      cases hk
      exact ⟨e.2, htable, x, hx, rfl⟩
  constructor
  · refine h.trim htrimmed ?_ ?_
    · intro i hi
      rcases List.mem_append.1 hi with hi | hi
      · exact hasTarget_trimmed htrimmed (hfirm i hi) (h.targets i hi)
      · exact (hfound i hi).2.1
    · intro i hi hs
      rcases List.mem_append.1 hi with hi | hi
      · exact h.broad i hi hs
      · exact absurd (hfound i hi).1 hs
  · intro i hi
    rcases List.mem_append.1 hi with hi | hi
    · have hf := hfirm i hi
      cases ht : i.target with
      | foreignKey _ _ =>
        rw [ht] at hf
        cases hf
      | _ => trivial
    · exact (hfound i hi).2.2

/-- Where identifiers are distinct, those of the foreign keys of a table are. -/
theorem nodup_foreignKeys_of_distinct (hd : m.ids.Nodup) {e : TableId × Table}
    (he : e ∈ m.tables) : (e.2.foreignKeys.map (·.id)).Nodup := by
  rw [Model.ids, idsIn, List.nodup_flatMap] at hd
  have ht := hd.1 e he
  rw [Table.ids, List.nodup_cons] at ht
  have hkeys : (e.2.foreignKeys.map (·.id.val)).Nodup :=
    (List.nodup_append.1 (List.nodup_append.1 (List.nodup_append.1 ht.2).2.1).2.1).2.1
  have hval : (e.2.foreignKeys.map (·.id.val)) = (e.2.foreignKeys.map (·.id)).map (·.val) := by
    rw [List.map_map]
    rfl
  rw [hval] at hkeys
  exact hkeys.of_map _

/-- No two foreign keys of a table have one identifier. -/
theorem nodup_foreignKeys (h : m.Sound) {e : TableId × Table} (he : e ∈ m.tables) :
    (e.2.foreignKeys.map (·.id)).Nodup :=
  nodup_foreignKeys_of_distinct h.distinct he

/-- Mapping foreign keys leaves parts out at most. -/
theorem trims_mapTableForeignKeys (m' : Model) (h : m.Sound) {e : TableId × Table}
    (he : e ∈ m.tables) : e.2.Trims (mapTableForeignKeys m' e.1 e.2).1 := by
  have hplanned : ∀ f : ForeignKey, ∀ d f', planned d f = some f' → f'.id = f.id
      ∧ f'.columns = f.columns ∧ f'.referencedTable = f.referencedTable
      ∧ f'.referencedColumns = f.referencedColumns := by
    intro f d f' hf
    obtain ⟨a, -, rfl⟩ := Option.map_eq_some_iff.1 hf
    exact ⟨rfl, rfl, rfl, rfl⟩
  rw [mapTableForeignKeys_eq m' e.1 e.2 (nodup_foreignKeys h he)]
  refine ⟨rfl, rfl, rfl, rfl, ?_, fun i hi => ⟨i, hi, rfl⟩, ?_⟩
  · have hids := (map_id_keptKeys m' e.1 e.2).map (·.val)
    rw [List.map_map, List.map_map] at hids
    exact ((((hids.append_left _).append_left _).append_left _).cons_cons _)
  · intro f' hf'
    obtain ⟨f, hf, hp⟩ := List.mem_filterMap.1 hf'
    exact ⟨f, hf, (hplanned f _ f' hp).2⟩

/-- A list and its images are related if each element and its image are. -/
theorem forall₂_map {l : KeyedTables} {R : TableId × Table → TableId × Table → Prop}
    {g : TableId × Table → TableId × Table} (h : ∀ e ∈ l, R e (g e)) :
    List.Forall₂ R l (l.map g) := by
  induction l with
  | nil => exact List.Forall₂.nil
  | cons e l ih =>
    exact List.Forall₂.cons (h e List.mem_cons_self)
      (ih fun e he => h e (List.mem_cons_of_mem _ he))

/-- The tables after foreign keys have been mapped. -/
theorem mapForeignKeys_tables (m : Model) :
    (mapForeignKeys m).tables = m.tables.map fun e => (e.1, (mapTableForeignKeys m e.1 e.2).1) := by
  unfold mapForeignKeys
  dsimp only
  rw [List.map_map]
  rfl

/-- The issues after foreign keys have been mapped. -/
theorem mapForeignKeys_issues (m : Model) :
    (mapForeignKeys m).issues
      = m.issues ++ m.tables.flatMap fun e => (mapTableForeignKeys m e.1 e.2).2 := by
  unfold mapForeignKeys
  dsimp only
  rw [List.flatMap_map]

/-- Mapping foreign keys leaves parts out at most, for all tables. -/
theorem trimmed_mapForeignKeys (h : m.Sound) : Trimmed m.tables (mapForeignKeys m).tables := by
  rw [mapForeignKeys_tables]
  exact forall₂_map fun e he => ⟨rfl, trims_mapTableForeignKeys m h he⟩

/-- Findings of a table about its foreign keys concern the table or a foreign key it keeps. -/
theorem hasTarget_mapTableForeignKeys (h : m.Sound) {e : TableId × Table} (he : e ∈ m.tables)
    {i : Issue} (hi : i ∈ (mapTableForeignKeys m e.1 e.2).2) :
    i.stage = .mapper ∧ HasTargetIn (mapForeignKeys m).tables i.target := by
  obtain ⟨plan, hplan, hi⟩ := List.mem_flatMap.1 hi
  obtain ⟨f, hf, rfl⟩ := List.mem_map.1 hplan
  have htable : tableIn (mapForeignKeys m).tables e.1
      = some (mapTableForeignKeys m e.1 e.2).1 := by
    rw [mapForeignKeys_tables, tableIn_map m.tables fun id t => (mapTableForeignKeys m id t).1,
      tableIn_of_mem h.nodup_keys he]
    rfl
  obtain ⟨hs, ht | ⟨ht, hkept⟩⟩ := planKey_issues m e.1 e.2 f i hi
  · rw [ht]
    exact ⟨hs, HasTargetIn.of_tableIn htable⟩
  · refine ⟨hs, ?_⟩
    rw [ht]
    intro k hk
    cases hk
    refine ⟨_, htable, ?_⟩
    obtain ⟨a, ha⟩ := Option.isSome_iff_exists.1 hkept
    refine ⟨setActions a.1 a.2 f, ?_, rfl⟩
    rw [mapTableForeignKeys_eq m e.1 e.2 (nodup_foreignKeys h he)]
    exact List.mem_filterMap.2 ⟨f, hf, by rw [ha]; rfl⟩

theorem sound_mapForeignKeys (h : m.Sound) (hkeys : ∀ i ∈ m.issues, IsNoForeignKey i.target) :
    (mapForeignKeys m).Sound := by
  have htrimmed := trimmed_mapForeignKeys h
  have hold : ∀ i ∈ m.issues, HasTargetIn (mapForeignKeys m).tables i.target := by
    intro i hi
    refine (h.targets i hi).mono fun id t ht => ?_
    obtain ⟨t', ht', htrim⟩ := htrimmed.tableIn ht
    refine ⟨t', ht', fun hp => ?_⟩
    have hindexes : t'.indexes = t.indexes := by
      rw [mapForeignKeys_tables, tableIn_map m.tables fun id t => (mapTableForeignKeys m id t).1,
        ht] at ht'
      rw [← Option.some.inj ht']
      rfl
    -- no issue so far is about a foreign key, and nothing else is taken away
    have hno := hkeys i hi
    cases htarget : i.target with
    | foreignKey _ _ =>
      rw [htarget] at hno
      cases hno
    | index _ x =>
      rw [htarget] at hp
      show ∃ y ∈ t'.indexes, y.id = x
      rw [hindexes]
      exact hp
    | column _ c =>
      rw [htarget] at hp
      exact (htrim.hasColumn c).trans hp
    | check _ c =>
      rw [htarget] at hp
      show ∃ x ∈ t'.checks, x.id = c
      rw [htrim.checks]
      exact hp
    | schema => trivial
    | table _ => trivial
  have hall : ∀ i ∈ (mapForeignKeys m).issues, i ∈ m.issues
      ∨ i.stage = .mapper ∧ HasTargetIn (mapForeignKeys m).tables i.target := by
    intro i hi
    rw [mapForeignKeys_issues] at hi
    rcases List.mem_append.1 hi with hi | hi
    · exact Or.inl hi
    · obtain ⟨e, he, hi⟩ := List.mem_flatMap.1 hi
      exact Or.inr (hasTarget_mapTableForeignKeys h he hi)
  refine h.trim htrimmed ?_ ?_
  · intro i hi
    rcases hall i hi with hi | ⟨-, ht⟩
    · exact hold i hi
    · exact ht
  · intro i hi hs
    rcases hall i hi with hi | ⟨hm, -⟩
    · exact h.broad i hi hs
    · exact absurd hm hs

/-! ## The whole mapping -/

/-- A model after the first two phases. -/
def indexed (synthetic : String) (m : Model) : Model :=
  mapIndexes ((m.tables.map (·.1)).foldl (mapTable synthetic) (m.clearIssues .mapper))

/-- The model is sound once indexes have been mapped. -/
theorem sound_indexed (h : m.Sound) (synthetic : String) : (indexed synthetic m).Sound
    ∧ ∀ i ∈ (indexed synthetic m).issues, IsNoForeignKey i.target := by
  have hcleared : (m.clearIssues .mapper).Sound := h.clearIssues .mapper
  have hplaced := sound_foldl_mapTable hcleared synthetic (m.tables.map (·.1))
  refine sound_mapIndexes hplaced ?_
  intro i hi
  have heq := foldl_mapTable synthetic (m.clearIssues .mapper) hcleared.nodup_keys
  rw [Model.clearIssues_tables] at heq
  rw [heq] at hi
  rcases List.mem_append.1 hi with hi | hi
  · have hs : i.stage ≠ .mapper := by simpa using (List.mem_filter.1 hi).2
    exact isFirm_of_isBroad (hcleared.broad i hi hs)
  · exact isFirm_placeAll _ _ _ _ _ i hi

/-- The mapping of a sound model is sound. -/
theorem sound_map (h : m.Sound) (synthetic : String) : (map synthetic m).Sound := by
  obtain ⟨hindexed, hkeys⟩ := sound_indexed h synthetic
  exact sound_mapForeignKeys hindexed hkeys

theorem sound_foldl_map (h : m.Sound) (names : List String) :
    (names.foldl (fun m synthetic => map synthetic m) m).Sound := by
  induction names generalizing m with
  | nil => exact h
  | cons s names ih => exact ih (sound_map h s)

end SchemaBridge.Mapper
