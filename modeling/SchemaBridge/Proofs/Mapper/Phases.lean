/-
# The phases of a mapping

What each phase of a mapping makes of the tables, written as a function of the tables alone.  The
first phase changes a model table by table; since no table looks at another, it can be read off
each table and the counter.  The second keeps a part of the indexes, the third a part of the foreign
keys.

## Key statements

* `foldl_mapTable`: columns and primary keys of all tables.
* `map_indexCore_keptIndexes`: which indexes of a table are kept.
* `mapTableForeignKeys_eq`: which foreign keys of a table are kept.
-/
import SchemaBridge.Proofs.Mapper.IndexPlans
import SchemaBridge.Proofs.Schema.Soundness

namespace SchemaBridge.Mapper

/-! ## Columns and primary keys -/

/-- What becomes of a table, the counter afterwards and the issues. -/
structure Placed where
  table : Table
  nextId : Nat
  issues : List Issue

/-- A table with its columns mapped. -/
def withColumns (source : SourceDialect) (t : Table) : Table :=
  { t with columns := t.columns.map (mapColumn source) }

/-- A table with a synthetic key. -/
def withSyntheticKey (d : TargetDialect) (synthetic : String) (n : Nat) (t : Table) : Table :=
  { t with
    columns := syntheticColumn d ⟨n⟩ (syntheticName t synthetic) :: t.columns
    primaryKey := [⟨⟨n⟩, false⟩] }

/-- See to the primary key of a table whose columns are mapped. -/
def placeKey (d : TargetDialect) (synthetic : String) (n : Nat) (id : TableId) (t : Table) : Placed :=
  match t.syntheticKey? with
  | some c => ⟨t, n, [syntheticIssue id t.name c.name]⟩
  | none =>
    if t.hasPrimaryKey then ⟨t, n, keyIssues d id t⟩
    else
      ⟨withSyntheticKey d synthetic n t, n + 1,
        [syntheticIssue id t.name (syntheticName t synthetic)]⟩

/-- Map the columns and the primary key of a table, given the counter. -/
def place (source : SourceDialect) (d : TargetDialect) (synthetic : String) (n : Nat) (id : TableId)
    (t : Table) : Placed :=
  let p := placeKey d synthetic n id (withColumns source t)
  { p with issues := t.columns.flatMap (columnIssues source d id t.name) ++ p.issues }

/-- What becomes of the tables of a list, one after another. -/
structure PlacedAll where
  tables : KeyedTables
  nextId : Nat
  issues : List Issue

/-- Tables that are placed one after another; the identifiers go on from one to the next. -/
def placeAll (source : SourceDialect) (d : TargetDialect) (synthetic : String) :
    Nat → KeyedTables → PlacedAll
  | n, [] => ⟨[], n, []⟩
  | n, (id, t) :: r =>
    let p := place source d synthetic n id t
    let rest := placeAll source d synthetic p.nextId r
    ⟨(id, p.table) :: rest.tables, rest.nextId, p.issues ++ rest.issues⟩

/-- Put a table in the place of the one under its identifier. -/
def replaceIn (m : Model) (id : TableId) (p : Placed) : Model :=
  { m with
    tables := changeIn m.tables id fun _ => p.table
    nextId := p.nextId
    issues := m.issues ++ p.issues }

/-- A change of one table is what it does to it. -/
theorem changeIn_congr {l : KeyedTables} (hl : (l.map (·.1)).Nodup) {id : TableId} {t : Table}
    (ht : tableIn l id = some t) {f g : Table → Table} (h : f t = g t) :
    changeIn l id f = changeIn l id g := by
  obtain ⟨pre, post, rfl, hpre, hpost⟩ := exists_split_of_tableIn hl ht
  rw [changeIn_split hpre hpost, changeIn_split hpre hpost, h]

/-- Two changes of one table. -/
theorem changeIn_changeIn (l : KeyedTables) (id : TableId) (f g : Table → Table) :
    changeIn (changeIn l id f) id g = changeIn l id fun t => g (f t) := by
  unfold changeIn
  rw [List.map_map]
  apply List.map_congr_left
  rintro ⟨k, t⟩ -
  by_cases hk : k = id <;> simp [hk]

/-- What mapping columns does to a model. -/
theorem mapColumns_eq {m : Model} {id : TableId} {t : Table} (ht : m.table? id = some t) :
    mapColumns m id = { m with
      tables := changeIn m.tables id (withColumns m.source)
      issues := m.issues ++ t.columns.flatMap (columnIssues m.source m.target id t.name) } := by
  unfold mapColumns
  rw [ht]
  rfl

/-- What giving a key does to a model. -/
theorem mapPrimaryKey_eq {m : Model} {id : TableId} {t : Table} (hm : (m.tables.map (·.1)).Nodup)
    (ht : m.table? id = some t) (synthetic : String) :
    mapPrimaryKey synthetic m id
      = replaceIn m id (placeKey m.target synthetic m.nextId id t) := by
  -- a table that stays may be put in its own place
  have hkeep : changeIn m.tables id (fun _ => t) = m.tables := by
    obtain ⟨pre, post, hl, hpre, hpost⟩ := exists_split_of_tableIn hm ht
    rw [hl, changeIn_split hpre hpost]
  unfold mapPrimaryKey placeKey
  simp only [ht]
  cases hs : t.syntheticKey? with
  | some c =>
    simp only [replaceIn, hkeep]
    rfl
  | none =>
    by_cases hk : t.hasPrimaryKey
    · simp only [hk, if_true, replaceIn, hkeep]
    · simp only [hk, replaceIn]
      have hchange : changeIn m.tables id (fun u =>
            { u with
              columns := syntheticColumn m.target ⟨m.nextId⟩ (syntheticName t synthetic) :: u.columns
              primaryKey := [⟨⟨m.nextId⟩, false⟩] })
          = changeIn m.tables id fun _ => withSyntheticKey m.target synthetic m.nextId t :=
        changeIn_congr hm ht rfl
      exact congrArg (fun l : KeyedTables => { m with
        tables := l
        nextId := m.nextId + 1
        issues := m.issues ++ [syntheticIssue id t.name (syntheticName t synthetic)] }) hchange

/-- What both do. -/
theorem mapTable_eq {m : Model} {id : TableId} {t : Table} (hm : (m.tables.map (·.1)).Nodup)
    (ht : m.table? id = some t) (synthetic : String) :
    mapTable synthetic m id = replaceIn m id (place m.source m.target synthetic m.nextId id t) := by
  unfold mapTable
  rw [mapColumns_eq ht]
  set m₁ : Model := { m with
    tables := changeIn m.tables id (withColumns m.source)
    issues := m.issues ++ t.columns.flatMap (columnIssues m.source m.target id t.name) } with hm₁
  have hnodup : (m₁.tables.map (·.1)).Nodup := by
    rw [hm₁, map_fst_changeIn]
    exact hm
  have hfound : m₁.table? id = some (withColumns m.source t) := by
    rw [Model.table?_eq_tableIn, hm₁, tableIn_changeIn, if_pos rfl, ← Model.table?_eq_tableIn, ht]
    rfl
  rw [mapPrimaryKey_eq hnodup hfound, hm₁]
  simp only [replaceIn, place, changeIn_changeIn, List.append_assoc]

/-- The first phase, table by table: what has been done stands in front of what is left. -/
theorem foldl_mapTable_append (synthetic : String) (m : Model) (done rest : KeyedTables)
    (hm : m.tables = done ++ rest) (hnodup : (m.tables.map (·.1)).Nodup) :
    (rest.map (·.1)).foldl (mapTable synthetic) m = { m with
      tables := done ++ (placeAll m.source m.target synthetic m.nextId rest).tables
      nextId := (placeAll m.source m.target synthetic m.nextId rest).nextId
      issues := m.issues ++ (placeAll m.source m.target synthetic m.nextId rest).issues } := by
  induction rest generalizing m done with
  | nil =>
    rw [List.append_nil] at hm
    simp only [List.map_nil, List.foldl_nil, placeAll, List.append_nil, ← hm]
  | cons e rest ih =>
    obtain ⟨id, t⟩ := e
    -- only the table whose turn it is has its key, so the change is made in its place
    have hsplit : id ∉ done.map (·.1) ∧ id ∉ rest.map (·.1) := by
      rw [hm, List.map_append, List.map_cons, List.nodup_append] at hnodup
      refine ⟨fun h => hnodup.2.2 id h id List.mem_cons_self rfl, ?_⟩
      exact (List.nodup_cons.1 hnodup.2.1).1
    have ht : m.table? id = some t := by
      rw [Model.table?_eq_tableIn]
      exact tableIn_of_mem hnodup (by rw [hm]; simp)
    set p := place m.source m.target synthetic m.nextId id t with hp
    have htables : (replaceIn m id p).tables = (done ++ [(id, p.table)]) ++ rest := by
      show changeIn m.tables id (fun _ => p.table) = _
      rw [hm, changeIn_split hsplit.1 hsplit.2]
      simp
    have hkeys : ((replaceIn m id p).tables.map (·.1)).Nodup := by
      show ((changeIn m.tables id fun _ => p.table).map (·.1)).Nodup
      rw [map_fst_changeIn]
      exact hnodup
    rw [List.map_cons, List.foldl_cons, mapTable_eq hnodup ht, ih _ _ htables hkeys]
    simp only [replaceIn, placeAll, ← hp, List.append_assoc, List.cons_append, List.nil_append]

/-- What they do to all tables. -/
theorem foldl_mapTable (synthetic : String) (m : Model) (hnodup : (m.tables.map (·.1)).Nodup) :
    (m.tables.map (·.1)).foldl (mapTable synthetic) m = { m with
      tables := (placeAll m.source m.target synthetic m.nextId m.tables).tables
      nextId := (placeAll m.source m.target synthetic m.nextId m.tables).nextId
      issues := m.issues ++ (placeAll m.source m.target synthetic m.nextId m.tables).issues } :=
  foldl_mapTable_append synthetic m [] m.tables rfl hnodup

/-! ## Indexes -/

/-- What the mapping of an index leaves as it is. -/
def indexCore (i : Index) : IndexId × List KeyPart × Bool := (i.id, i.keys, i.unique)

/-- The indexes of a table whose columns can all be part of a key. -/
def keyable (t : Table) : List Index :=
  t.indexes.filter fun i => (unkeyableColumn? t.columns i).isNone

/-- A finding about a table or about an index it has kept. -/
def ConcernsIndexes (id : TableId) (kept : List Index) (i : Issue) : Prop :=
  i.stage = .mapper ∧ (i.target = .table id ∨ ∃ x ∈ kept, i.target = .index id x.id)

/-- Indexes are kept in order, each with its key, unless a column of it cannot be part of one. -/
theorem map_indexCore_keptIndexes (t : Table) (used : List String) (l : List Index) :
    (keptIndexes (planIndexes t used l)).map indexCore
      = (l.filter fun i => (unkeyableColumn? t.columns i).isNone).map indexCore := by
  induction l generalizing used with
  | nil => rfl
  | cons i l ih =>
    have hcolumn := column?_planIndex t used i
    unfold planIndexes keptIndexes
    dsimp only
    cases hplan : planIndex t used i with
    | drop c =>
      rw [hplan] at hcolumn
      rw [List.filter_cons_of_neg (by simp [← hcolumn, IndexPlan.column?])]
      exact ih _
    | keep name =>
      rw [hplan] at hcolumn
      rw [List.filter_cons_of_pos (by simp [← hcolumn, IndexPlan.column?])]
      exact congrArg (indexCore i :: ·) (ih _)

/-- A table with the indexes it keeps. -/
def KeepsIndexes (e e' : TableId × Table) : Prop :=
  e'.1 = e.1 ∧ ∃ kept, e'.2 = { e.2 with indexes := kept }
    ∧ kept.map indexCore = (keyable e.2).map indexCore

/-- Mapping indexes changes nothing else of a table. -/
theorem mapTableIndexes_tables (used : List String) (l : KeyedTables) :
    List.Forall₂ KeepsIndexes l (mapTableIndexes used l).1 := by
  induction l generalizing used with
  | nil => exact List.Forall₂.nil
  | cons e l ih =>
    obtain ⟨id, t⟩ := e
    refine List.Forall₂.cons ⟨rfl, _, rfl, ?_⟩ (ih _)
    rw [foldl_keepIndex_eq]
    exact map_indexCore_keptIndexes t used t.indexes

/-- What it says is about indexes of the table. -/
theorem mapTableIndexes_issues (used : List String) (l : KeyedTables) :
    ∀ i ∈ (mapTableIndexes used l).2,
      ∃ e ∈ (mapTableIndexes used l).1, ConcernsIndexes e.1 e.2.indexes i := by
  intro i hi
  obtain ⟨e, he, p, hp, hi⟩ := exists_of_mem_mapTableIndexes hi
  rw [mapTableIndexes_eq]
  refine ⟨withPlans e, List.mem_map_of_mem he, ?_⟩
  rcases mem_planFindings hi with ⟨c, -, rfl⟩ | ⟨name, hkeep, rfl⟩
  · exact ⟨rfl, .inl rfl⟩
  · -- an index that is renamed is kept under its new name
    have hkept : keptIndex? p = some { p.1 with name } := by
      obtain ⟨i, plan⟩ := p
      obtain rfl : plan = .keep name := hkeep
      rfl
    exact ⟨rfl, .inr ⟨_, List.mem_filterMap.2 ⟨p, hp, hkept⟩, rfl⟩⟩

/-! ## Foreign keys -/

/-- The first element that is chosen is changed. -/
theorem modifyFirst_append {α : Type} {p : α → Bool} {f : α → α} {l r : List α} {a : α}
    (hl : ∀ x ∈ l, p x = false) (ha : p a = true) :
    Table.modifyFirst p f (l ++ a :: r) = l ++ f a :: r := by
  induction l with
  | nil => simp [Table.modifyFirst, ha]
  | cons x l ih =>
    rw [List.cons_append, Table.modifyFirst, if_neg (by simp [hl x List.mem_cons_self]),
      ih fun y hy => hl y (List.mem_cons_of_mem _ hy)]
    rfl

/-- What a plan makes of the foreign key it is for. -/
def planned (d : Option (FkAction × FkAction)) (f : ForeignKey) : Option ForeignKey :=
  d.map fun a => setActions a.1 a.2 f

/-- Plans are carried out one by one: those that have been stand in front. -/
theorem foldl_applyPlan_append (d : ForeignKey → Option (FkAction × FkAction))
    (done rest : List ForeignKey) (hdone : ∀ f ∈ done, ∀ g ∈ rest, f.id ≠ g.id)
    (hrest : (rest.map (·.id)).Nodup) :
    (rest.map fun f => (f.id, d f)).foldl applyPlan (done ++ rest)
      = done ++ rest.filterMap fun f => planned (d f) f := by
  induction rest generalizing done with
  | nil => simp
  | cons f rest ih =>
    rw [List.map_cons, List.nodup_cons] at hrest
    have hother : ∀ g ∈ rest, g.id ≠ f.id := by
      intro g hg he
      exact hrest.1 (he ▸ List.mem_map_of_mem hg)
    have hbefore : ∀ g ∈ done, g.id ≠ f.id := fun g hg => hdone g hg f List.mem_cons_self
    have hdone' : ∀ g ∈ done, ∀ h ∈ rest, g.id ≠ h.id :=
      fun g hg h hh => hdone g hg h (List.mem_cons_of_mem _ hh)
    rw [List.map_cons, List.foldl_cons, List.filterMap_cons]
    -- a key without a plan is taken away; one with a plan joins those that are done
    cases hd : d f with
    | none =>
      have hstep : applyPlan (done ++ f :: rest) (f.id, none) = done ++ rest := by
        show (done ++ f :: rest).filter (fun g => g.id ≠ f.id) = _
        rw [List.filter_append, List.filter_cons_of_neg (by simp),
          List.filter_eq_self.2 fun g hg => by simpa using hbefore g hg,
          List.filter_eq_self.2 fun g hg => by simpa using hother g hg]
      rw [hstep, ih done hdone' hrest.2]
      rfl
    | some a =>
      have hstep : applyPlan (done ++ f :: rest) (f.id, some a)
          = (done ++ [setActions a.1 a.2 f]) ++ rest := by
        show Table.modifyFirst (fun g => g.id = f.id) (setActions a.1 a.2) (done ++ f :: rest) = _
        rw [modifyFirst_append (fun g hg => by simpa using hbefore g hg) (by simp)]
        simp
      rw [hstep, ih (done ++ [setActions a.1 a.2 f]) ?_ hrest.2]
      · simp [planned]
      · intro g hg h hh
        rcases List.mem_append.1 hg with hg | hg
        · exact hdone' g hg h hh
        · rw [List.mem_singleton.1 hg]
          exact (hother h hh).symm

/-- The foreign keys of a table that refer to a key, with their actions. -/
def keptKeys (m : Model) (id : TableId) (t : Table) : List ForeignKey :=
  t.foreignKeys.filterMap fun f => planned (planKey m id t f).1.2 f

/-- Foreign keys that are kept are some of those that were there. -/
theorem map_id_keptKeys (m : Model) (id : TableId) (t : Table) :
    ((keptKeys m id t).map (·.id)).Sublist (t.foreignKeys.map (·.id)) := by
  unfold keptKeys
  generalize t.foreignKeys = l
  induction l with
  | nil => exact List.Sublist.refl _
  | cons f l ih =>
    rw [List.filterMap_cons]
    cases (planKey m id t f).1.2 with
    | none => exact ih.cons _
    | some a => exact ih.cons_cons _

/-- The table with the foreign keys that are kept. -/
theorem mapTableForeignKeys_eq (m : Model) (id : TableId) (t : Table)
    (h : (t.foreignKeys.map (·.id)).Nodup) :
    (mapTableForeignKeys m id t).1 = { t with foreignKeys := keptKeys m id t } := by
  have hplans : (t.foreignKeys.map (planKey m id t)).map (·.1)
      = t.foreignKeys.map fun f => (f.id, (planKey m id t f).1.2) := by
    rw [List.map_map]
    apply List.map_congr_left
    intro f _
    have hid : (planKey m id t f).1.1 = f.id := by
      unfold planKey
      split
      · rfl
      · split <;> rfl
    exact Prod.ext hid rfl
  unfold mapTableForeignKeys
  dsimp only
  rw [hplans]
  exact congrArg (fun l => { t with foreignKeys := l })
    (foldl_applyPlan_append (fun f => (planKey m id t f).1.2) [] t.foreignKeys (by simp) h)

/-- The categories of what is said of columns and of foreign keys. -/
def partCategories : List IssueCategory :=
  [.lossyType, .ambiguousMapping, .unsupportedConstraint, .typeMismatch]

/-- What is said of types that differ is about the foreign key. -/
theorem mem_mismatchIssues {d : TargetDialect} {id : TableId} {t parent : Table} {f : ForeignKey}
    {i : Issue} (h : i ∈ mismatchIssues d id t parent f) :
    i.stage = .mapper ∧ i.target = .foreignKey id f.id ∧ i.category ∈ partCategories := by
  obtain ⟨⟨child, referenced⟩, -, hi⟩ := List.mem_filterMap.1 h
  dsimp only at hi
  obtain ⟨a, -, hi⟩ := Option.bind_eq_some_iff.1 hi
  obtain ⟨b, -, hi⟩ := Option.bind_eq_some_iff.1 hi
  split at hi
  · cases hi
  · cases hi
    exact ⟨rfl, rfl, (by decide : IssueCategory.typeMismatch ∈ partCategories)⟩

/-- A finding about a table or about a foreign key it has kept. -/
theorem planKey_issues (m : Model) (id : TableId) (t : Table) (f : ForeignKey) :
    ∀ i ∈ (planKey m id t f).2, i.stage = .mapper ∧ (i.target = .table id
      ∨ i.target = .foreignKey id f.id ∧ (planKey m id t f).1.2.isSome = true) := by
  unfold planKey
  split
  · intro i hi
    cases hi
  · split
    · intro i hi
      rw [List.mem_singleton.1 hi]
      exact ⟨rfl, Or.inl rfl⟩
    · intro i hi
      -- both clauses of a key are told of in the same way
      have haction : ∀ clause declared severity,
          i ∈ actionIssue id t f clause declared severity →
            i.stage = .mapper ∧ i.target = .foreignKey id f.id := by
        intro clause declared severity hi
        cases severity with
        | none => cases hi
        | some severity =>
          rw [List.mem_singleton.1 hi]
          exact ⟨rfl, rfl⟩
      have hall : i.stage = .mapper ∧ i.target = .foreignKey id f.id := by
        rcases List.mem_append.1 hi with hi | hi
        · rcases List.mem_append.1 hi with hi | hi
          · obtain ⟨hs, ht, -⟩ := mem_mismatchIssues hi
            exact ⟨hs, ht⟩
          · exact haction _ _ _ hi
        · exact haction _ _ _ hi
      exact ⟨hall.1, Or.inr ⟨hall.2, rfl⟩⟩

end SchemaBridge.Mapper
