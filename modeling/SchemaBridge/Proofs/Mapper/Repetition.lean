/-
# Mapping again

A mapping drops what an earlier one has said, and says it again of the model as the earlier one has
left it.  Columns, keys and whatever was kept of indexes and foreign keys are found as they were
left, so that a second mapping changes no table and says the same of them.  What was dropped is gone,
and an index that was renamed has a free name now: of these nothing is said a second time.

## Key statements

* `placeAll_again`, `mapTableIndexes_again`, `mapTableForeignKeys_again`: each phase over what it has
  left.
* `map_again`: a second mapping loses the spent findings and changes nothing else.
* `map_again_eq_iff`: when it loses none.
-/
import SchemaBridge.Proofs.Assembly.Runs

namespace SchemaBridge.Mapper

/-- A finding a second mapping does not come to: something of a table was dropped, or an index was
renamed. -/
def isSpent (i : Issue) : Bool :=
  match i.stage, i.category, i.target with
  | .mapper, .nameCollision, _ => true
  | .mapper, .unsupportedConstraint, .table _ => true
  | _, _, _ => false

/-- What another stage says is not spent. -/
theorem isSpent_of_stage {i : Issue} (h : i.stage ≠ .mapper) : isSpent i = false := by
  unfold isSpent
  split
  · exact absurd ‹_› h
  · exact absurd ‹_› h
  · rfl

/-- What is said of a part of a table that keeps its name is not spent. -/
theorem isSpent_of_part {i : Issue} (hcategory : i.category ∈ partCategories)
    (htarget : ∀ id, i.target ≠ .table id) : isSpent i = false := by
  unfold isSpent
  split
  · rename_i _ hcollision
    rw [hcollision] at hcategory
    exact absurd hcategory (by decide)
  · exact absurd ‹_› (htarget _)
  · rfl

/-- Findings without those that are spent. -/
def unspent (l : List Issue) : List Issue := l.filter fun i => !isSpent i

/-- What is not spent of two lists. -/
theorem unspent_append (l l' : List Issue) : unspent (l ++ l') = unspent l ++ unspent l' :=
  List.filter_append l l'

/-- All is kept if nothing is spent. -/
theorem unspent_eq_self_iff {l : List Issue} : unspent l = l ↔ ∀ i ∈ l, isSpent i = false := by
  simp [unspent, List.filter_eq_self]

/-- Nothing is kept if all is spent. -/
theorem unspent_eq_nil {l : List Issue} (h : ∀ i ∈ l, isSpent i = true) : unspent l = [] := by
  simpa [unspent, List.filter_eq_nil_iff] using h

/-- What is not spent stays so. -/
theorem unspent_unspent (l : List Issue) : unspent (unspent l) = unspent l := by
  simp [unspent]

/-- Tables that agree in what the mapper looks at and no phase but the first one changes. -/
structure SameFace (e e' : TableId × Table) : Prop where
  id : e'.1 = e.1
  name : e'.2.name = e.2.name
  columns : e'.2.columns = e.2.columns
  primaryKey : e'.2.primaryKey = e.2.primaryKey

theorem SameFace.trans {e e' e'' : TableId × Table} (h : SameFace e e') (h' : SameFace e' e'') :
    SameFace e e'' :=
  ⟨h'.id.trans h.id, h'.name.trans h.name, h'.columns.trans h.columns,
    h'.primaryKey.trans h.primaryKey⟩

/-! ## Columns and primary keys -/

section Columns

variable {source : SourceDialect} {d : TargetDialect} {synthetic synthetic' : String} {n n' : Nat}
  {id : TableId} {t t' : Table}

/-- What is said of a mapped column is said of it again. -/
theorem columnIssues_mapColumn (table : String) (c : Column) :
    columnIssues source d id table (mapColumn source c) = columnIssues source d id table c := by
  by_cases hs : c.synthetic = true
  · rw [mapColumn, if_pos hs]
  · unfold columnIssues
    rw [mapColumn_synthetic, if_neg hs, if_neg hs]
    unfold mapColumn
    rw [if_neg hs]
    rfl

/-- All that the first phase puts into a table are synthetic columns. -/
theorem placeKey_columns (d : TargetDialect) (synthetic : String) (n : Nat) (id : TableId)
    (t : Table) : ∃ front, (placeKey d synthetic n id t).table.columns = front ++ t.columns
      ∧ ∀ c ∈ front, c.synthetic = true := by
  unfold placeKey
  split
  · exact ⟨[], rfl, List.forall_mem_nil _⟩
  · split
    · exact ⟨[], rfl, List.forall_mem_nil _⟩
    · refine ⟨[_], rfl, fun c hc => ?_⟩
      rw [List.mem_singleton.1 hc]
      rfl

/-- A table that is given a key keeps its name. -/
theorem placeKey_name (d : TargetDialect) (synthetic : String) (n : Nat) (id : TableId)
    (t : Table) : (placeKey d synthetic n id t).table.name = t.name := by
  unfold placeKey
  split
  · rfl
  · split <;> rfl

/-- What is said of a key depends on the name, the columns and the key. -/
theorem keyIssues_congr (hname : t'.name = t.name) (hcolumns : t'.columns = t.columns)
    (hkey : t'.primaryKey = t.primaryKey) : keyIssues d id t' = keyIssues d id t := by
  unfold keyIssues Table.column?
  rw [hname, hcolumns, hkey]

/-- A table that has a key, or a synthetic one, keeps it. -/
theorem placeKey_again (h : SameFace (id, (placeKey d synthetic n id t).table) (id, t')) :
    placeKey d synthetic' n' id t' = ⟨t', n', (placeKey d synthetic n id t).issues⟩ := by
  obtain ⟨-, hname, hcolumns, hkey⟩ := h
  unfold placeKey at hname hcolumns hkey ⊢
  cases hs : t.syntheticKey? with
  | some c =>
    simp only [hs] at hname hcolumns hkey ⊢
    have hs' : t'.syntheticKey? = some c := by
      rw [← hs, Table.syntheticKey?, hcolumns]
      rfl
    simp only [hs', hname]
  | none =>
    by_cases hp : t.hasPrimaryKey = true
    · simp only [hs, hp, if_true] at hname hcolumns hkey ⊢
      have hs' : t'.syntheticKey? = none := by
        rw [← hs, Table.syntheticKey?, hcolumns]
        rfl
      have hp' : t'.hasPrimaryKey = true := by
        rw [← hp, Table.hasPrimaryKey, hkey]
        rfl
      simp only [hs', hp', if_true, keyIssues_congr hname hcolumns hkey]
    · -- the column that was put in front is found as the synthetic key
      simp only [hs, hp] at hname hcolumns hkey ⊢
      have hs' : t'.syntheticKey?
          = some (syntheticColumn d ⟨n⟩ (syntheticName t synthetic)) := by
        rw [Table.syntheticKey?, hcolumns]
        rfl
      simp only [hs', hname]
      rfl

/-- The first phase over a table it has left. -/
theorem place_again (h : SameFace (id, (place source d synthetic n id t).table) (id, t')) :
    place source d synthetic' n' id t' = ⟨t', n', (place source d synthetic n id t).issues⟩ := by
  obtain ⟨front, hfront, hsynthetic⟩ := placeKey_columns d synthetic n id (withColumns source t)
  have hcolumns : t'.columns = front ++ (withColumns source t).columns := h.columns.trans hfront
  have hname : t'.name = t.name := h.name.trans (placeKey_name d synthetic n id _)
  have hself : withColumns source t' = t' := by
    have hmapped : t'.columns.map (mapColumn source) = t'.columns := by
      refine (List.map_congr_left fun c hc => ?_).trans (List.map_id _)
      rw [hcolumns] at hc
      rcases List.mem_append.1 hc with hc | hc
      · rw [mapColumn, if_pos (hsynthetic c hc)]
        rfl
      · obtain ⟨c', -, rfl⟩ := List.mem_map.1 hc
        exact mapColumn_mapColumn source c'
    unfold withColumns
    rw [hmapped]
  have hfound : t'.columns.flatMap (columnIssues source d id t'.name)
      = t.columns.flatMap (columnIssues source d id t.name) := by
    -- a synthetic column in front has no source type to speak of
    have hnone : front.flatMap (columnIssues source d id t.name) = [] := by
      refine List.flatMap_eq_nil_iff.2 fun c hc => ?_
      rw [columnIssues, if_pos (hsynthetic c hc)]
    rw [hname, hcolumns, List.flatMap_append, hnone, List.nil_append, withColumns, List.flatMap_map]
    exact List.flatMap_congr fun c _ => columnIssues_mapColumn t.name c
  have hkey : placeKey d synthetic' n' id t'
      = ⟨t', n', (placeKey d synthetic n id (withColumns source t)).issues⟩ := placeKey_again h
  unfold place
  rw [hself, hkey, hfound]

/-- The first phase over the tables it has left. -/
theorem placeAll_again {l l' : KeyedTables}
    (h : List.Forall₂ SameFace (placeAll source d synthetic n l).tables l') :
    placeAll source d synthetic' n' l' = ⟨l', n', (placeAll source d synthetic n l).issues⟩ := by
  induction l generalizing n l' with
  | nil =>
    cases h
    rfl
  | cons e l ih =>
    obtain ⟨id, t⟩ := e
    cases h with
    | @cons _ e' _ l' hface hrest =>
      obtain ⟨id', t'⟩ := e'
      obtain rfl : id' = id := hface.id
      unfold placeAll
      dsimp only
      rw [place_again hface, ih hrest]

end Columns

/-! ## Indexes -/

section Indexes

/-- What the second phase makes of indexes of a table, given the names in use: the names in use
afterwards, the indexes it keeps and the issues. -/
structure Kept (id : TableId) (t : Table) (used : List String) (l : List Index)
    (used' : List String) (kept : List Index) (found : List Issue) : Prop where
  fold : ∀ s : IndexState, s.used = used →
    l.foldl (keepIndex id t) s = ⟨used', s.kept ++ kept, s.issues ++ found⟩
  short : kept.length ≤ l.length
  spent : ∀ i ∈ found, isSpent i = true
  whole : found = [] ↔ kept = l
  /-- What was kept is kept again, by any table with the same columns. -/
  again : ∀ t' : Table, t'.columns = t.columns → ∀ s : IndexState, s.used = used →
    kept.foldl (keepIndex id t') s = ⟨used', s.kept ++ kept, s.issues⟩

variable {id : TableId} {t : Table} {used used' : List String} {i : Index} {l kept : List Index}
  {found : List Issue}

/-- Of no indexes none is kept. -/
theorem Kept.nil (id : TableId) (t : Table) (used : List String) : Kept id t used [] used [] [] where
  fold := by
    rintro s rfl
    rw [List.append_nil, List.append_nil]
    rfl
  short := Nat.le_refl _
  spent := List.forall_mem_nil _
  whole := iff_of_true rfl rfl
  again := by
    rintro t' - s rfl
    rw [List.append_nil]
    rfl

/-- An index that is dropped. -/
theorem Kept.drop (h : Kept id t used l used' kept found) {c : Column}
    (hu : unkeyableColumn? t.columns i = some c) :
    Kept id t used (i :: l) used' kept (droppedIndexIssue id t.name i c :: found) where
  fold := by
    intro s hs
    have hstep : keepIndex id t s i
        = { s with issues := s.issues ++ [droppedIndexIssue id t.name i c] } := by
      unfold keepIndex
      rw [hu]
    have hs' : ({ s with issues := s.issues ++ [droppedIndexIssue id t.name i c] } : IndexState).used
        = used := hs
    rw [List.foldl_cons, hstep, h.fold _ hs', List.append_assoc]
    rfl
  short := Nat.le_succ_of_le h.short
  spent := List.forall_mem_cons.2 ⟨rfl, h.spent⟩
  whole := by
    refine ⟨nofun, fun heq => ?_⟩
    have hshort := h.short
    rw [heq, List.length_cons] at hshort
    omega
  again := h.again

/-- An index that is kept, under its own name or a free one. -/
theorem Kept.keep (i j : Index) (here : List Issue) (hkeys : j.keys = i.keys)
    (h : Kept id t (Text.lowerText j.name :: used) l used' kept found)
    (hu : unkeyableColumn? t.columns i = none) (hfree : Text.lowerText j.name ∉ used)
    (hstep : ∀ s : IndexState, s.used = used → keepIndex id t s i
      = ⟨Text.lowerText j.name :: used, s.kept ++ [j], s.issues ++ here⟩)
    (hspent : ∀ x ∈ here, isSpent x = true) (hwhole : here = [] ↔ j = i) :
    Kept id t used (i :: l) used' (j :: kept) (here ++ found) where
  fold := by
    intro s hs
    rw [List.foldl_cons, hstep s hs, h.fold _ rfl, List.append_assoc, List.append_assoc]
    rfl
  short := Nat.succ_le_succ h.short
  spent := List.forall_mem_append.2 ⟨hspent, h.spent⟩
  whole := by rw [List.append_eq_nil_iff, List.cons.injEq, hwhole, h.whole]
  again := by
    rintro t' ht' s rfl
    have hu' : unkeyableColumn? t'.columns j = none := by
      rw [ht', ← hu]
      unfold unkeyableColumn?
      rw [hkeys]
    -- the second time its name is taken by no one else, so it is free
    have hagain : keepIndex id t' s j
        = ⟨Text.lowerText j.name :: s.used, s.kept ++ [j], s.issues⟩ := by
      unfold keepIndex
      rw [hu']
      dsimp only
      rw [if_neg (by simpa using hfree)]
    rw [List.foldl_cons, hagain, h.again t' ht' _ rfl, List.append_assoc]
    rfl

/-- The indexes of a table, one after another. -/
theorem exists_kept (id : TableId) (t : Table) (used : List String) (l : List Index) :
    ∃ used' kept found, Kept id t used l used' kept found := by
  -- names that are kept are taken for the indexes after them
  induction l generalizing used with
  | nil => exact ⟨_, _, _, .nil id t used⟩
  | cons i l ih =>
    have hcolumn := column?_planIndex t used i
    cases hplan : planIndex t used i with
    | drop c =>
      rw [hplan] at hcolumn
      obtain ⟨used', kept, found, h⟩ := ih used
      exact ⟨_, _, _, h.drop hcolumn.symm⟩
    | keep name =>
      rw [hplan] at hcolumn
      obtain ⟨used', kept, found, h⟩ := ih (Text.lowerText name :: used)
      refine ⟨_, _, _, .keep i { i with name } (planFindings id t.name (i, .keep name)) rfl h
        hcolumn.symm (not_mem_of_planIndex hplan) ?_ ?_ ?_⟩
      · rintro s rfl
        rw [keepIndex_eq, hplan]
        rfl
      · intro x hx
        rcases mem_planFindings hx with ⟨c, hc, -⟩ | ⟨_, -, rfl⟩
        · cases hc
        · rfl
      · unfold planFindings
        dsimp only
        by_cases hname : name = i.name
        · subst hname
          exact iff_of_true (if_pos rfl) rfl
        · rw [if_neg hname]
          exact iff_of_false (List.cons_ne_nil _ _) fun heq => hname (congrArg Index.name heq)

/-- The second phase over tables it has left. -/
theorem mapTableIndexes_again (used : List String) (l : KeyedTables) {l' : KeyedTables}
    (h : List.Forall₂ (fun e e' => SameFace e e' ∧ e'.2.indexes = e.2.indexes)
      (mapTableIndexes used l).1 l') : mapTableIndexes used l' = (l', []) := by
  induction l generalizing used l' with
  | nil =>
    cases h
    rfl
  | cons e l ih =>
    obtain ⟨id, t⟩ := e
    obtain ⟨used', kept, found, hkept⟩ := exists_kept id t used t.indexes
    unfold mapTableIndexes at h
    rw [hkept.fold _ rfl] at h
    cases h with
    | @cons _ e' _ l' hhead hrest =>
      obtain ⟨id', t'⟩ := e'
      obtain ⟨hface, hindexes⟩ := hhead
      obtain rfl : id' = id := hface.id
      have hagain := hkept.again t' hface.columns ⟨used, [], []⟩ rfl
      have hsame : t'.indexes = kept := hindexes
      unfold mapTableIndexes
      rw [hsame, hagain]
      dsimp only
      rw [ih used' hrest, ← hsame]
      rfl

/-- What is said of indexes is spent. -/
theorem mapTableIndexes_spent (used : List String) (l : KeyedTables) :
    ∀ i ∈ (mapTableIndexes used l).2, isSpent i = true := by
  induction l generalizing used with
  | nil => exact List.forall_mem_nil _
  | cons e l ih =>
    obtain ⟨id, t⟩ := e
    obtain ⟨used', kept, found, hkept⟩ := exists_kept id t used t.indexes
    unfold mapTableIndexes
    rw [hkept.fold _ rfl]
    exact List.forall_mem_append.2 ⟨hkept.spent, ih used'⟩

/-- Nothing is said of indexes exactly when all are kept under their names. -/
theorem mapTableIndexes_whole (used : List String) (l : KeyedTables) :
    (mapTableIndexes used l).2 = []
      ↔ (mapTableIndexes used l).1.map (·.2.indexes) = l.map (·.2.indexes) := by
  induction l generalizing used with
  | nil => exact iff_of_true rfl rfl
  | cons e l ih =>
    obtain ⟨id, t⟩ := e
    obtain ⟨used', kept, found, hkept⟩ := exists_kept id t used t.indexes
    unfold mapTableIndexes
    rw [hkept.fold _ rfl]
    dsimp only
    rw [List.nil_append, List.nil_append, List.append_eq_nil_iff, List.map_cons, List.map_cons,
      List.cons.injEq, hkept.whole, ih used']

end Indexes

/-! ## Foreign keys -/

section ForeignKeys

variable {m m' : Model} {id : TableId} {t t' parent : Table} {f : ForeignKey}

/-- What is said of a foreign key that is dropped is spent; what is said of others is not. -/
theorem isSpent_planKey (m : Model) (id : TableId) (t : Table) (f : ForeignKey) :
    ∀ i ∈ (planKey m id t f).2, isSpent i = (planKey m id t f).1.2.isNone := by
  unfold planKey
  split
  · exact List.forall_mem_nil _
  · split
    · intro i hi
      rw [List.mem_singleton.1 hi]
      rfl
    · intro i hi
      have haction : ∀ clause declared severity, i ∈ actionIssue id t f clause declared severity →
          isSpent i = false := by
        intro clause declared severity hi
        cases severity with
        | none => cases hi
        | some severity =>
          rw [List.mem_singleton.1 hi]
          rfl
      rcases List.mem_append.1 hi with hi | hi
      · rcases List.mem_append.1 hi with hi | hi
        · obtain ⟨-, htarget, hcategory⟩ := mem_mismatchIssues hi
          exact isSpent_of_part hcategory (by rw [htarget]; exact nofun)
        · exact haction _ _ _ hi
      · exact haction _ _ _ hi

/-- Of a foreign key that is dropped nothing else is said. -/
theorem planKey_none (hparent : m.table? f.referencedTable = some parent)
    (hnone : (planKey m id t f).1.2 = none) :
    (planKey m id t f).2 = [droppedKeyIssue id t parent f] := by
  unfold planKey at hnone ⊢
  rw [hparent] at hnone ⊢
  dsimp only at hnone ⊢
  split
  · rfl
  · rename_i h
    rw [if_neg h] at hnone
    cases hnone

/-- Tables with other foreign keys. -/
def rekeyed (g : TableId → Table → List ForeignKey) (l : KeyedTables) : KeyedTables :=
  l.map fun e => (e.1, { e.2 with foreignKeys := g e.1 e.2 })

/-- No foreign key is planned by looking at another one, or at its own actions in the target. -/
theorem planKey_again {g : TableId → Table → List ForeignKey} (htarget : m'.target = m.target)
    (htables : m'.tables = rekeyed g m.tables) (id : TableId) (t : Table) (keys : List ForeignKey)
    (f : ForeignKey) (a : FkAction × FkAction) :
    planKey m' id { t with foreignKeys := keys } (setActions a.1 a.2 f) = planKey m id t f := by
  have hparent : m'.table? f.referencedTable = (m.table? f.referencedTable).map fun t =>
      { t with foreignKeys := g f.referencedTable t } := by
    rw [Model.table?_eq_tableIn, htables]
    exact tableIn_map m.tables (fun k t => { t with foreignKeys := g k t }) _
  have hparent' : m'.table? (setActions a.1 a.2 f).referencedTable = _ := hparent
  unfold planKey
  rw [hparent', htarget]
  cases m.table? f.referencedTable <;> rfl

/-- What is said of the foreign keys of a table, one after another. -/
theorem mapTableForeignKeys_issues (m : Model) (id : TableId) (t : Table) :
    (mapTableForeignKeys m id t).2 = t.foreignKeys.flatMap fun f => (planKey m id t f).2 := by
  unfold mapTableForeignKeys
  exact List.flatMap_map ..

/-- Plans that are made of a kept foreign key as of the one it was: what was kept is kept again, and
of it the same is said. -/
theorem plans_again {plan plan' : ForeignKey → KeyPlan × List Issue}
    (hplan : ∀ f (a : FkAction × FkAction), plan' (setActions a.1 a.2 f) = plan f)
    (hspent : ∀ f, ∀ i ∈ (plan f).2, isSpent i = (plan f).1.2.isNone) (l : List ForeignKey) :
    let kept := l.filterMap fun f => planned (plan f).1.2 f
    kept.filterMap (fun f => planned (plan' f).1.2 f) = kept
      ∧ (kept.flatMap fun f => (plan' f).2) = unspent (l.flatMap fun f => (plan f).2) := by
  induction l with
  | nil => exact ⟨rfl, rfl⟩
  | cons f l ih =>
    obtain ⟨hkept, hissues⟩ := ih
    have hf := hspent f
    dsimp only at hkept hissues ⊢
    rw [List.filterMap_cons, List.flatMap_cons, unspent_append]
    cases hd : (plan f).1.2 with
    | none =>
      rw [hd] at hf
      rw [unspent_eq_nil hf, List.nil_append]
      exact ⟨hkept, hissues⟩
    | some a =>
      rw [hd] at hf
      rw [unspent_eq_self_iff.2 hf]
      -- of a key that is kept the actions are already those of the target
      have hagain : planned (plan' (setActions a.1 a.2 f)).1.2 (setActions a.1 a.2 f)
          = some (setActions a.1 a.2 f) := by
        rw [hplan, hd]
        rfl
      constructor
      · show List.filterMap _ (setActions a.1 a.2 f :: _) = setActions a.1 a.2 f :: _
        rw [List.filterMap_cons, hagain, hkept]
      · show List.flatMap _ (setActions a.1 a.2 f :: _) = _
        rw [List.flatMap_cons, hplan, hissues]

/-- The third phase over a table it has left. -/
theorem mapTableForeignKeys_again {g : TableId → Table → List ForeignKey}
    (htarget : m'.target = m.target) (htables : m'.tables = rekeyed g m.tables) (id : TableId)
    {t : Table} (h : (t.foreignKeys.map (·.id)).Nodup) :
    mapTableForeignKeys m' id { t with foreignKeys := keptKeys m id t }
      = ({ t with foreignKeys := keptKeys m id t }, unspent (mapTableForeignKeys m id t).2) := by
  have hnodup : ((keptKeys m id t).map (·.id)).Nodup := (map_id_keptKeys m id t).nodup h
  obtain ⟨hkept, hissues⟩ := plans_again (planKey_again htarget htables id t (keptKeys m id t))
    (isSpent_planKey m id t) t.foreignKeys
  refine Prod.ext ?_ ?_
  · rw [mapTableForeignKeys_eq m' id _ hnodup]
    exact congrArg (fun l => { t with foreignKeys := l }) hkept
  · rw [mapTableForeignKeys_issues, mapTableForeignKeys_issues]
    exact hissues

/-- Every key was kept exactly when nothing spent was said of any. -/
theorem map_id_keptKeys_eq_iff {id : TableId} {t : Table}
    (hparents : ∀ f ∈ t.foreignKeys, (m.table? f.referencedTable).isSome = true) :
    (keptKeys m id t).map (·.id) = t.foreignKeys.map (·.id)
      ↔ ∀ i ∈ (mapTableForeignKeys m id t).2, isSpent i = false := by
  -- kept keys are a sublist, so they are all of them if they are as many
  have hlength : (keptKeys m id t).map (·.id) = t.foreignKeys.map (·.id)
      ↔ ∀ f ∈ t.foreignKeys, (planKey m id t f).1.2.isSome = true := by
    have hplanned : ∀ f : ForeignKey, (planned (planKey m id t f).1.2 f).isSome
        = (planKey m id t f).1.2.isSome := fun f => Option.isSome_map
    simp only [← hplanned, ← List.filterMap_length_eq_length]
    constructor
    · intro heq
      simpa [keptKeys] using congrArg List.length heq
    · intro heq
      exact (map_id_keptKeys m id t).eq_of_length (by simpa [keptKeys] using heq)
  rw [hlength, mapTableForeignKeys_issues]
  constructor
  · intro hall i hi
    obtain ⟨f, hf, hi⟩ := List.mem_flatMap.1 hi
    rw [isSpent_planKey m id t f i hi, Option.isNone_eq_false_iff]
    exact hall f hf
  · intro hnone f hf
    by_contra hdropped
    obtain ⟨parent, hparent⟩ := Option.isSome_iff_exists.1 (hparents f hf)
    have hissue := planKey_none hparent (Option.not_isSome_iff_eq_none.1 hdropped)
    have hfalse := hnone (droppedKeyIssue id t parent f)
      (List.mem_flatMap.2 ⟨f, hf, by rw [hissue]; exact List.mem_cons_self⟩)
    cases hfalse

end ForeignKeys

/-! ## The whole mapping -/

/-- What the first phase says is said by the mapper, and not spent. -/
theorem place_lasting (source : SourceDialect) (d : TargetDialect) (synthetic : String) (n : Nat)
    (id : TableId) (t : Table) :
    ∀ i ∈ (place source d synthetic n id t).issues, i.stage = .mapper ∧ isSpent i = false := by
  intro i hi
  rcases List.mem_append.1 hi with hi | hi
  · obtain ⟨c, -, hi⟩ := List.mem_flatMap.1 hi
    obtain ⟨hs, htarget, hcategory⟩ := mem_columnIssues hi
    exact ⟨hs, isSpent_of_part hcategory (by rw [htarget]; exact nofun)⟩
  · unfold placeKey at hi
    split at hi
    · rw [List.mem_singleton.1 hi]
      exact ⟨rfl, rfl⟩
    · split at hi
      · obtain ⟨hs, hcategory, c, -, htarget⟩ := mem_keyIssues hi
        exact ⟨hs, isSpent_of_part hcategory (by rw [htarget]; exact nofun)⟩
      · rw [List.mem_singleton.1 hi]
        exact ⟨rfl, rfl⟩

/-- What is said of columns and keys is not spent. -/
theorem placeAll_lasting (source : SourceDialect) (d : TargetDialect) (synthetic : String) (n : Nat)
    (l : KeyedTables) :
    ∀ i ∈ (placeAll source d synthetic n l).issues, i.stage = .mapper ∧ isSpent i = false := by
  induction l generalizing n with
  | nil => exact List.forall_mem_nil _
  | cons e l ih =>
    obtain ⟨id, t⟩ := e
    exact List.forall_mem_append.2 ⟨place_lasting source d synthetic n id t, ih _⟩

/-- The names the tables of a list have, as the second phase compares them. -/
def foldedNames (l : KeyedTables) : List String := l.map fun e => Text.lowerText e.2.name

/-- Names depend on the faces of tables. -/
theorem foldedNames_congr {l l' : KeyedTables} (h : List.Forall₂ SameFace l l') :
    foldedNames l' = foldedNames l := by
  induction h with
  | nil => rfl
  | cons hface _ ih =>
    unfold foldedNames at ih ⊢
    rw [List.map_cons, List.map_cons, ih, hface.name]

/-- What the first phase makes of a model. -/
def placed (synthetic : String) (m : Model) : PlacedAll :=
  placeAll m.source m.target synthetic m.nextId m.tables

/-- What the second phase makes of the tables the first one has left. -/
def indexedTables (synthetic : String) (m : Model) : KeyedTables × List Issue :=
  mapTableIndexes (foldedNames (placed synthetic m).tables) (placed synthetic m).tables

/-- What the third phase says. -/
def keyFindings (m : Model) : List Issue :=
  m.tables.flatMap fun e => (mapTableForeignKeys m e.1 e.2).2

/-- The first two phases, in terms of the tables. -/
theorem indexed_eq {m : Model} (h : (m.tables.map (·.1)).Nodup) (synthetic : String) :
    indexed synthetic m = { m with
      tables := (indexedTables synthetic m).1
      nextId := (placed synthetic m).nextId
      issues := (m.clearIssues .mapper).issues ++ (placed synthetic m).issues
        ++ (indexedTables synthetic m).2 } := by
  have hplaced := foldl_mapTable synthetic (m.clearIssues .mapper) h
  have hnames (l : KeyedTables) : (l.map (·.2)).map (fun t => Text.lowerText t.name)
      = foldedNames l := by
    rw [List.map_map]
    rfl
  unfold indexed
  rw [Model.clearIssues_tables] at hplaced
  rw [hplaced]
  unfold mapIndexes Model.tableList
  simp only [hnames]
  rfl

/-- The foreign keys of the tables of a list. -/
def keysIn (l : KeyedTables) : List (TableId × List ForeignKey) :=
  l.map fun e => (e.1, e.2.foreignKeys)

/-- The identifiers of foreign keys are part of them. -/
theorem keyIds_congr {l l' : KeyedTables} (h : keysIn l' = keysIn l) :
    l'.map (fun e => e.2.foreignKeys.map (·.id)) = l.map fun e => e.2.foreignKeys.map (·.id) := by
  have hids := congrArg (List.map fun k => k.2.map (·.id)) h
  rwa [keysIn, keysIn, List.map_map, List.map_map] at hids

/-- The first phase leaves indexes and foreign keys alone. -/
theorem place_takesNothing (source : SourceDialect) (d : TargetDialect) (synthetic : String)
    (n : Nat) (id : TableId) (t : Table) :
    (place source d synthetic n id t).table.indexes = t.indexes
      ∧ (place source d synthetic n id t).table.foreignKeys = t.foreignKeys := by
  unfold place placeKey
  dsimp only
  split
  · exact ⟨rfl, rfl⟩
  · split <;> exact ⟨rfl, rfl⟩

/-- Placing tables leaves foreign keys. -/
theorem keysIn_placeAll (source : SourceDialect) (d : TargetDialect) (synthetic : String) (n : Nat)
    (l : KeyedTables) : keysIn (placeAll source d synthetic n l).tables = keysIn l := by
  induction l generalizing n with
  | nil => rfl
  | cons e l ih =>
    obtain ⟨id, t⟩ := e
    show (id, (place source d synthetic n id t).table.foreignKeys) :: keysIn _ = _
    rw [(place_takesNothing source d synthetic n id t).2, ih]
    rfl

/-- So does the second phase with foreign keys. -/
theorem keysIn_mapTableIndexes (used : List String) (l : KeyedTables) :
    keysIn (mapTableIndexes used l).1 = keysIn l := by
  have hkept := mapTableIndexes_tables used l
  generalize (mapTableIndexes used l).1 = l' at hkept
  induction hkept with
  | nil => rfl
  | cons hhead _ ih =>
    obtain ⟨hid, kept, htable, -⟩ := hhead
    unfold keysIn at ih ⊢
    rw [List.map_cons, List.map_cons, ih, hid, htable]

theorem keysIn_indexed {m : Model} (h : (m.tables.map (·.1)).Nodup) (synthetic : String) :
    keysIn (indexed synthetic m).tables = keysIn m.tables := by
  rw [indexed_eq h]
  exact (keysIn_mapTableIndexes _ _).trans (keysIn_placeAll _ _ _ _ _)

/-- The third phase, in terms of the tables. -/
theorem mapForeignKeys_eq {m : Model}
    (h : ∀ e ∈ m.tables, (e.2.foreignKeys.map (·.id)).Nodup) : mapForeignKeys m = { m with
      tables := rekeyed (keptKeys m) m.tables
      issues := m.issues ++ keyFindings m } := by
  have htables : (mapForeignKeys m).tables = rekeyed (keptKeys m) m.tables := by
    rw [mapForeignKeys_tables]
    refine List.map_congr_left fun e he => ?_
    rw [mapTableForeignKeys_eq m e.1 e.2 (h e he)]
  rw [← htables, keyFindings, ← mapForeignKeys_issues]
  rfl

section Whole

variable {m : Model}

/-- A mapping, in terms of what the first two phases have left. -/
theorem map_indexed (h : m.Sound) (synthetic : String) : map synthetic m = { indexed synthetic m with
    tables := rekeyed (keptKeys (indexed synthetic m)) (indexed synthetic m).tables
    issues := (indexed synthetic m).issues ++ keyFindings (indexed synthetic m) } :=
  mapForeignKeys_eq fun _ he => nodup_foreignKeys (sound_indexed h synthetic).1 he

/-- A mapping, in terms of the tables. -/
theorem map_eq (h : m.Sound) (synthetic : String) : map synthetic m = { m with
    tables := rekeyed (keptKeys (indexed synthetic m)) (indexedTables synthetic m).1
    nextId := (placed synthetic m).nextId
    issues := (m.clearIssues .mapper).issues ++ (placed synthetic m).issues
      ++ (indexedTables synthetic m).2 ++ keyFindings (indexed synthetic m) } := by
  rw [map_indexed h]
  generalize keyFindings (indexed synthetic m) = found
  generalize keptKeys (indexed synthetic m) = kept
  rw [indexed_eq h.nodup_keys]

/-- The mapping itself speaks of foreign keys. -/
theorem stage_keyFindings (m : Model) : ∀ i ∈ keyFindings m, i.stage = .mapper := by
  intro i hi
  obtain ⟨e, -, hi⟩ := List.mem_flatMap.1 hi
  rw [mapTableForeignKeys_issues] at hi
  obtain ⟨f, -, hi⟩ := List.mem_flatMap.1 hi
  exact (planKey_issues m e.1 e.2 f i hi).1

theorem stage_indexedTables (synthetic : String) (m : Model) :
    ∀ i ∈ (indexedTables synthetic m).2, i.stage = .mapper := by
  intro i hi
  by_contra hs
  have hspent := mapTableIndexes_spent _ _ i hi
  rw [isSpent_of_stage hs] at hspent
  cases hspent

/-- What other stages have said is left alone. -/
theorem clearIssues_map (h : m.Sound) (synthetic : String) :
    ((map synthetic m).clearIssues .mapper).issues = (m.clearIssues .mapper).issues := by
  have hnone {l : List Issue} (hl : ∀ i ∈ l, i.stage = .mapper) :
      l.filter (fun i => i.stage ≠ .mapper) = [] := by
    simpa [List.filter_eq_nil_iff] using hl
  have hplaced : ∀ i ∈ (placed synthetic m).issues, i.stage = .mapper := fun i hi =>
    (placeAll_lasting _ _ _ _ _ i hi).1
  rw [map_eq h synthetic]
  unfold Model.clearIssues
  dsimp only
  rw [List.filter_append, List.filter_append, List.filter_append, hnone hplaced,
    hnone (stage_indexedTables synthetic m), hnone (stage_keyFindings _), List.filter_filter]
  simp

/-- Nothing is spent after the mapping's issues have been dropped. -/
theorem isSpent_clearIssues (m : Model) :
    ∀ i ∈ (m.clearIssues .mapper).issues, isSpent i = false := by
  intro i hi
  exact isSpent_of_stage (by simpa using (List.mem_filter.1 hi).2)

/-- Nothing is spent after tables have been placed. -/
theorem isSpent_placed (synthetic : String) (m : Model) :
    ∀ i ∈ (placed synthetic m).issues, isSpent i = false := fun i hi =>
  (placeAll_lasting _ _ _ _ _ i hi).2

/-- All that is said of indexes is spent. -/
theorem isSpent_indexedTables (synthetic : String) (m : Model) :
    ∀ i ∈ (indexedTables synthetic m).2, isSpent i = true :=
  mapTableIndexes_spent _ _

/-- What a mapping has said and a second one says again. -/
theorem unspent_map (h : m.Sound) (synthetic : String) : unspent (map synthetic m).issues
    = (m.clearIssues .mapper).issues ++ (placed synthetic m).issues
      ++ unspent (keyFindings (indexed synthetic m)) := by
  rw [map_eq h synthetic]
  simp only [unspent_append]
  rw [unspent_eq_self_iff.2 (isSpent_clearIssues m),
    unspent_eq_self_iff.2 (isSpent_placed synthetic m),
    unspent_eq_nil (isSpent_indexedTables synthetic m), List.append_nil]

/-- Nothing a mapping has said is spent when it has said nothing of indexes and nothing spent of
foreign keys. -/
theorem isSpent_map_iff (h : m.Sound) (synthetic : String) :
    (∀ i ∈ (map synthetic m).issues, isSpent i = false) ↔ (indexedTables synthetic m).2 = []
      ∧ ∀ i ∈ keyFindings (indexed synthetic m), isSpent i = false := by
  rw [map_eq h synthetic]
  simp only [List.forall_mem_append]
  constructor
  · rintro ⟨⟨-, hindexes⟩, hkeys⟩
    refine ⟨List.eq_nil_iff_forall_not_mem.2 fun i hi => ?_, hkeys⟩
    have hspent := isSpent_indexedTables synthetic m i hi
    rw [hindexes i hi] at hspent
    cases hspent
  · rintro ⟨hnil, hkeys⟩
    rw [hnil]
    exact ⟨⟨⟨isSpent_clearIssues m, isSpent_placed synthetic m⟩, List.forall_mem_nil _⟩, hkeys⟩

/-- A mapped table, beside what the second phase has left of it. -/
theorem sameFace_rekeyed {l l' : KeyedTables} (g : TableId → Table → List ForeignKey)
    (h : List.Forall₂ SameFace l l') : List.Forall₂ SameFace l (rekeyed g l') :=
  List.forall₂_map_right_iff.2 (h.imp fun _ _ hface => hface.trans ⟨rfl, rfl, rfl, rfl⟩)

/-- The first two phases over a mapped model. -/
theorem indexed_map (h : m.Sound) (synthetic synthetic' : String) :
    indexed synthetic' (map synthetic m) = { map synthetic m with
      issues := (m.clearIssues .mapper).issues ++ (placed synthetic m).issues } := by
  have hmap := map_eq h synthetic
  -- the first phase looks at names, columns and keys only, which the others leave
  have hfaces : List.Forall₂ SameFace (placed synthetic m).tables (map synthetic m).tables := by
    rw [hmap]
    refine sameFace_rekeyed _ ((mapTableIndexes_tables _ _).imp ?_)
    rintro e e' ⟨hid, kept, he, -⟩
    exact ⟨hid, by rw [he], by rw [he], by rw [he]⟩
  have hplaced : placed synthetic' (map synthetic m)
      = ⟨(map synthetic m).tables, (map synthetic m).nextId, (placed synthetic m).issues⟩ := by
    have hsource : (map synthetic m).source = m.source := by rw [hmap]
    have htarget : (map synthetic m).target = m.target := by rw [hmap]
    rw [placed, hsource, htarget]
    exact placeAll_again hfaces
  have hindexes : indexedTables synthetic' (map synthetic m) = ((map synthetic m).tables, []) := by
    have hsame : List.Forall₂ (fun e e' => SameFace e e' ∧ e'.2.indexes = e.2.indexes)
        (indexedTables synthetic m).1 (map synthetic m).tables := by
      rw [hmap]
      exact List.forall₂_map_right_iff.2 (List.forall₂_same.2 fun _ _ =>
        ⟨⟨rfl, rfl, rfl, rfl⟩, rfl⟩)
    rw [indexedTables, hplaced]
    dsimp only
    rw [foldedNames_congr hfaces]
    exact mapTableIndexes_again _ _ hsame
  rw [indexed_eq (sound_map h synthetic).nodup_keys, hplaced, hindexes, clearIssues_map h,
    List.append_nil]

/-- **Mapping again.**  A second mapping of a sound model changes no table and gives out no
identifier; it loses the findings that are spent and says the others again, in their order. -/
theorem map_again (h : m.Sound) (synthetic synthetic' : String) :
    map synthetic' (map synthetic m)
      = { map synthetic m with issues := unspent (map synthetic m).issues } := by
  have hindexed := indexed_map h synthetic synthetic'
  have htables : (indexed synthetic' (map synthetic m)).tables
      = rekeyed (keptKeys (indexed synthetic m)) (indexed synthetic m).tables := by
    rw [hindexed]
    exact congrArg Model.tables (map_indexed h synthetic)
  have htarget : (indexed synthetic' (map synthetic m)).target = (indexed synthetic m).target := by
    rw [hindexed]
    show (map synthetic m).target = _
    rw [map_indexed h]
  -- the keys that are left refer to keys of the mapped model, so a second run keeps them
  have hagain := fun e he => mapTableForeignKeys_again htarget htables e.1
    (nodup_foreignKeys (sound_indexed h synthetic).1 (e := e) he)
  have hleft : (mapForeignKeys (indexed synthetic' (map synthetic m))).tables
      = (indexed synthetic' (map synthetic m)).tables := by
    rw [mapForeignKeys_tables, htables, rekeyed, List.map_map]
    refine List.map_congr_left fun e he => ?_
    exact congrArg (fun x => (e.1, x.1)) (hagain e he)
  have hfound : keyFindings (indexed synthetic' (map synthetic m))
      = unspent (keyFindings (indexed synthetic m)) := by
    unfold keyFindings unspent
    rw [htables, rekeyed, List.flatMap_map, List.filter_flatMap]
    refine List.flatMap_congr fun e he => ?_
    exact congrArg (·.2) (hagain e he)
  have hissues : (mapForeignKeys (indexed synthetic' (map synthetic m))).issues
      = unspent (map synthetic m).issues := by
    rw [mapForeignKeys_issues, unspent_map h, ← hfound, hindexed]
    rfl
  show { indexed synthetic' (map synthetic m) with
    tables := (mapForeignKeys (indexed synthetic' (map synthetic m))).tables
    issues := (mapForeignKeys (indexed synthetic' (map synthetic m))).issues } = _
  rw [hleft, hissues, hindexed]

/-- Tables of which nothing was taken: every index is there under its name, and every foreign key. -/
structure KeepsAll (l l' : KeyedTables) : Prop where
  indexes : l'.map (·.2.indexes) = l.map (·.2.indexes)
  foreignKeys : l'.map (fun e => e.2.foreignKeys.map (·.id))
    = l.map fun e => e.2.foreignKeys.map (·.id)

/-- The first phase takes nothing. -/
theorem keepsAll_placeAll (source : SourceDialect) (d : TargetDialect) (synthetic : String) (n : Nat)
    (l : KeyedTables) : KeepsAll l (placeAll source d synthetic n l).tables where
  indexes := by
    induction l generalizing n with
    | nil => rfl
    | cons e l ih =>
      obtain ⟨id, t⟩ := e
      show (place source d synthetic n id t).table.indexes :: _ = _
      rw [(place_takesNothing source d synthetic n id t).1, ih]
      rfl
  foreignKeys := keyIds_congr (keysIn_placeAll source d synthetic n l)

/-- The second phase takes indexes, the third foreign keys; when they take none, nothing that was
said is spent. -/
theorem keepsAll_map_iff (h : m.Sound) (synthetic : String) :
    KeepsAll m.tables (map synthetic m).tables
      ↔ ∀ i ∈ (map synthetic m).issues, isSpent i = false := by
  have hmap := map_eq h synthetic
  have hplaced := keepsAll_placeAll m.source m.target synthetic m.nextId m.tables
  have hsound := (sound_indexed h synthetic).1
  have htables : (indexed synthetic m).tables = (indexedTables synthetic m).1 := by
    rw [indexed_eq h.nodup_keys]
  -- nothing is said of indexes when all are kept
  have hindexes : (map synthetic m).tables.map (·.2.indexes) = m.tables.map (·.2.indexes)
      ↔ (indexedTables synthetic m).2 = [] := by
    have hleft : (map synthetic m).tables.map (·.2.indexes)
        = (indexedTables synthetic m).1.map (·.2.indexes) := by
      rw [hmap, rekeyed, List.map_map]
      rfl
    rw [hleft, ← hplaced.indexes]
    exact (mapTableIndexes_whole _ _).symm
  -- and nothing spent of foreign keys
  have hkeys : (map synthetic m).tables.map (fun e => e.2.foreignKeys.map (·.id))
        = m.tables.map (fun e => e.2.foreignKeys.map (·.id))
      ↔ ∀ i ∈ keyFindings (indexed synthetic m), isSpent i = false := by
    have hleft : (map synthetic m).tables.map (fun e => e.2.foreignKeys.map (·.id))
        = (indexed synthetic m).tables.map fun e =>
          (keptKeys (indexed synthetic m) e.1 e.2).map (·.id) := by
      rw [hmap, htables, rekeyed, List.map_map]
      rfl
    have hright : m.tables.map (fun e => e.2.foreignKeys.map (·.id))
        = (indexed synthetic m).tables.map fun e => e.2.foreignKeys.map (·.id) :=
      (keyIds_congr (keysIn_indexed h.nodup_keys synthetic)).symm
    rw [hleft, hright, List.map_inj_left, keyFindings, List.forall_mem_flatMap]
    refine forall₂_congr fun e he => map_id_keptKeys_eq_iff fun f hf => ?_
    obtain ⟨parent, hparent, -⟩ := ((hsound.refers e he).foreignKeys f hf).parent
    rw [Model.table?_eq_tableIn, hparent]
    rfl
  rw [isSpent_map_iff h, ← hindexes, ← hkeys]
  exact ⟨fun hk => ⟨hk.1, hk.2⟩, fun hk => ⟨hk.1, hk.2⟩⟩

/-- A second mapping changes nothing at all exactly when the first one has kept every index under its
name and every foreign key. -/
theorem map_again_eq_iff (h : m.Sound) (synthetic synthetic' : String) :
    map synthetic' (map synthetic m) = map synthetic m
      ↔ KeepsAll m.tables (map synthetic m).tables := by
  rw [keepsAll_map_iff h, map_again h, ← unspent_eq_self_iff]
  exact ⟨fun heq => congrArg Model.issues heq, fun heq => by rw [heq]⟩

end Whole

end SchemaBridge.Mapper

namespace SchemaBridge

/-! ## Models of a builder -/

/-- **What mapping repeatedly does.**  A second mapping of what a builder has made changes no table
and loses the findings that are spent: that an index or a foreign key was dropped, and that an index
was renamed.  It changes nothing at all exactly when every index was kept under its name, and every
foreign key.  From the second one on all mappings are the same. -/
theorem Builder.IsBuilt.map_repeatedly {b : Builder} (h : b.IsBuilt)
    (synthetic synthetic' synthetic'' : String) :
    Mapper.map synthetic' (Mapper.map synthetic b.finish) = { Mapper.map synthetic b.finish with
      issues := Mapper.unspent (Mapper.map synthetic b.finish).issues }
    ∧ (Mapper.map synthetic' (Mapper.map synthetic b.finish) = Mapper.map synthetic b.finish
      ↔ Mapper.KeepsAll b.finish.tables (Mapper.map synthetic b.finish).tables)
    ∧ Mapper.map synthetic'' (Mapper.map synthetic' (Mapper.map synthetic b.finish))
      = Mapper.map synthetic' (Mapper.map synthetic b.finish) := by
  have hfinished := h.sound.finish.1
  refine ⟨Mapper.map_again hfinished _ _, Mapper.map_again_eq_iff hfinished _ _, ?_⟩
  have hmapped := Mapper.sound_map hfinished synthetic
  rw [Mapper.map_again hmapped synthetic' synthetic'', Mapper.map_again hfinished synthetic]
  show ({ Mapper.map synthetic b.finish with issues := Mapper.unspent (Mapper.unspent _) } : Model)
    = _
  rw [Mapper.unspent_unspent]

/-- Tables with an index that has to be renamed, one on a column that cannot be part of a key, and a
foreign key to a column that is no key. -/
def crowdedBuilder : Builder :=
  ((Builder.start .postgres .google .rename (Audit.start "request" ⟨0, 0⟩)).addTable
    { TableDraft.empty none "p" with
      columns := [.plain "x" ⟨"integer", [], [], 0, "integer"⟩]
      indexes := [⟨some "i", [("x", false)], false⟩] }).2.addTable
    { TableDraft.empty none "c" with
      columns := [.plain "a" ⟨"integer", [], [], 0, "integer"⟩, .plain "j" ⟨"json", [], [], 0, "json"⟩]
      primaryKey := [("a", false)]
      indexes := [⟨some "i", [("a", false)], false⟩, ⟨some "k", [("j", false)], false⟩]
      foreignKeys := [⟨none, ["a"], none, "p", ["x"], .noAction, .noAction⟩] } |>.2

/-- What the first mapping of these tables says and a second one does not. -/
def crowdedFindings : List String :=
  ["Index i on c renamed to c_i: index names must be unique.",
    "Index k on c dropped: column j cannot be indexed.",
    "Foreign key fk_c_a on c dropped: referenced columns (x) are not a primary or unique key of "
      ++ "p."]

/-- The builder with the tables is reached. -/
theorem isBuilt_crowdedBuilder : crowdedBuilder.IsBuilt :=
  .addTable (.addTable (.start _ _ _ _) _) _

/-- A second mapping says less than the first one. -/
theorem map_crowdedBuilder_ne : crowdedBuilder.IsBuilt
    ∧ Mapper.map "id" (Mapper.map "id" crowdedBuilder.finish)
      ≠ Mapper.map "id" crowdedBuilder.finish :=
  ⟨isBuilt_crowdedBuilder, by decide +kernel⟩

theorem map_repeatedly_crowdedBuilder :
    crowdedBuilder.IsBuilt
      ∧ ((Mapper.map "id" crowdedBuilder.finish).issues.filter Mapper.isSpent).map (·.detail)
        = crowdedFindings
      ∧ (Mapper.map "id" (Mapper.map "id" crowdedBuilder.finish)).issues.map (·.detail)
        = ["p has no primary key; added synthetic key column id (UUID)."]
      ∧ Mapper.map "id" (Mapper.map "id" (Mapper.map "id" crowdedBuilder.finish))
        = Mapper.map "id" (Mapper.map "id" crowdedBuilder.finish)
      ∧ ¬ Mapper.KeepsAll crowdedBuilder.finish.tables
        (Mapper.map "id" crowdedBuilder.finish).tables := by
  obtain ⟨hsecond, hiff, hthird⟩ := isBuilt_crowdedBuilder.map_repeatedly "id" "id" "id"
  have hspent : ((Mapper.map "id" crowdedBuilder.finish).issues.filter Mapper.isSpent).map (·.detail)
      = crowdedFindings := by decide +kernel
  have hleft : (Mapper.map "id" (Mapper.map "id" crowdedBuilder.finish)).issues.map (·.detail)
      = ["p has no primary key; added synthetic key column id (UUID)."] := by
    rw [hsecond]
    decide +kernel
  refine ⟨isBuilt_crowdedBuilder, hspent, hleft, hthird, fun hkeeps => ?_⟩
  -- if all were kept, nothing spent would have been said
  have hsame := hiff.2 hkeeps
  have hlength := congrArg (fun m => m.issues.length) hsame
  revert hlength
  decide +kernel

end SchemaBridge
