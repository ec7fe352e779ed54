/-
# Foreign keys of a mapped model

The third phase decides on the foreign keys of all tables before it takes any away, and looks for
keys in the tables as the first two have left them: with synthetic keys, and without the unique
indexes that were dropped.  Nothing it does afterwards changes what is a key, so that what it has
decided can be read off the mapped model.

## Key statements

* `refersToKey_map`: what refers to a key after two phases does so after the third.
* `keptKeys_eq`: the foreign keys that remain.
* `filter_isKeyFinding_map`: among the findings of a mapping, those of the third phase.
* `map_foreignKeys`: what a mapping does with the foreign keys of a table.
* `refersToKey_of_mem_map`, `exists_key_of_mem`: what a foreign key that remains refers to.
-/
import SchemaBridge.Proofs.Mapper.Repetition
import SchemaBridge.Proofs.Schema.Validity

namespace SchemaBridge

/-- Whether a foreign key refers to a primary or unique key of a table of the model. -/
def Model.refersToKey (m : Model) (f : ForeignKey) : Bool :=
  (m.table? f.referencedTable).any fun p => p.isUniqueKey f.referencedColumns

/-- The type a column has in the target. -/
def Table.targetType? (t : Table) (c : ColumnId) : Option TargetType :=
  (t.column? c).bind (·.targetType)

/-- A foreign key as the source has declared it. -/
def ForeignKey.asDeclared (f : ForeignKey) : ForeignKey :=
  { f with onDelete := .declared f.onDelete.source, onUpdate := .declared f.onUpdate.source }

namespace Mapper

/-! ## What is said of foreign keys -/

/-- The findings of the mapper about an object. -/
def findingsAbout (m : Model) (target : IssueTarget) : List Issue :=
  (m.issuesFor target).filter fun i => i.stage = .mapper

/-- Whether a finding about a table is about a foreign key it had. -/
def tellsOfKey (i : Issue) : Bool :=
  i.category = .unsupportedConstraint && "Foreign key ".toList.isPrefixOf i.detail.toList

/-- Whether the columns of a pair have types of different kinds in the target. -/
def pairDiffers (t parent : Table) (pair : ColumnId × ColumnId) : Bool :=
  (t.targetType? pair.1).any fun a =>
    (parent.targetType? pair.2).any fun b => a.kind ≠ b.kind || a.array ≠ b.array

/-- A finding that the columns of a pair have types of different kinds. -/
def TellsOfPair (d : TargetDialect) (id : TableId) (t parent : Table) (f : ForeignKey)
    (pair : ColumnId × ColumnId) (i : Issue) : Prop :=
  ∃ a b, t.targetType? pair.1 = some a ∧ parent.targetType? pair.2 = some b
    ∧ i = issue .typeMismatch (.foreignKey id f.id)
      ("Foreign key " ++ f.name ++ ": " ++ t.name ++ "." ++ t.columnName pair.1 ++ " is "
        ++ a.render d ++ " but " ++ parent.name ++ "." ++ parent.columnName pair.2 ++ " is "
        ++ b.render d ++ ".")

/-- What is to be said of a clause: nothing if the target has the declared action. -/
def clauseFindings (id : TableId) (t : Table) (f : ForeignKey) (clause : String) (p : FkPolicy) :
    List Issue :=
  if p.target = some p.source then []
  else
    [{ category := .unsupportedConstraint
       severity := if p.source = .restrict then .info else .warning
       stage := .mapper
       target := .foreignKey id f.id
       detail := "Foreign key " ++ f.name ++ " on " ++ t.name ++ ": " ++ clause ++ " "
        ++ p.source.sql ++ " is not supported; using NO ACTION." }]

/-- A foreign key that remains: as it was declared, and with actions the target knows. -/
structure IsMappedKey (f f' : ForeignKey) : Prop where
  declared : f'.asDeclared = f.asDeclared
  onDelete : f'.onDelete.target
    = some (if f.onDelete.source = .cascade then .cascade else .noAction)
  onUpdate : f'.onUpdate.target = some .noAction

/-- What is said of a foreign key that remains in a table of a mapped model: one finding for each
pair of columns of different kinds, and one for each clause with another action. -/
def HasKeyFindings (m' : Model) (id : TableId) (t' : Table) (f' : ForeignKey) : Prop :=
  ∃ parent mismatches, m'.table? f'.referencedTable = some parent
    ∧ List.Forall₂ (TellsOfPair m'.target id t' parent f')
      ((f'.columns.zip f'.referencedColumns).filter (pairDiffers t' parent)) mismatches
    ∧ findingsAbout m' (.foreignKey id f'.id) = mismatches
      ++ clauseFindings id t' f' "ON DELETE" f'.onDelete
      ++ clauseFindings id t' f' "ON UPDATE" f'.onUpdate

/-- What a mapping makes of the foreign keys of a table: `t` is the table before and `t'` the one
under the same identifier in the mapped model. -/
structure ForeignKeysMapped (m' : Model) (id : TableId) (t t' : Table) : Prop where
  /-- A foreign key remains exactly when it refers to a key of the mapped model. -/
  remains : ∀ f ∈ t.foreignKeys, f.id ∈ t'.foreignKeys.map (·.id) ↔ m'.refersToKey f = true
  /-- Those that remain are in their order. -/
  kept : List.Forall₂ IsMappedKey (t.foreignKeys.filter m'.refersToKey) t'.foreignKeys
  findings : ∀ f' ∈ t'.foreignKeys, HasKeyFindings m' id t' f'
  /-- Each one that is removed has one finding, which names it. -/
  removed : List.Forall₂
    (fun f i => ∃ parent, m'.table? f.referencedTable = some parent
      ∧ i = droppedKeyIssue id t' parent f)
    (t.foreignKeys.filter fun f => !m'.refersToKey f)
    ((findingsAbout m' (.table id)).filter tellsOfKey)

/-! ## Decisions -/

section Decisions

variable {m : Model} {id : TableId} {t parent : Table} {f : ForeignKey}

/-- A foreign key with the actions it gets. -/
def withActions (f : ForeignKey) : ForeignKey :=
  setActions (deleteAction f.onDelete.source).1 (updateAction f.onUpdate.source).1 f

/-- A foreign key with the actions of the target is mapped. -/
theorem isMappedKey_withActions (f : ForeignKey) : IsMappedKey f (withActions f) := by
  refine ⟨rfl, ?_, ?_⟩
  · show some (deleteAction f.onDelete.source).1 = _
    cases f.onDelete.source <;> rfl
  · show some (updateAction f.onUpdate.source).1 = _
    cases f.onUpdate.source <;> rfl

/-- A foreign key stays exactly when it refers to a key. -/
theorem planned_planKey (m : Model) (id : TableId) (t : Table) (f : ForeignKey) :
    planned (planKey m id t f).1.2 f = if m.refersToKey f then some (withActions f) else none := by
  unfold planKey Model.refersToKey
  cases m.table? f.referencedTable with
  | none => rfl
  | some p =>
    cases hkey : p.isUniqueKey f.referencedColumns with
    | false => simp [hkey, planned]
    | true => simp [hkey, planned, withActions]

/-- Kept are the foreign keys that refer to a key. -/
theorem keptKeys_eq (m : Model) (id : TableId) (t : Table) :
    keptKeys m id t = (t.foreignKeys.filter m.refersToKey).map withActions := by
  unfold keptKeys
  simp only [planned_planKey]
  induction t.foreignKeys with
  | nil => rfl
  | cons f l ih => cases h : m.refersToKey f <;> simp [h, ih]

/-- Of any other one it is said that it is dropped. -/
theorem planKey_issues_of_not (hparent : m.table? f.referencedTable = some parent)
    (h : m.refersToKey f = false) :
    (planKey m id t f).2 = [droppedKeyIssue id t parent f] := by
  have hnone : planned (planKey m id t f).1.2 f = none := by
    rw [planned_planKey, h]
    rfl
  exact planKey_none hparent (Option.map_eq_none_iff.1 hnone)

/-- A clause is spoken of exactly when its action is not the declared one. -/
theorem actionIssue_delete (id : TableId) (t : Table) (f : ForeignKey) :
    actionIssue id t f "ON DELETE" f.onDelete.source (deleteAction f.onDelete.source).2
      = clauseFindings id t (withActions f) "ON DELETE" (withActions f).onDelete := by
  show _ = clauseFindings id t (withActions f) "ON DELETE"
    ⟨f.onDelete.source, some (deleteAction f.onDelete.source).1⟩
  cases f.onDelete.source <;> rfl

/-- What is said of an action on update. -/
theorem actionIssue_update (id : TableId) (t : Table) (f : ForeignKey) :
    actionIssue id t f "ON UPDATE" f.onUpdate.source (updateAction f.onUpdate.source).2
      = clauseFindings id t (withActions f) "ON UPDATE" (withActions f).onUpdate := by
  show _ = clauseFindings id t (withActions f) "ON UPDATE"
    ⟨f.onUpdate.source, some (updateAction f.onUpdate.source).1⟩
  cases f.onUpdate.source <;> rfl

/-- Of the members of a list that satisfy a test, and of no others, there is an image. -/
theorem forall₂_filter_flatMap {α β : Type} {R : α → β → Prop} {p : α → Bool} {g : α → List β}
    {l : List α} (hnone : ∀ a ∈ l, p a = false → g a = [])
    (hsome : ∀ a ∈ l, p a = true → ∃ b, g a = [b] ∧ R a b) :
    List.Forall₂ R (l.filter p) (l.flatMap g) := by
  induction l with
  | nil => exact .nil
  | cons a l ih =>
    rw [List.forall_mem_cons] at hnone hsome
    rw [List.flatMap_cons]
    cases hp : p a with
    | false =>
      rw [List.filter_cons_of_neg (by simp [hp]), hnone.1 hp]
      exact ih hnone.2 hsome.2
    | true =>
      obtain ⟨b, hb, hr⟩ := hsome.1 hp
      rw [List.filter_cons_of_pos hp, hb]
      exact .cons hr (ih hnone.2 hsome.2)

/-- Pairs of columns are spoken of exactly when their types are of different kinds. -/
theorem forall₂_mismatchIssues (d : TargetDialect) (id : TableId) (t parent : Table)
    (f : ForeignKey) : List.Forall₂ (TellsOfPair d id t parent f)
      ((f.columns.zip f.referencedColumns).filter (pairDiffers t parent))
      (mismatchIssues d id t parent f) := by
  unfold mismatchIssues
  rw [List.filterMap_eq_flatMap_toList]
  refine forall₂_filter_flatMap ?_ ?_
  · rintro ⟨child, referenced⟩ - hsame
    rw [Option.toList_eq_nil_iff]
    refine Option.bind_eq_none_iff.2 fun a ha => Option.bind_eq_none_iff.2 fun b hb => ?_
    have hkinds : a.kind = b.kind ∧ a.array = b.array := by
      simpa [pairDiffers, Table.targetType?, ha, hb] using hsame
    exact if_pos hkinds
  · rintro ⟨child, referenced⟩ - hdiffers
    obtain ⟨a, ha, hdiffers⟩ := (Option.any_eq_true ..).1 hdiffers
    obtain ⟨b, hb, hdiffers⟩ := (Option.any_eq_true ..).1 hdiffers
    have hkinds : ¬ (a.kind = b.kind ∧ a.array = b.array) := by
      simpa [or_iff_not_imp_left] using hdiffers
    refine ⟨_, ?_, a, b, ha, hb, rfl⟩
    rw [Option.toList_eq_singleton_iff]
    refine Option.bind_eq_some_iff.2 ⟨a, ha, Option.bind_eq_some_iff.2 ⟨b, hb, ?_⟩⟩
    exact if_neg hkinds

/-- What is said of a foreign key that stays. -/
theorem planKey_issues_of_refers (id : TableId) (t : Table) (h : m.refersToKey f = true) :
    ∃ parent, m.table? f.referencedTable = some parent
      ∧ (planKey m id t f).2 = mismatchIssues m.target id t parent f
        ++ clauseFindings id t (withActions f) "ON DELETE" (withActions f).onDelete
        ++ clauseFindings id t (withActions f) "ON UPDATE" (withActions f).onUpdate := by
  obtain ⟨parent, hparent, hkey⟩ := (Option.any_eq_true ..).1 h
  refine ⟨parent, hparent, ?_⟩
  rw [← actionIssue_delete, ← actionIssue_update]
  unfold planKey
  rw [hparent]
  dsimp only
  rw [hkey]
  rfl

/-- What is said of an action is about its foreign key. -/
theorem mem_clauseFindings {clause : String} {p : FkPolicy} {i : Issue}
    (h : i ∈ clauseFindings id t f clause p) :
    i.stage = .mapper ∧ i.target = .foreignKey id f.id := by
  unfold clauseFindings at h
  split at h
  · cases h
  · rw [List.mem_singleton.1 h]
    exact ⟨rfl, rfl⟩

/-- All that is said of a foreign key that is kept is about it. -/
theorem planKey_target_of_refers (id : TableId) (t : Table) (h : m.refersToKey f = true) :
    ∀ i ∈ (planKey m id t f).2, i.stage = .mapper ∧ i.target = .foreignKey id f.id := by
  obtain ⟨parent, -, hissues⟩ := planKey_issues_of_refers id t h
  rw [hissues]
  refine List.forall_mem_append.2 ⟨List.forall_mem_append.2 ⟨?_, ?_⟩, ?_⟩
  · intro i hi
    obtain ⟨hs, ht, -⟩ := mem_mismatchIssues hi
    exact ⟨hs, ht⟩
  · exact fun i hi => mem_clauseFindings hi
  · exact fun i hi => mem_clauseFindings hi

end Decisions

/-! ## Findings of a mapping -/

section Findings

/-- Whether a finding is one of the third phase. -/
def isKeyFinding (i : Issue) : Bool :=
  i.stage = .mapper && match i.target with
    | .foreignKey _ _ => true
    | .table _ => tellsOfKey i
    | _ => false

/-- What another stage says is no finding of the mapping. -/
theorem isKeyFinding_of_stage {i : Issue} (h : i.stage ≠ .mapper) : isKeyFinding i = false := by
  simp [isKeyFinding, h]

/-- What is said of a table may be about a foreign key. -/
theorem isKeyFinding_of_table {i : Issue} {id : TableId} (hs : i.stage = .mapper)
    (ht : i.target = .table id) : isKeyFinding i = tellsOfKey i := by
  simp [isKeyFinding, hs, ht]

/-- What the first phase says of a table is not that something of it is dropped. -/
theorem category_ne_of_lasting {i : Issue} {id : TableId} (hs : i.stage = .mapper)
    (hspent : isSpent i = false) (ht : i.target = .table id) :
    i.category ≠ .unsupportedConstraint := by
  intro hc
  rw [isSpent, hs, hc, ht] at hspent
  cases hspent

/-- What the first phase says is no finding of the third one. -/
theorem isKeyFinding_of_lasting {i : Issue} (hfirm : IsFirm i.target) (hs : i.stage = .mapper)
    (hspent : isSpent i = false) : isKeyFinding i = false := by
  cases ht : i.target with
  | foreignKey _ _ =>
    rw [ht] at hfirm
    cases hfirm
  | table id =>
    rw [isKeyFinding_of_table hs ht]
    simp [tellsOfKey, category_ne_of_lasting hs hspent ht]
  | _ => simp [isKeyFinding, ht]

/-- That a foreign key is dropped tells of it. -/
theorem tellsOfKey_droppedKeyIssue (id : TableId) (t parent : Table) (f : ForeignKey) :
    tellsOfKey (droppedKeyIssue id t parent f) = true := by
  simp [tellsOfKey, droppedKeyIssue, issue, Issue.raise, String.toList_append]

/-- That an index is dropped does not. -/
theorem tellsOfKey_droppedIndexIssue (id : TableId) (table : String) (i : Index) (c : Column) :
    tellsOfKey (droppedIndexIssue id table i c) = false := by
  simp [tellsOfKey, droppedIndexIssue, issue, Issue.raise, String.toList_append,
    List.isPrefixOf_cons_cons]

/-- What the second phase says is about indexes. -/
theorem isKeyFinding_mapTableIndexes (used : List String) (l : KeyedTables) :
    ∀ i ∈ (mapTableIndexes used l).2, isKeyFinding i = false := by
  intro i hi
  obtain ⟨e, -, p, -, hi⟩ := exists_of_mem_mapTableIndexes hi
  rcases mem_planFindings hi with ⟨c, -, rfl⟩ | ⟨name, -, rfl⟩
  · rw [isKeyFinding_of_table rfl rfl, tellsOfKey_droppedIndexIssue]
  · rfl

variable {m : Model} {synthetic : String}

/-- What is said of a foreign key is said of it, or of its table when it is dropped. -/
theorem mem_planKey_issues {id : TableId} {t : Table} {f : ForeignKey} {i : Issue}
    (hi : i ∈ (planKey m id t f).2) : (∃ parent, i = droppedKeyIssue id t parent f)
      ∨ (i.stage = .mapper ∧ i.target = .foreignKey id f.id) := by
  cases hparent : m.table? f.referencedTable with
  | none =>
    unfold planKey at hi
    rw [hparent] at hi
    cases hi
  | some parent =>
    cases h : m.refersToKey f with
    | false =>
      rw [planKey_issues_of_not hparent h] at hi
      exact .inl ⟨parent, List.mem_singleton.1 hi⟩
    | true => exact .inr (planKey_target_of_refers id t h i hi)

/-- What is said of a foreign key is about foreign keys. -/
theorem isKeyFinding_planKey (id : TableId) (t : Table) (f : ForeignKey) :
    ∀ i ∈ (planKey m id t f).2, isKeyFinding i = true := by
  intro i hi
  rcases mem_planKey_issues hi with ⟨parent, rfl⟩ | ⟨hs, ht⟩
  · rw [isKeyFinding_of_table rfl rfl, tellsOfKey_droppedKeyIssue]
  · simp [isKeyFinding, hs, ht]

theorem isKeyFinding_keyFindings (m : Model) : ∀ i ∈ keyFindings m, isKeyFinding i = true := by
  intro i hi
  obtain ⟨e, -, hi⟩ := List.mem_flatMap.1 hi
  rw [mapTableForeignKeys_issues] at hi
  obtain ⟨f, -, hi⟩ := List.mem_flatMap.1 hi
  exact isKeyFinding_planKey e.1 e.2 f i hi

/-- The first two phases say nothing of foreign keys. -/
theorem isKeyFinding_indexed (h : m.WellFormed) :
    ∀ i ∈ (indexed synthetic m).issues, isKeyFinding i = false := by
  rw [indexed_eq h.nodup_keys]
  refine List.forall_mem_append.2 ⟨List.forall_mem_append.2 ⟨?_, ?_⟩, ?_⟩
  · intro i hi
    exact isKeyFinding_of_stage (by simpa using (List.mem_filter.1 hi).2)
  · intro i hi
    obtain ⟨hs, hspent⟩ := placeAll_lasting _ _ _ _ _ i hi
    exact isKeyFinding_of_lasting (isFirm_placeAll _ _ _ _ _ i hi) hs hspent
  · exact isKeyFinding_mapTableIndexes _ _

/-- The first two phases leave the tables under their identifiers. -/
theorem map_fst_indexed (h : m.WellFormed) (synthetic : String) :
    (indexed synthetic m).tables.map (·.1) = m.tables.map (·.1) := by
  have hids := congrArg (List.map (·.1)) (keysIn_indexed h.nodup_keys synthetic)
  rwa [keysIn, keysIn, List.map_map, List.map_map] at hids

/-- The third phase finds the foreign keys of a valid model as they were declared. -/
theorem nodup_indexed (h : m.WellFormed) (synthetic : String) :
    ((indexed synthetic m).tables.map (·.1)).Nodup
      ∧ ∀ e ∈ (indexed synthetic m).tables, (e.2.foreignKeys.map (·.id)).Nodup := by
  constructor
  · rw [map_fst_indexed h]
    exact h.nodup_keys
  · intro e he
    have hmem : (e.1, e.2.foreignKeys) ∈ keysIn m.tables :=
      keysIn_indexed h.nodup_keys synthetic ▸
        List.mem_map_of_mem (f := fun e => (e.1, e.2.foreignKeys)) he
    obtain ⟨e', he', heq⟩ := List.mem_map.1 hmem
    have hlist : e'.2.foreignKeys = e.2.foreignKeys := congrArg Prod.snd heq
    exact hlist ▸ nodup_foreignKeys_of_distinct h.distinct he'

/-- A mapping of a valid model, in terms of what the first two phases have left. -/
theorem map_eq_of_wellFormed (h : m.WellFormed) (synthetic : String) :
    map synthetic m = { indexed synthetic m with
      tables := rekeyed (keptKeys (indexed synthetic m)) (indexed synthetic m).tables
      issues := (indexed synthetic m).issues ++ keyFindings (indexed synthetic m) } :=
  mapForeignKeys_eq (nodup_indexed h synthetic).2

/-- Among the findings of a mapping, those of the third phase. -/
theorem filter_isKeyFinding_map (h : m.WellFormed) :
    (map synthetic m).issues.filter isKeyFinding = keyFindings (indexed synthetic m) := by
  have hfirst : (indexed synthetic m).issues.filter isKeyFinding = [] :=
    List.filter_eq_nil_iff.2 fun i hi => by simp [isKeyFinding_indexed h i hi]
  rw [map_eq_of_wellFormed h]
  dsimp only
  rw [List.filter_append, hfirst, List.nil_append]
  exact List.filter_eq_self.2 (isKeyFinding_keyFindings _)

end Findings

/-! ## Mapped models -/

section Mapped

variable {m : Model} {synthetic : String}

/-- The third phase changes nothing but foreign keys. -/
theorem table?_mapForeignKeys (m : Model) (id : TableId) :
    (mapForeignKeys m).table? id = (m.table? id).map fun t => (mapTableForeignKeys m id t).1 := by
  rw [Model.table?_eq_tableIn, mapForeignKeys_tables,
    tableIn_map _ fun id t => (mapTableForeignKeys m id t).1]
  rfl

/-- What refers to a key after two phases does so after the third. -/
theorem refersToKey_map (m : Model) (synthetic : String) :
    (map synthetic m).refersToKey = (indexed synthetic m).refersToKey := by
  funext f
  show (mapForeignKeys (indexed synthetic m)).refersToKey f = _
  unfold Model.refersToKey
  rw [table?_mapForeignKeys]
  cases (indexed synthetic m).table? f.referencedTable <;> rfl

/-- A table under its identifier, before the third phase and after it. -/
theorem table?_map (h : m.WellFormed) (id : TableId) :
    (map synthetic m).table? id = ((indexed synthetic m).table? id).map fun t =>
      { t with foreignKeys := keptKeys (indexed synthetic m) id t } := by
  rw [map_eq_of_wellFormed h]
  exact tableIn_map _ (fun id t => { t with foreignKeys := keptKeys (indexed synthetic m) id t }) id

/-- Where members of a list have keys of their own, what only one of them says is said by it. -/
theorem filter_flatMap_of_key {α β κ : Type} {key : α → κ} {l : List α} (hl : (l.map key).Nodup)
    {a : α} (ha : a ∈ l) {g : α → List β} {p : β → Bool}
    (h : ∀ b ∈ l, key b ≠ key a → (g b).filter p = []) :
    (l.flatMap g).filter p = (g a).filter p := by
  obtain ⟨pre, post, rfl⟩ := List.append_of_mem ha
  rw [List.map_append, List.map_cons, List.nodup_append, List.nodup_cons] at hl
  have hpre : pre.flatMap (fun b => (g b).filter p) = [] := by
    refine List.flatMap_eq_nil_iff.2 fun b hb => h b (List.mem_append_left _ hb) ?_
    exact hl.2.2 _ (List.mem_map_of_mem hb) _ List.mem_cons_self
  have hpost : post.flatMap (fun b => (g b).filter p) = [] := by
    refine List.flatMap_eq_nil_iff.2 fun b hb =>
      h b (List.mem_append_right _ (List.mem_cons_of_mem _ hb)) fun heq => ?_
    exact hl.2.1.1 (heq ▸ List.mem_map_of_mem hb)
  rw [List.filter_flatMap, List.flatMap_append, List.flatMap_cons, hpre, hpost, List.nil_append,
    List.append_nil]

/-- The findings of the third phase about a table and its foreign keys are made for that table. -/
theorem filter_keyFindings (hm : (m.tables.map (·.1)).Nodup) {id : TableId} {t : Table}
    (ht : (id, t) ∈ m.tables) {target : IssueTarget} (htarget : target.table? = some id) :
    (keyFindings m).filter (fun i => i.target = target)
      = t.foreignKeys.flatMap fun f => (planKey m id t f).2.filter fun i => i.target = target := by
  unfold keyFindings
  rw [filter_flatMap_of_key hm ht, mapTableForeignKeys_issues, List.filter_flatMap]
  intro e _ hne
  rw [mapTableForeignKeys_issues, List.filter_flatMap]
  refine List.flatMap_eq_nil_iff.2 fun f _ => List.filter_eq_nil_iff.2 fun i hi => ?_
  have hi' := (planKey_issues m e.1 e.2 f i hi).2
  have hother : i.target.table? = some e.1 := by
    rcases hi' with hi' | ⟨hi', -⟩ <;> rw [hi'] <;> rfl
  simp only [decide_eq_true_eq]
  rintro rfl
  exact hne (Option.some.inj (hother.symm.trans htarget))

/-- What the third phase says of a foreign key that stays. -/
theorem filter_keyFindings_foreignKey (hm : (m.tables.map (·.1)).Nodup) {id : TableId} {t : Table}
    (ht : (id, t) ∈ m.tables) (hkeys : (t.foreignKeys.map (·.id)).Nodup) {f : ForeignKey}
    (hf : f ∈ t.foreignKeys) (h : m.refersToKey f = true) :
    (keyFindings m).filter (fun i => i.target = .foreignKey id f.id) = (planKey m id t f).2 := by
  rw [filter_keyFindings hm ht rfl, ← List.filter_flatMap, filter_flatMap_of_key hkeys hf]
  · refine List.filter_eq_self.2 fun i hi => ?_
    simpa using (planKey_target_of_refers id t h i hi).2
  · intro g _ hne
    refine List.filter_eq_nil_iff.2 fun i hi => ?_
    obtain ⟨-, hi | ⟨hi, -⟩⟩ := planKey_issues m id t g i hi
    · simp [hi]
    · simpa [hi] using hne

/-- What the third phase says of those it has taken away. -/
theorem forall₂_keyFindings_table (hm : (m.tables.map (·.1)).Nodup) {id : TableId} {t : Table}
    (ht : (id, t) ∈ m.tables)
    (hparents : ∀ f ∈ t.foreignKeys, ∃ parent, m.table? f.referencedTable = some parent) :
    List.Forall₂
      (fun f i => ∃ parent, m.table? f.referencedTable = some parent
        ∧ i = droppedKeyIssue id t parent f)
      (t.foreignKeys.filter fun f => !m.refersToKey f)
      ((keyFindings m).filter fun i => i.target = .table id) := by
  rw [filter_keyFindings hm ht rfl]
  refine forall₂_filter_flatMap ?_ ?_
  · intro f _ h
    refine List.filter_eq_nil_iff.2 fun i hi => ?_
    rw [(planKey_target_of_refers id t (by simpa using h) i hi).2]
    simp
  · intro f hf h
    obtain ⟨parent, hparent⟩ := hparents f hf
    refine ⟨_, ?_, parent, hparent, rfl⟩
    rw [planKey_issues_of_not hparent (by simpa using h)]
    exact List.filter_eq_self.2 (List.forall_mem_singleton.2 (by simp [droppedKeyIssue, issue,
      Issue.raise]))

/-- Findings about an object, where it is told by a test what is said of it. -/
theorem filter_findingsAbout {target : IssueTarget} {p q : Issue → Bool}
    (h : ∀ i : Issue, i.target = target → p i = (decide (i.stage = .mapper) && q i)) :
    (findingsAbout m target).filter q
      = (m.issues.filter p).filter fun i => i.target = target := by
  rw [findingsAbout, Model.issuesFor, List.filter_filter, List.filter_filter, List.filter_filter]
  refine List.filter_congr fun i _ => ?_
  by_cases ht : i.target = target
  · rw [h i ht, Bool.and_comm (q i)]
    simp [ht]
  · simp [ht]

/-- The findings about a foreign key, or about a table and a foreign key it had, are those of the
third phase. -/
theorem findingsAbout_foreignKey (h : m.WellFormed) (id : TableId) (f : ForeignKeyId) :
    findingsAbout (map synthetic m) (.foreignKey id f)
      = (keyFindings (indexed synthetic m)).filter fun i => i.target = .foreignKey id f := by
  rw [← filter_isKeyFinding_map h, ← filter_findingsAbout (q := fun _ => true), List.filter_true]
  intro i ht
  rw [isKeyFinding, ht]

/-- What is said of the foreign keys of a table. -/
theorem findingsAbout_table (h : m.WellFormed) (id : TableId) :
    (findingsAbout (map synthetic m) (.table id)).filter tellsOfKey
      = (keyFindings (indexed synthetic m)).filter fun i => i.target = .table id := by
  rw [← filter_isKeyFinding_map h]
  refine filter_findingsAbout fun i ht => ?_
  rw [isKeyFinding, ht]

/-- Every foreign key of a valid model has its parent after two phases. -/
theorem exists_parent_indexed (h : m.WellFormed) {id : TableId} {t : Table}
    (ht : (id, t) ∈ m.tables) {f : ForeignKey} (hf : f ∈ t.foreignKeys) :
    ∃ parent, (indexed synthetic m).table? f.referencedTable = some parent := by
  obtain ⟨p, hp, -⟩ := ((h.tables _ ht).refers.foreignKeys f hf).parent
  rw [← Option.isSome_iff_exists, Model.table?_eq_tableIn, isSome_tableIn_iff, map_fst_indexed h]
  exact List.mem_map_of_mem (mem_of_tableIn hp)

/-- Where members of a list have keys of their own, the keys of those that satisfy a test tell which
ones do. -/
theorem mem_map_filter_iff {α κ : Type} {key : α → κ} {l : List α} (hl : (l.map key).Nodup)
    {p : α → Bool} {a : α} (ha : a ∈ l) : key a ∈ (l.filter p).map key ↔ p a = true := by
  constructor
  · intro hkey
    obtain ⟨b, hb, hkey⟩ := List.mem_map.1 hkey
    obtain ⟨hb, hp⟩ := List.mem_filter.1 hb
    rwa [List.inj_on_of_nodup_map hl ha hb hkey.symm]
  · intro hp
    exact List.mem_map_of_mem (List.mem_filter.2 ⟨ha, hp⟩)

/-- What becomes of the foreign keys of a table, from what the third phase says of it. -/
theorem foreignKeysMapped_of_indexed (h : m.WellFormed) {id : TableId} {t u : Table}
    (ht : (id, t) ∈ m.tables) (hu : (id, u) ∈ (indexed synthetic m).tables)
    (hsame : u.foreignKeys = t.foreignKeys) :
    ForeignKeysMapped (map synthetic m) id t
      { u with foreignKeys := keptKeys (indexed synthetic m) id u } := by
  obtain ⟨hnodup, hnodupKeys⟩ := nodup_indexed h synthetic
  have hunique : (t.foreignKeys.map (·.id)).Nodup := hsame ▸ hnodupKeys _ hu
  have hkept : keptKeys (indexed synthetic m) id u
      = (t.foreignKeys.filter (map synthetic m).refersToKey).map withActions := by
    rw [keptKeys_eq, hsame, refersToKey_map]
  -- a parent may lose foreign keys of its own; its key and columns are done with
  have hparent {f : ForeignKey} {p : Table}
      (hp : (indexed synthetic m).table? f.referencedTable = some p) :
      (map synthetic m).table? f.referencedTable
        = some { p with foreignKeys := keptKeys (indexed synthetic m) f.referencedTable p } := by
    rw [table?_map h, hp]
    rfl
  constructor
  case remains =>
    intro f hf
    dsimp only
    rw [hkept, List.map_map]
    exact mem_map_filter_iff hunique hf
  case kept =>
    dsimp only
    rw [hkept]
    exact List.forall₂_map_right_iff.2
      (List.forall₂_same.2 fun f _ => isMappedKey_withActions f)
  case findings =>
    intro f' hf'
    dsimp only at hf'
    rw [hkept] at hf'
    obtain ⟨f, hf, rfl⟩ := List.mem_map.1 hf'
    obtain ⟨hf, hrefers⟩ := List.mem_filter.1 hf
    rw [refersToKey_map] at hrefers
    obtain ⟨p, hp, hissues⟩ := planKey_issues_of_refers id u hrefers
    refine ⟨_, mismatchIssues (indexed synthetic m).target id u p f, hparent hp, ?_, ?_⟩
    · rw [map_eq_of_wellFormed h]
      exact forall₂_mismatchIssues (indexed synthetic m).target id u p f
    · show findingsAbout (map synthetic m) (.foreignKey id f.id) = _
      rw [findingsAbout_foreignKey h, filter_keyFindings_foreignKey hnodup hu
        (hnodupKeys _ hu) (hsame ▸ hf) hrefers, hissues]
      rfl
  case removed =>
    rw [findingsAbout_table h, refersToKey_map]
    have hdropped := forall₂_keyFindings_table hnodup hu fun f hf =>
      exists_parent_indexed h ht (hsame ▸ hf)
    rw [hsame] at hdropped
    refine hdropped.imp fun f i hi => ?_
    obtain ⟨p, hp, rfl⟩ := hi
    exact ⟨_, hparent hp, rfl⟩

end Mapped

/-- **Foreign keys of a mapped model.**  In every table of a valid model exactly those foreign keys
remain that refer to a primary or unique key of the mapped model.  Of each one that is removed the
mapper says so, once.  Those that remain are as declared, in their order, with actions the target
knows; of each of them the mapper names the pairs of columns of different kinds and the clauses whose
action is another one, each once, and nothing else. -/
theorem map_foreignKeys {m : Model} (h : m.validate = .ok ()) (synthetic : String) :
    (map synthetic m).tables.map (·.1) = m.tables.map (·.1)
      ∧ ∀ e ∈ m.tables, ∃ t', (map synthetic m).table? e.1 = some t'
        ∧ ForeignKeysMapped (map synthetic m) e.1 e.2 t' := by
  have hw := (Model.validate_eq_ok_iff m).1 h
  constructor
  · rw [map_eq_of_wellFormed hw]
    dsimp only
    rw [rekeyed, List.map_map]
    exact map_fst_indexed hw synthetic
  · rintro ⟨id, t⟩ he
    have hmem : (id, t.foreignKeys) ∈ keysIn (indexed synthetic m).tables := by
      rw [keysIn_indexed hw.nodup_keys]
      exact List.mem_map_of_mem (f := fun e => (e.1, e.2.foreignKeys)) he
    obtain ⟨⟨k, u⟩, hu, heq⟩ := List.mem_map.1 hmem
    obtain ⟨rfl, hsame⟩ := Prod.ext_iff.1 heq
    refine ⟨_, ?_, foreignKeysMapped_of_indexed hw he hu hsame⟩
    rw [table?_map hw, Model.table?_eq_tableIn, tableIn_of_mem (nodup_indexed hw synthetic).1 hu]
    rfl

/-- A table whose foreign keys refer to a unique index on a column of another kind, to one that cannot
be kept, to the table itself, and to a table without a key. -/
def referringModel : Model :=
  Builder.finish <|
    (((Builder.start .postgres .google .rename (Audit.start "request" ⟨0, 0⟩)).addTable
      { TableDraft.empty none "c" with
        columns := [.plain "a" ⟨"integer", [], [], 0, "integer"⟩, .plain "b" ⟨"text", [], [], 0, "text"⟩]
        primaryKey := [("a", false)]
        foreignKeys := [⟨some "k", ["b"], none, "p", ["x"], .setNull, .restrict⟩,
          ⟨some "l", ["a"], none, "p", ["j"], .cascade, .noAction⟩,
          ⟨some "m", ["a"], none, "c", ["a"], .cascade, .noAction⟩,
          ⟨some "n", ["a"], none, "q", ["x"], .noAction, .noAction⟩] }).2.addTable
      { TableDraft.empty none "p" with
        columns := [.plain "x" ⟨"integer", [], [], 0, "integer"⟩, .plain "j" ⟨"json", [], [], 0, "json"⟩]
        indexes := [⟨some "i", [("x", false)], true⟩, ⟨some "o", [("j", false)], true⟩] }).2.addTable
      { TableDraft.empty none "q" with
        columns := [.plain "x" ⟨"integer", [], [], 0, "integer"⟩] } |>.2

/-- What a mapping leaves of these foreign keys and says of them. -/
structure SpeaksOfKeys (m' : Model) : Prop where
  kept : (m'.table? ⟨1⟩).map (fun t => t.foreignKeys.map
      fun f => (f.name, f.onDelete.target, f.onUpdate.target))
    = some [("k", some .noAction, some .noAction), ("m", some .cascade, some .noAction)]
  removed : (findingsAbout m' (.table ⟨1⟩)).map (·.detail)
    = ["Foreign key l on c dropped: referenced columns (j) are not a primary or unique key of p.",
      "Foreign key n on c dropped: referenced columns (x) are not a primary or unique key of q."]
  findings : (findingsAbout m' (.foreignKey ⟨1⟩ ⟨11⟩)).map (fun i => (i.severity, i.detail))
    = [(.warning, "Foreign key k: c.b is STRING(MAX) but p.x is INT64."),
      (.warning, "Foreign key k on c: ON DELETE SET NULL is not supported; using NO ACTION."),
      (.info, "Foreign key k on c: ON UPDATE RESTRICT is not supported; using NO ACTION.")]
  silent : findingsAbout m' (.foreignKey ⟨1⟩ ⟨13⟩) = []

theorem map_foreignKeys_referringModel :
    referringModel.validate = .ok () ∧ SpeaksOfKeys (map "id" referringModel)
      ∧ ∀ e ∈ referringModel.tables, ∃ t', (map "id" referringModel).table? e.1 = some t'
        ∧ ForeignKeysMapped (map "id" referringModel) e.1 e.2 t' := by
  have h : referringModel.validate = .ok () := by decide +kernel
  refine ⟨h, ⟨?_, ?_, ?_, ?_⟩, (map_foreignKeys h "id").2⟩
  all_goals decide +kernel

/-! ## Keys that are referred to -/

/-- A table is found among related tables if its counterpart is. -/
theorem exists_tableIn_of_forall₂ {R : Table → Table → Prop} {l l' : KeyedTables}
    (h : List.Forall₂ (fun e e' => e'.1 = e.1 ∧ R e.2 e'.2) l l') {id : TableId} {t' : Table}
    (ht : tableIn l' id = some t') : ∃ t, tableIn l id = some t ∧ R t t' := by
  induction h with
  | nil => cases ht
  | cons he _ ih =>
    rw [tableIn_cons] at ht ⊢
    rw [he.1] at ht
    split at ht
    · rename_i hid
      cases ht
      exact ⟨_, if_pos hid, he.2⟩
    · rename_i hid
      rw [if_neg hid]
      exact ih ht

/-- Every index of a table is one that it had before, under whatever name. -/
def KeptFrom (t t' : Table) : Prop := ∀ i' ∈ t'.indexes, ∃ i ∈ t.indexes, indexCore i' = indexCore i

/-- Indexes stay when tables are placed. -/
theorem indexes_placeAll (source : SourceDialect) (d : TargetDialect) (synthetic : String) (n : Nat)
    (l : KeyedTables) : List.Forall₂ (fun e e' => e'.1 = e.1 ∧ e'.2.indexes = e.2.indexes) l
      (placeAll source d synthetic n l).tables := by
  induction l generalizing n with
  | nil => exact .nil
  | cons e l ih =>
    refine .cons ⟨rfl, ?_⟩ (ih _)
    show (placeKey d synthetic n e.1 (withColumns source e.2)).table.indexes = e.2.indexes
    unfold placeKey
    split
    · rfl
    · split <;> rfl

variable {m : Model}

/-- A table with its indexes mapped is kept from one of the model. -/
theorem exists_table_of_indexed (h : m.Sound) (synthetic : String) {id : TableId} {t' : Table}
    (ht : (indexed synthetic m).table? id = some t') : ∃ t, m.table? id = some t ∧ KeptFrom t t' := by
  -- the second phase leaves indexes out and renames others, the first one does not touch them
  have hkept : List.Forall₂ (fun e e' => e'.1 = e.1 ∧ KeptFrom e.2 e'.2)
      ((m.tables.map (·.1)).foldl (mapTable synthetic) (m.clearIssues .mapper)).tables
      (indexed synthetic m).tables := by
    refine (mapTableIndexes_tables _ _).imp fun e e' he => ⟨he.1, ?_⟩
    obtain ⟨-, kept, he, hcores⟩ := he
    rw [he]
    intro i' hi'
    have hm : indexCore i' ∈ (keyable e.2).map indexCore := hcores ▸ List.mem_map_of_mem hi'
    obtain ⟨i, hi, hcore⟩ := List.mem_map.1 hm
    exact ⟨i, List.mem_of_mem_filter hi, hcore.symm⟩
  obtain ⟨t₁, ht₁, hfrom⟩ := exists_tableIn_of_forall₂ hkept ht
  have hplaced := foldl_mapTable synthetic (m.clearIssues .mapper) (h.clearIssues .mapper).nodup_keys
  rw [Model.clearIssues_tables] at hplaced
  rw [hplaced] at ht₁
  obtain ⟨t, ht, hindexes⟩ := exists_tableIn_of_forall₂ (R := fun t t' => t'.indexes = t.indexes)
    (indexes_placeAll _ _ _ _ _) ht₁
  refine ⟨t, ht, fun i hi => ?_⟩
  rw [← hindexes]
  exact hfrom i hi

/-! ### Plans that are carried out -/

/-- What is declared of a foreign key is where it refers to. -/
theorem parts_of_asDeclared {f f₀ : ForeignKey} (h : f.asDeclared = f₀.asDeclared) : f.id = f₀.id
    ∧ f.referencedTable = f₀.referencedTable ∧ f.referencedColumns = f₀.referencedColumns := by
  have hid := congrArg ForeignKey.id h
  have htable := congrArg ForeignKey.referencedTable h
  have hcolumns := congrArg ForeignKey.referencedColumns h
  exact ⟨hid, htable, hcolumns⟩

/-- What is left of foreign keys was there before, and no plan takes it away. -/
theorem exists_of_mem_foldl_applyPlan {plans : List KeyPlan} {l : List ForeignKey} {f : ForeignKey}
    (hf : f ∈ plans.foldl applyPlan l) :
    (∃ f₀ ∈ l, f.asDeclared = f₀.asDeclared) ∧ (f.id, none) ∉ plans := by
  induction plans generalizing l with
  | nil => exact ⟨⟨f, hf, rfl⟩, List.not_mem_nil⟩
  | cons plan plans ih =>
    obtain ⟨⟨f₁, hf₁, hsame⟩, hnone⟩ := ih hf
    have hid := (parts_of_asDeclared hsame).1
    obtain ⟨id, actions⟩ := plan
    -- a plan without actions drops the key
    cases actions with
    | none =>
      obtain ⟨hf₁, hne⟩ := List.mem_filter.1 hf₁
      refine ⟨⟨f₁, hf₁, hsame⟩, fun hmem => ?_⟩
      rcases List.mem_cons.1 hmem with heq | hmem
      · exact of_decide_eq_true hne (hid.symm.trans (congrArg Prod.fst heq))
      · exact hnone hmem
    | some a =>
      refine ⟨?_, fun hmem => ?_⟩
      · have hcore : f₁.asDeclared ∈ l.map ForeignKey.asDeclared := by
          rw [← Table.modifyFirst_map (fun f => f.id = id) (setActions a.1 a.2)
            ForeignKey.asDeclared (fun _ => rfl) l]
          exact List.mem_map_of_mem hf₁
        obtain ⟨f₀, hf₀, heq⟩ := List.mem_map.1 hcore
        exact ⟨f₀, hf₀, hsame.trans heq.symm⟩
      · rcases List.mem_cons.1 hmem with heq | hmem
        · cases heq
        · exact hnone hmem

/-- Whether it refers to a key depends on that. -/
theorem refersToKey_congr (m : Model) {f f₀ : ForeignKey} (h : f.asDeclared = f₀.asDeclared) :
    m.refersToKey f = m.refersToKey f₀ := by
  obtain ⟨-, htable, hcolumns⟩ := parts_of_asDeclared h
  unfold Model.refersToKey
  rw [htable, hcolumns]

/-- Whatever foreign keys a table has, those that the third phase leaves refer to a key. -/
theorem refersToKey_of_mem (m : Model) (id : TableId) (t : Table) {f : ForeignKey}
    (hf : f ∈ (mapTableForeignKeys m id t).1.foreignKeys) : m.refersToKey f = true := by
  obtain ⟨⟨f₀, hf₀, hsame⟩, hnone⟩ := exists_of_mem_foldl_applyPlan hf
  rw [refersToKey_congr m hsame]
  by_contra hrefers
  have hplan : (planKey m id t f₀).1 = (f₀.id, none) := by
    unfold planKey
    unfold Model.refersToKey at hrefers
    cases hp : m.table? f₀.referencedTable with
    | none => rfl
    | some p =>
      rw [hp] at hrefers
      have hkey : p.isUniqueKey f₀.referencedColumns = false := Bool.eq_false_iff.2 hrefers
      dsimp only
      rw [hkey]
      rfl
  refine hnone ?_
  rw [(parts_of_asDeclared hsame).1, ← hplan, List.map_map]
  exact List.mem_map_of_mem hf₀

/-- In a mapped model, every foreign key refers to a key. -/
theorem refersToKey_of_mem_map (m : Model) (synthetic : String) {e : TableId × Table}
    (he : e ∈ (map synthetic m).tables) {f : ForeignKey} (hf : f ∈ e.2.foreignKeys) :
    (map synthetic m).refersToKey f = true := by
  rw [refersToKey_map]
  have htables := mapForeignKeys_tables (indexed synthetic m)
  obtain ⟨e₀, -, rfl⟩ := List.mem_map.1 (htables ▸ he)
  exact refersToKey_of_mem _ _ _ hf

/-- A foreign key that remains refers to the primary key of the mapped table, or to a unique index
that the table has had before. -/
theorem exists_key_of_mem (h : m.Sound) (synthetic : String) {id : TableId} {t' : Table}
    (ht : (map synthetic m).table? id = some t') {f : ForeignKey} (hf : f ∈ t'.foreignKeys) :
    ∃ p p', m.table? f.referencedTable = some p
      ∧ (map synthetic m).table? f.referencedTable = some p'
      ∧ (Table.coversKey f.referencedColumns.eraseDups p'.primaryKey = true
        ∨ ∃ i ∈ p.indexes, i.unique = true
          ∧ Table.coversKey f.referencedColumns.eraseDups i.keys = true) := by
  -- the parent that the third phase looked at is that of the result
  have htable := table?_mapForeignKeys (indexed synthetic m)
  have hrefers := refersToKey_of_mem_map m synthetic (mem_of_tableIn ht) hf
  rw [refersToKey_map] at hrefers
  unfold Model.refersToKey at hrefers
  obtain ⟨p₁, hp₁, hunique⟩ := (Option.any_eq_true _ _).1 hrefers
  obtain ⟨p, hp, hkept⟩ := exists_table_of_indexed h synthetic hp₁
  refine ⟨p, _, hp, (htable _).trans (congrArg _ hp₁), ?_⟩
  have hcovers := (Bool.and_eq_true_iff.1 hunique).2
  refine (Bool.or_eq_true_iff.1 hcovers).imp (fun hkey => hkey) fun hindex => ?_
  obtain ⟨i', hi', hi⟩ := List.any_eq_true.1 hindex
  obtain ⟨i, hmem, hcore⟩ := hkept i' hi'
  obtain ⟨-, hkeys, hunique'⟩ : i'.id = i.id ∧ i'.keys = i.keys ∧ i'.unique = i.unique := by
    simpa [indexCore] using hcore
  rw [Bool.and_eq_true_iff, hkeys, hunique'] at hi
  exact ⟨i, hmem, hi.1, hi.2⟩

end Mapper

end SchemaBridge
