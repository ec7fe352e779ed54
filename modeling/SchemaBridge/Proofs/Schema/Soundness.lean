/-
# Sound models

What holds of a model at every moment of a conversion, whatever its names are: identifiers are
distinct and have been given out, references lead to columns and tables that exist, and so do the
targets of issues.  Only the mapper looks below the level of tables, so the issues of every other
stage are about a table or the whole schema.

## Key statements

* `Model.Sound.allocate`, `Model.Sound.addIssue`, `Model.Sound.insertTable`,
  `Model.Sound.modifyTable`: each elementary change of a model keeps it sound.
-/
import SchemaBridge.Proofs.Schema.Tables

namespace SchemaBridge

/-- A table has the columns with its identifiers. -/
theorem Table.hasColumn_iff (t : Table) (c : ColumnId) :
    t.hasColumn c = true ↔ c ∈ t.columns.map (·.id) := by
  simp [Table.hasColumn, Table.column?, List.find?_isSome]

/-! ## References -/

/-- A foreign key of a table refers to a table of the list: its column lists are not empty, equally
long, and name columns of the two tables. -/
structure ForeignKey.RefersIn (l : KeyedTables) (t : Table) (f : ForeignKey) : Prop where
  nonempty : f.columns ≠ []
  sameLength : f.columns.length = f.referencedColumns.length
  columns : ∀ c ∈ f.columns, t.hasColumn c = true
  parent : ∃ p, tableIn l f.referencedTable = some p ∧
    ∀ c ∈ f.referencedColumns, p.hasColumn c = true

/-- Every reference of a table leads to something that exists. -/
structure Table.RefersIn (l : KeyedTables) (t : Table) : Prop where
  primaryKey : ∀ k ∈ t.primaryKey, t.hasColumn k.column = true
  indexes : ∀ i ∈ t.indexes, ∀ k ∈ i.keys, t.hasColumn k.column = true
  foreignKeys : ∀ f ∈ t.foreignKeys, f.RefersIn l t

/-- Every table of a list is still there in another one, with all its columns. -/
def ColumnsKept (l l' : KeyedTables) : Prop :=
  ∀ id p, tableIn l id = some p →
    ∃ p', tableIn l' id = some p' ∧ ∀ c, p.hasColumn c = true → p'.hasColumn c = true

/-- A foreign key refers to what is there while no column is lost. -/
theorem ForeignKey.RefersIn.mono {l l' : KeyedTables} {t t' : Table} {f : ForeignKey}
    (h : f.RefersIn l t) (hl : ColumnsKept l l')
    (ht : ∀ c, t.hasColumn c = true → t'.hasColumn c = true) : f.RefersIn l' t' := by
  obtain ⟨p, hp, hcs⟩ := h.parent
  obtain ⟨p', hp', hkept⟩ := hl _ p hp
  exact ⟨h.nonempty, h.sameLength, fun c hc => ht c (h.columns c hc),
    p', hp', fun c hc => hkept c (hcs c hc)⟩

theorem Table.RefersIn.mono {l l' : KeyedTables} {t : Table} (h : t.RefersIn l)
    (hl : ColumnsKept l l') : t.RefersIn l' :=
  ⟨h.primaryKey, h.indexes, fun f hf => (h.foreignKeys f hf).mono hl fun _ hc => hc⟩

/-! ## Targets of issues -/

/-- A target that is the schema or a whole table. -/
def IssueTarget.IsBroad : IssueTarget → Prop
  | .schema | .table _ => True
  | _ => False

/-- Whether a table has the part of it that a target names. -/
def Table.HasPart (t : Table) : IssueTarget → Prop
  | .schema | .table _ => True
  | .column _ c => t.hasColumn c = true
  | .index _ i => ∃ x ∈ t.indexes, x.id = i
  | .foreignKey _ f => ∃ x ∈ t.foreignKeys, x.id = f
  | .check _ c => ∃ x ∈ t.checks, x.id = c

/-- Whether the object a target names exists. -/
def HasTargetIn (l : KeyedTables) (target : IssueTarget) : Prop :=
  ∀ id, target.table? = some id → ∃ t, tableIn l id = some t ∧ t.HasPart target

/-- The schema as a whole is always there. -/
theorem HasTargetIn.schema (l : KeyedTables) : HasTargetIn l .schema := by
  intro id h
  cases h

/-- A table that is found is there. -/
theorem HasTargetIn.of_tableIn {l : KeyedTables} {id : TableId} {t : Table}
    (h : tableIn l id = some t) : HasTargetIn l (.table id) := by
  intro k hk
  cases hk
  exact ⟨t, h, trivial⟩

/-- A target stays if its table does, with the part it names. -/
theorem HasTargetIn.mono {l l' : KeyedTables} {target : IssueTarget} (h : HasTargetIn l target)
    (hl : ∀ id t, tableIn l id = some t →
      ∃ t', tableIn l' id = some t' ∧ (t.HasPart target → t'.HasPart target)) :
    HasTargetIn l' target := by
  intro id hid
  obtain ⟨t, ht, hp⟩ := h id hid
  obtain ⟨t', ht', hkept⟩ := hl id t ht
  exact ⟨t', ht', hkept hp⟩

/-! ## Sound models -/

/-- Identifiers are below the next one and used once, and everything refers to what is there. -/
structure Model.Sound (m : Model) : Prop where
  positive : 0 < m.nextId
  ordered : (m.tables.map (·.1.val)).Pairwise (· < ·)
  keyed : ∀ e ∈ m.tables, e.2.id = e.1
  distinct : m.ids.Nodup
  inRange : ∀ i ∈ m.ids, 0 < i ∧ i < m.nextId
  refers : ∀ e ∈ m.tables, e.2.RefersIn m.tables
  targets : ∀ i ∈ m.issues, HasTargetIn m.tables i.target
  broad : ∀ i ∈ m.issues, i.stage ≠ .mapper → i.target.IsBroad

namespace Model.Sound

variable {m : Model}

/-- No two tables have one identifier. -/
theorem nodup_keys (h : m.Sound) : (m.tables.map (·.1)).Nodup := nodup_keys_of_ordered h.ordered

/-- The identifier of a table is one of the model. -/
theorem mem_ids (h : m.Sound) {e : TableId × Table} (he : e ∈ m.tables) : e.1.val ∈ m.ids := by
  rw [Model.ids, mem_idsIn_iff]
  exact ⟨e, he, by rw [← h.keyed e he]; simp [Table.ids]⟩

theorem key_lt (h : m.Sound) {e : TableId × Table} (he : e ∈ m.tables) : e.1.val < m.nextId :=
  (h.inRange _ (h.mem_ids he)).2

/-- The model without tables is sound. -/
theorem empty (source : SourceDialect) (target : TargetDialect) (audit : Audit) :
    (Model.empty source target audit).Sound where
  positive := Nat.one_pos
  ordered := List.Pairwise.nil
  keyed := by intro e he; cases he
  distinct := List.nodup_nil
  inRange := by intro i hi; cases hi
  refers := by intro e he; cases he
  targets := by intro i hi; cases hi
  broad := by intro i hi; cases hi

/-- Giving out an identifier leaves a model sound. -/
theorem allocate (h : m.Sound) : m.allocate.2.Sound where
  positive := Nat.succ_pos _
  ordered := h.ordered
  keyed := h.keyed
  distinct := h.distinct
  inRange := fun i hi => ⟨(h.inRange i hi).1, Nat.lt_succ_of_lt (h.inRange i hi).2⟩
  refers := h.refers
  targets := h.targets
  broad := h.broad

/-- The identifier given out is new. -/
theorem nextId_not_mem (h : m.Sound) : m.nextId ∉ m.ids := by
  intro hm
  exact Nat.lt_irrefl _ (h.inRange _ hm).2

/-- Issues about something that exists leave a model sound. -/
theorem addIssues (h : m.Sound) {l : List Issue} (ht : ∀ i ∈ l, HasTargetIn m.tables i.target)
    (hb : ∀ i ∈ l, i.stage ≠ .mapper → i.target.IsBroad) :
    ({ m with issues := m.issues ++ l } : Model).Sound where
  positive := h.positive
  ordered := h.ordered
  keyed := h.keyed
  distinct := h.distinct
  inRange := h.inRange
  refers := h.refers
  targets := by
    intro i hi
    rcases List.mem_append.1 hi with hi | hi
    · exact h.targets i hi
    · exact ht i hi
  broad := by
    intro i hi
    rcases List.mem_append.1 hi with hi | hi
    · exact h.broad i hi
    · exact hb i hi

/-- An issue about something that is there. -/
theorem addIssue (h : m.Sound) {i : Issue} (ht : HasTargetIn m.tables i.target)
    (hb : i.stage ≠ .mapper → i.target.IsBroad) : (m.addIssue i).Sound := by
  refine h.addIssues ?_ ?_
  · intro j hj
    rw [List.mem_singleton.1 hj]
    exact ht
  · intro j hj
    rw [List.mem_singleton.1 hj]
    exact hb

/-- Without the issues of a stage a model stays sound. -/
theorem clearIssues (h : m.Sound) (s : Stage) : (m.clearIssues s).Sound where
  positive := h.positive
  ordered := h.ordered
  keyed := h.keyed
  distinct := h.distinct
  inRange := h.inRange
  refers := h.refers
  targets := fun i hi => h.targets i (List.mem_of_mem_filter hi)
  broad := fun i hi => h.broad i (List.mem_of_mem_filter hi)

end Model.Sound

/-! ## Changing one table -/

/-- A table that may take the place of another one in a sound model: its references lead somewhere,
its identifiers are those of the other or were given out to nobody, and it keeps the columns of the
other and the parts that issues are about. -/
structure Table.MayReplace (m : Model) (t t' : Table) : Prop where
  id : t'.id = t.id
  distinct : t'.ids.Nodup
  ids : ∀ i ∈ t'.ids, i ∈ t.ids ∨ (i ∉ m.ids ∧ 0 < i ∧ i < m.nextId)
  columns : ∀ c, t.hasColumn c = true → t'.hasColumn c = true
  refers : t'.RefersIn m.tables
  parts : ∀ target, t.HasPart target → t'.HasPart target

/-- Which columns a table has depends on their identifiers. -/
theorem Table.hasColumn_congr {t t' : Table}
    (h : t'.columns.map (·.id) = t.columns.map (·.id)) (c : ColumnId) :
    t'.hasColumn c = t.hasColumn c := by
  rw [Bool.eq_iff_iff, Table.hasColumn_iff, Table.hasColumn_iff, h]

/-- Lists with the same images have the same members of an image. -/
theorem mem_congr_of_map_eq {α β : Type} {l l' : List α} {g : α → β} (h : l'.map g = l.map g)
    (b : β) : (∃ x ∈ l', g x = b) ↔ ∃ x ∈ l, g x = b := by
  rw [← List.mem_map, ← List.mem_map, h]

namespace Table.MayReplace

variable {m : Model} {id : TableId} {t t' : Table}

/-- A table that differs only in what its parts contain, and whose key is made of its columns. -/
theorem ofSameParts (h : m.Sound) (ht : m.table? id = some t) (hid : t'.id = t.id)
    (hcolumns : t'.columns.map (·.id) = t.columns.map (·.id)) (hindexes : t'.indexes = t.indexes)
    (hkeys : t'.foreignKeys = t.foreignKeys)
    (hchecks : t'.checks.map (·.id) = t.checks.map (·.id))
    (hprimary : ∀ k ∈ t'.primaryKey, t.hasColumn k.column = true) : t.MayReplace m t' := by
  have hmem : (id, t) ∈ m.tables := mem_of_tableIn ht
  have hrefers : t.RefersIn m.tables := h.refers _ hmem
  have hhas := Table.hasColumn_congr hcolumns
  have hids : t'.ids = t.ids := by
    have hc : t'.columns.map (·.id.val) = t.columns.map (·.id.val) := by
      have hm := congrArg (List.map (·.val)) hcolumns
      rwa [List.map_map, List.map_map] at hm
    have hk : t'.checks.map (·.id.val) = t.checks.map (·.id.val) := by
      have hm := congrArg (List.map (·.val)) hchecks
      rwa [List.map_map, List.map_map] at hm
    rw [Table.ids, Table.ids, hid, hc, hindexes, hk, hkeys]
  -- no identifier is new, so those of the table stay apart from each other and from the rest
  have hdistinct : t.ids.Nodup := by
    have hd := h.distinct
    rw [Model.ids, idsIn, List.nodup_flatMap] at hd
    exact hd.1 _ hmem
  refine ⟨hid, hids ▸ hdistinct, fun i hi => Or.inl (hids ▸ hi), fun c hc => hhas c ▸ hc,
    ⟨?_, ?_, ?_⟩, ?_⟩
  · intro k hk
    rw [hhas]
    exact hprimary k hk
  · intro i hi k hk
    rw [hhas]
    exact hrefers.indexes i (hindexes ▸ hi) k hk
  · intro f hf
    exact (hrefers.foreignKeys f (hkeys ▸ hf)).mono (fun _ p hp => ⟨p, hp, fun _ hc => hc⟩)
      fun c hc => hhas c ▸ hc
  · intro target hp
    -- what an issue is about is a part, and all parts are still there
    cases target with
    | schema => trivial
    | table _ => trivial
    | column _ c => exact (hhas c).trans hp
    | index _ i =>
      show ∃ x ∈ t'.indexes, x.id = i
      rw [hindexes]
      exact hp
    | foreignKey _ f =>
      show ∃ x ∈ t'.foreignKeys, x.id = f
      rw [hkeys]
      exact hp
    | check _ c => exact (mem_congr_of_map_eq hchecks c).2 hp

/-- A table with one more part, under an identifier that has just been given out. -/
theorem ofNewPart (h : m.Sound) (ht : m.table? id = some t) (hid : t'.id = t.id)
    (hids : t'.ids.Perm (m.nextId :: t.ids))
    (hcolumns : ∀ c, t.hasColumn c = true → t'.hasColumn c = true)
    (hrefers : t'.RefersIn m.tables) (hparts : ∀ target, t.HasPart target → t'.HasPart target) :
    t.MayReplace m.allocate.2 t' := by
  have hmem : (id, t) ∈ m.tables := mem_of_tableIn ht
  have hdistinct : t.ids.Nodup := by
    have hd := h.distinct
    rw [Model.ids, idsIn, List.nodup_flatMap] at hd
    exact hd.1 _ hmem
  have hsub : ∀ i ∈ t.ids, i ∈ m.ids := by
    intro i hi
    rw [Model.ids, mem_idsIn_iff]
    exact ⟨_, hmem, hi⟩
  refine ⟨hid, ?_, ?_, hcolumns, hrefers, hparts⟩
  · rw [hids.nodup_iff, List.nodup_cons]
    exact ⟨fun hm => h.nextId_not_mem (hsub _ hm), hdistinct⟩
  · intro i hi
    rcases List.mem_cons.1 (hids.mem_iff.1 hi) with rfl | hi
    · exact Or.inr ⟨h.nextId_not_mem, h.positive, Nat.lt_succ_self _⟩
    · exact Or.inl hi

end Table.MayReplace

namespace Model.Sound

variable {m : Model} {id : TableId} {t : Table} {f : Table → Table}

/-- A change of one table in which no column is lost. -/
theorem columnsKept_modifyTable (ht : m.table? id = some t)
    (hf : ∀ c, t.hasColumn c = true → (f t).hasColumn c = true) :
    ColumnsKept m.tables (m.modifyTable id f).tables := by
  intro k p hp
  rw [Model.modifyTable_tables, tableIn_changeIn]
  by_cases hk : k = id
  · subst hk
    rw [Model.table?_eq_tableIn, hp] at ht
    cases ht
    exact ⟨f t, by simp [hp], hf⟩
  · exact ⟨p, by simp [hk, hp], fun _ hc => hc⟩

/-- A change of one table leaves a model sound. -/
theorem modifyTable (h : m.Sound) (ht : m.table? id = some t) (hf : t.MayReplace m (f t)) :
    (m.modifyTable id f).Sound := by
  obtain ⟨pre, post, hl, hpre, hpost⟩ := exists_split_of_tableIn h.nodup_keys ht
  have hl' : (m.modifyTable id f).tables = pre ++ (id, f t) :: post := by
    rw [Model.modifyTable_tables, hl, changeIn_split hpre hpost]
  -- the identifiers of the table stand apart from those of the others, before and after
  have hids : m.ids.Perm (t.ids ++ idsIn (pre ++ post)) := by
    rw [Model.ids, hl]
    exact idsIn_split_perm pre post (id, t)
  have hids' : (m.modifyTable id f).ids.Perm ((f t).ids ++ idsIn (pre ++ post)) := by
    rw [Model.ids, hl']
    exact idsIn_split_perm pre post (id, f t)
  have hnodup := List.nodup_append.1 (hids.nodup_iff.1 h.distinct)
  have hkept := columnsKept_modifyTable (m := m) ht hf.columns
  refine ⟨h.positive, ?_, ?_, ?_, ?_, ?_, ?_, h.broad⟩
  · have hkeys : (m.modifyTable id f).tables.map (·.1.val) = m.tables.map (·.1.val) := by
      rw [hl, hl']
      simp
    rw [hkeys]
    exact h.ordered
  · intro e he
    rw [hl'] at he
    rcases List.mem_append.1 he with he | he
    · exact h.keyed e (by rw [hl]; exact List.mem_append_left _ he)
    rcases List.mem_cons.1 he with rfl | he
    · have hid : t.id = id := h.keyed (id, t) (mem_of_tableIn ht)
      exact hf.id.trans hid
    · exact h.keyed e (by rw [hl]; exact List.mem_append_right _ (List.mem_cons_of_mem _ he))
  · rw [hids'.nodup_iff, List.nodup_append]
    refine ⟨hf.distinct, hnodup.2.1, ?_⟩
    rintro i hi j hj rfl
    -- what is new was given out to nobody, so no other table has it
    rcases hf.ids i hi with hold | ⟨hnew, -⟩
    · exact hnodup.2.2 i hold i hj rfl
    · exact hnew (hids.mem_iff.2 (List.mem_append_right _ hj))
  · intro i hi
    rcases List.mem_append.1 (hids'.mem_iff.1 hi) with hi | hi
    · rcases hf.ids i hi with hold | ⟨-, hr⟩
      · exact h.inRange i (hids.mem_iff.2 (List.mem_append_left _ hold))
      · exact hr
    · exact h.inRange i (hids.mem_iff.2 (List.mem_append_right _ hi))
  · intro e he
    rw [hl'] at he
    have hrefers : e.2.RefersIn m.tables := by
      rcases List.mem_append.1 he with he | he
      · exact h.refers e (by rw [hl]; exact List.mem_append_left _ he)
      rcases List.mem_cons.1 he with rfl | he
      · exact hf.refers
      · exact h.refers e (by rw [hl]; exact List.mem_append_right _ (List.mem_cons_of_mem _ he))
    exact hrefers.mono hkept
  · intro i hi
    refine (h.targets i hi).mono ?_
    intro k p hp
    rw [Model.modifyTable_tables, tableIn_changeIn]
    by_cases hk : k = id
    · subst hk
      rw [Model.table?_eq_tableIn, hp] at ht
      cases ht
      exact ⟨f t, by simp [hp], hf.parts i.target⟩
    · exact ⟨p, by simp [hk, hp], fun hp => hp⟩

/-- A new table with new identifiers leaves a model sound. -/
theorem insertTable (h : m.Sound) {t : Table} (hlast : ∀ e ∈ m.tables, e.1.val < t.id.val)
    (hdistinct : t.ids.Nodup) (hnew : ∀ i ∈ t.ids, i ∉ m.ids ∧ 0 < i ∧ i < m.nextId)
    (hrefers : t.RefersIn m.tables) : (m.insertTable t).Sound := by
  have htables : (m.insertTable t).tables = m.tables ++ [(t.id, t)] := insertSorted_eq_append hlast t
  have hids : (m.insertTable t).ids = m.ids ++ t.ids := by
    rw [Model.ids, Model.ids, htables, idsIn_append]
    simp
  -- the new table comes last, so that every table is still found under its key
  have hfound : ∀ k p, tableIn m.tables k = some p → tableIn (m.insertTable t).tables k = some p := by
    intro k p hp
    rw [htables, tableIn_append_singleton, hp]
    rfl
  have hkept : ColumnsKept m.tables (m.insertTable t).tables :=
    fun k p hp => ⟨p, hfound k p hp, fun _ hc => hc⟩
  refine ⟨h.positive, ?_, ?_, ?_, ?_, ?_, ?_, h.broad⟩
  · rw [htables, List.map_append, List.pairwise_append]
    refine ⟨h.ordered, List.pairwise_singleton _ _, ?_⟩
    intro a ha b hb
    obtain ⟨e, he, rfl⟩ := List.mem_map.1 ha
    rw [List.map_singleton, List.mem_singleton] at hb
    rw [hb]
    exact hlast e he
  · intro e he
    rw [htables] at he
    rcases List.mem_append.1 he with he | he
    · exact h.keyed e he
    · rw [List.mem_singleton.1 he]
  · rw [hids, List.nodup_append]
    refine ⟨h.distinct, hdistinct, ?_⟩
    rintro i hi j hj rfl
    exact (hnew i hj).1 hi
  · intro i hi
    rw [hids] at hi
    rcases List.mem_append.1 hi with hi | hi
    · exact h.inRange i hi
    · exact (hnew i hi).2
  · intro e he
    rw [htables] at he
    rcases List.mem_append.1 he with he | he
    · exact (h.refers e he).mono hkept
    · rw [List.mem_singleton.1 he]
      exact hrefers.mono hkept
  · intro i hi
    refine (h.targets i hi).mono ?_
    intro k p hp
    exact ⟨p, hfound k p hp, fun hp => hp⟩

end Model.Sound

/-! ## Leaving parts out -/

/-- A table with the columns and checks of another one, from which indexes and foreign keys may be
missing, and whose indexes may have other names and foreign keys other actions. -/
structure Table.Trims (t t' : Table) : Prop where
  id : t'.id = t.id
  columns : t'.columns = t.columns
  primaryKey : t'.primaryKey = t.primaryKey
  checks : t'.checks = t.checks
  ids : t'.ids.Sublist t.ids
  indexes : ∀ i' ∈ t'.indexes, ∃ i ∈ t.indexes, i'.keys = i.keys
  foreignKeys : ∀ f' ∈ t'.foreignKeys, ∃ f ∈ t.foreignKeys, f'.columns = f.columns
    ∧ f'.referencedTable = f.referencedTable ∧ f'.referencedColumns = f.referencedColumns

/-- A table that is trimmed has its columns. -/
theorem Table.Trims.hasColumn {t t' : Table} (h : t.Trims t') (c : ColumnId) :
    t'.hasColumn c = t.hasColumn c :=
  Table.hasColumn_congr (congrArg _ h.columns) c

/-- Each table of a list with parts left out, under the same identifiers. -/
def Trimmed (l l' : KeyedTables) : Prop :=
  List.Forall₂ (fun e e' => e'.1 = e.1 ∧ e.2.Trims e'.2) l l'

/-- Trimmed tables are under the same identifiers. -/
theorem Trimmed.keys {l l' : KeyedTables} (h : Trimmed l l') :
    l'.map (·.1) = l.map (·.1) := by
  induction h with
  | nil => rfl
  | cons he _ ih => rw [List.map_cons, List.map_cons, ih, he.1]

/-- No identifier is new in them. -/
theorem Trimmed.ids {l l' : KeyedTables} (h : Trimmed l l') : (idsIn l').Sublist (idsIn l) := by
  induction h with
  | nil => exact List.Sublist.refl _
  | cons he _ ih => exact he.2.ids.append ih

/-- A table that is found is found trimmed. -/
theorem Trimmed.tableIn {l l' : KeyedTables} (h : Trimmed l l') {id : TableId} {t : Table}
    (ht : tableIn l id = some t) : ∃ t', tableIn l' id = some t' ∧ t.Trims t' := by
  induction h with
  | nil => cases ht
  | cons he _ ih =>
    rw [tableIn_cons] at ht ⊢
    rw [he.1]
    split at ht
    · rename_i hid
      cases ht
      exact ⟨_, by rw [if_pos hid], he.2⟩
    · rename_i hid
      rw [if_neg hid]
      exact ih ht

/-- No column is lost. -/
theorem Trimmed.columnsKept {l l' : KeyedTables} (h : Trimmed l l') : ColumnsKept l l' := by
  intro id p hp
  obtain ⟨p', hp', ht⟩ := h.tableIn hp
  exact ⟨p', hp', fun c hc => (ht.hasColumn c).trans hc⟩

/-- A trimmed table was there. -/
theorem Trimmed.exists_of_mem {l l' : KeyedTables} (h : Trimmed l l') {e' : TableId × Table}
    (he' : e' ∈ l') : ∃ e ∈ l, e'.1 = e.1 ∧ e.2.Trims e'.2 := by
  induction h with
  | nil => cases he'
  | cons he _ ih =>
    rcases List.mem_cons.1 he' with rfl | he'
    · exact ⟨_, List.mem_cons_self, he⟩
    · obtain ⟨e, hm, hr⟩ := ih he'
      exact ⟨e, List.mem_cons_of_mem _ hm, hr⟩

/-- With parts of its tables left out a model stays sound, if its issues have their targets. -/
theorem Model.Sound.trim {m : Model} (h : m.Sound) {l : KeyedTables} (hl : Trimmed m.tables l)
    {issues : List Issue} (ht : ∀ i ∈ issues, HasTargetIn l i.target)
    (hb : ∀ i ∈ issues, i.stage ≠ .mapper → i.target.IsBroad) :
    ({ m with tables := l, issues } : Model).Sound where
  positive := h.positive
  ordered := by
    have hkeys : l.map (·.1.val) = m.tables.map (·.1.val) := by
      have hm := congrArg (List.map (·.val)) hl.keys
      rwa [List.map_map, List.map_map] at hm
    exact hkeys ▸ h.ordered
  keyed := by
    intro e' he'
    obtain ⟨e, he, hkey, htrim⟩ := hl.exists_of_mem he'
    rw [htrim.id, hkey]
    exact h.keyed e he
  distinct := h.distinct.sublist hl.ids
  inRange := fun i hi => h.inRange i (hl.ids.subset hi)
  refers := by
    intro e' he'
    obtain ⟨e, he, -, htrim⟩ := hl.exists_of_mem he'
    have hrefers := h.refers e he
    refine ⟨?_, ?_, ?_⟩
    · intro k hk
      rw [htrim.hasColumn]
      exact hrefers.primaryKey k (htrim.primaryKey ▸ hk)
    · intro i' hi' k hk
      obtain ⟨i, hi, hkeys⟩ := htrim.indexes i' hi'
      rw [htrim.hasColumn]
      exact hrefers.indexes i hi k (hkeys ▸ hk)
    · -- of a foreign key only its actions may be others
      intro f' hf'
      obtain ⟨f, hf, hcolumns, htable, hreferenced⟩ := htrim.foreignKeys f' hf'
      have hr := (hrefers.foreignKeys f hf).mono hl.columnsKept
        fun c hc => (htrim.hasColumn c).trans hc
      exact ⟨hcolumns ▸ hr.nonempty, by rw [hcolumns, hreferenced]; exact hr.sameLength,
        hcolumns ▸ hr.columns, by rw [htable, hreferenced]; exact hr.parent⟩
  targets := ht
  broad := hb

end SchemaBridge
