/-
# What calls put into a table

A draft asks for columns, keys, indexes, foreign keys and checks.  Whatever a call does not put into
the table it names, it says in an issue, and an index of a new table comes from its draft.

## Key statements

* `Builder.hasParts_addConstraints`: constraints that are added to a table.
* `Builder.holds_addTable`: a table that is added.
-/
import SchemaBridge.Proofs.Assembly.Calls

namespace SchemaBridge

/-! ## Drafts and what follows them -/

/-- A column as a draft describes it, except that it may have become part of a key. -/
structure Column.Follows (d : ColumnDraft) (c : Column) : Prop where
  name : c.name = d.name
  sourceType : c.sourceType = d.sourceType
  nullable : c.nullable = true → d.nullable = true
  default : c.default = d.default.map .fresh
  generated : c.generated = d.generated.map .fresh
  identity : c.identity = d.identity

/-- A column that may have become one of a key follows its draft. -/
theorem Column.Follows.tightened {d : ColumnDraft} {c c' : Column} (h : c.Follows d)
    (hc : c.Tightened c') : c'.Follows d := by
  rcases hc with rfl | rfl
  · exact h
  · exact ⟨h.name, h.sourceType, fun hn => absurd hn Bool.false_ne_true, h.default, h.generated,
      h.identity⟩

/-- An index as a draft describes it, with its columns looked up in a table. -/
structure Index.Follows (t : Table) (d : IndexDraft) (i : Index) : Prop where
  name : ∀ n, d.name = some n → i.name = n
  keys : Builder.resolveKeys t d.columns = .ok i.keys
  unique : i.unique = d.unique

/-- A check as a draft describes it. -/
structure CheckConstraint.Follows (d : CheckDraft) (c : CheckConstraint) : Prop where
  name : ∀ n, d.name = some n → c.name = n
  expr : c.expr = .fresh d.expr

/-- Columns are looked up by what no change of them touches. -/
theorem Builder.resolveKeys_congr {t t' : Table}
    (h : t'.columns.map Column.core = t.columns.map Column.core) (keys : List KeyDraft) :
    resolveKeys t' keys = resolveKeys t keys := by
  have hfind (t : Table) (n : String) : (t.columnByName? n).map (·.id)
      = ((t.columns.map Column.core).find? fun c => Text.sameFolded c.name n).map (·.id) := by
    rw [List.find?_map, Option.map_map]
    rfl
  exact resolveEach_congr (fun n => by rw [hfind, hfind, h]) keys

/-- An index follows its draft in every table with the same columns. -/
theorem Index.Follows.congr {t t' : Table} {d : IndexDraft} {i : Index} (h : i.Follows t d)
    (hcolumns : t'.columns.map Column.core = t.columns.map Column.core) : i.Follows t' d :=
  ⟨h.name, (Builder.resolveKeys_congr hcolumns _).trans h.keys, h.unique⟩

namespace Builder

/-- The name of an index; one without is named for its table and columns. -/
def indexName (t : Table) (d : IndexDraft) : String :=
  d.name.getD (t.name ++ "_" ++ "_".intercalate (d.columns.map (·.1)) ++ "_"
    ++ (if d.unique then "key" else "idx"))

/-- What is said of an index one of whose keys is no column. -/
def lostIndexIssue (id : TableId) (t : Table) (d : IndexDraft) (missing : String) : Issue :=
  .raise .unsupportedConstraint .reader (.table id)
    ("Index " ++ indexName t d ++ " on " ++ t.name ++ " dropped: '" ++ missing
      ++ "' is not a plain column of the table.")

/-- An index is in its table, or it is said that it is not. -/
def HasIndex (b : Builder) (id : TableId) (d : IndexDraft) : Prop :=
  ∃ t, b.model.table? id = some t ∧ ((∃ i ∈ t.indexes, i.Follows t d)
    ∨ ∃ missing, resolveKeys t d.columns = .error missing
      ∧ lostIndexIssue id t d missing ∈ b.model.issues)

/-- A foreign key waits for every table to be known. -/
def HasForeignKey (b : Builder) (id : TableId) (d : ForeignKeyDraft) : Prop :=
  ∃ p ∈ b.pending, p.table = id ∧ p.draft = d

/-- A table has a check that was asked for. -/
def HasCheck (b : Builder) (id : TableId) (d : CheckDraft) : Prop :=
  ∃ t, b.model.table? id = some t ∧ ∃ c ∈ t.checks, c.Follows d

/-- The columns of a primary key are those that were named. -/
def HasKey (b : Builder) (id : TableId) (keys : List KeyDraft) : Prop :=
  ∃ t, b.model.table? id = some t ∧ resolveKeys t keys = .ok t.primaryKey

/-- The indexes, foreign keys and checks of a draft are where they belong. -/
structure HasParts (b : Builder) (id : TableId) (draft : TableDraft) : Prop where
  indexes : ∀ d ∈ draft.indexes, b.HasIndex id d
  foreignKeys : ∀ d ∈ draft.foreignKeys, b.HasForeignKey id d
  checks : ∀ d ∈ draft.checks, b.HasCheck id d

namespace Keeps

variable {b b' : Builder} {id : TableId}

/-- A table that is there stays there. -/
theorem isSome (h : b.Keeps b') (ht : (b.model.table? id).isSome = true) :
    (b'.model.table? id).isSome = true := by
  obtain ⟨t, ht⟩ := Option.isSome_iff_exists.1 ht
  obtain ⟨t', ht', -⟩ := h.tables id t ht
  rw [ht']
  rfl

theorem hasIndex (h : b.Keeps b') {d : IndexDraft} (hd : b.HasIndex id d) : b'.HasIndex id d := by
  obtain ⟨t, ht, hindex⟩ := hd
  obtain ⟨t', ht', hgrows⟩ := h.tables id t ht
  have hkeys := resolveKeys_congr hgrows.columns d.columns
  refine ⟨t', ht', ?_⟩
  rcases hindex with ⟨i, hi, hf⟩ | ⟨missing, hmissing, hissue⟩
  · exact Or.inl ⟨i, hgrows.indexes.subset hi, hf.name, hkeys.trans hf.keys, hf.unique⟩
  · refine Or.inr ⟨missing, hkeys.trans hmissing, ?_⟩
    have hsame : lostIndexIssue id t' d missing = lostIndexIssue id t d missing := by
      unfold lostIndexIssue indexName
      rw [hgrows.name]
    rw [hsame]
    exact h.issues.subset hissue

theorem hasForeignKey (h : b.Keeps b') {d : ForeignKeyDraft} (hd : b.HasForeignKey id d) :
    b'.HasForeignKey id d := by
  obtain ⟨p, hp, hid, hdraft⟩ := hd
  exact ⟨p, h.pending.subset hp, hid, hdraft⟩

theorem hasCheck (h : b.Keeps b') {d : CheckDraft} (hd : b.HasCheck id d) : b'.HasCheck id d := by
  obtain ⟨t, ht, c, hc, hf⟩ := hd
  obtain ⟨t', ht', hgrows⟩ := h.tables id t ht
  exact ⟨t', ht', c, hgrows.checks.subset hc, hf⟩

theorem hasParts (h : b.Keeps b') {draft : TableDraft} (hd : b.HasParts id draft) :
    b'.HasParts id draft :=
  ⟨fun d hm => h.hasIndex (hd.indexes d hm), fun d hm => h.hasForeignKey (hd.foreignKeys d hm),
    fun d hm => h.hasCheck (hd.checks d hm)⟩

end Keeps

/-! ## New parts -/

/-- A change of one table, and the table under any identifier. -/
theorem table?_modifyTable (m : Model) (id k : TableId) (f : Table → Table) :
    (m.modifyTable id f).table? k = if k = id then (m.table? k).map f else m.table? k :=
  tableIn_changeIn m.tables id k f

/-- The index that a draft becomes. -/
def newIndex (b : Builder) (t : Table) (d : IndexDraft) (keys : List KeyPart) : Index :=
  { id := ⟨b.model.nextId⟩, name := indexName t d, keys, unique := d.unique }

/-- The check that a draft becomes. -/
def newCheck (b : Builder) (t : Table) (d : CheckDraft) : CheckConstraint :=
  { id := ⟨b.model.nextId⟩
    name := d.name.getD (t.name ++ "_check" ++ Text.decimal (t.checks.length + 1))
    expr := .fresh d.expr }

/-- Change a table, with the next identifier given out. -/
def withPart (b : Builder) (id : TableId) (f : Table → Table) : Builder :=
  { b with model := ({ b.model with nextId := b.model.nextId + 1 } : Model).modifyTable id f }

variable {b b' : Builder} {id : TableId} {t : Table}

/-- A part of one table, and the table under any identifier. -/
theorem table?_withPart (b : Builder) (id k : TableId) (f : Table → Table) :
    (b.withPart id f).model.table? k
      = if k = id then (b.model.table? k).map f else b.model.table? k :=
  table?_modifyTable _ id k f

/-- A part of one table, and this table. -/
theorem table?_withPart_self (ht : b.model.table? id = some t) (f : Table → Table) :
    (b.withPart id f).model.table? id = some (f t) := by
  rw [table?_withPart, if_pos rfl, ht]
  rfl

/-- What an index adds to the table, when its keys are columns. -/
theorem addIndex_ok {d : IndexDraft} {keys : List KeyPart} (ht : b.model.table? id = some t)
    (hk : resolveKeys t d.columns = .ok keys) : b.addIndex id d
      = b.withPart id fun u => { u with indexes := u.indexes ++ [newIndex b t d keys] } := by
  unfold addIndex
  simp only [Model.allocate]
  rw [show ({ b.model with nextId := b.model.nextId + 1 } : Model).table? id = some t from ht]
  dsimp only
  rw [hk]
  rfl

/-- What is said of it otherwise. -/
theorem addIndex_error {d : IndexDraft} {missing : String} (ht : b.model.table? id = some t)
    (hk : resolveKeys t d.columns = .error missing) : b.addIndex id d
      = { b with
          model := Model.addIssue { b.model with nextId := b.model.nextId + 1 }
            (lostIndexIssue id t d missing) } := by
  unfold addIndex
  simp only [Model.allocate]
  rw [show ({ b.model with nextId := b.model.nextId + 1 } : Model).table? id = some t from ht]
  dsimp only
  rw [hk]
  rfl

/-- A check is a part of its table. -/
theorem addCheck_eq (b : Builder) (id : TableId) (d : CheckDraft) : b.addCheck id d
    = b.withPart id fun u => { u with checks := u.checks ++ [newCheck b u d] } := rfl

/-- A new index is as it was asked for. -/
theorem follows_newIndex {d : IndexDraft} {keys : List KeyPart}
    (hk : resolveKeys t d.columns = .ok keys) : (newIndex b t d keys).Follows t d := by
  refine ⟨fun n hn => ?_, hk, rfl⟩
  show indexName t d = n
  rw [indexName, hn]
  rfl

/-- A new check is as it was asked for. -/
theorem follows_newCheck (b : Builder) (t : Table) (d : CheckDraft) :
    (newCheck b t d).Follows d := by
  refine ⟨fun n hn => ?_, rfl⟩
  show d.name.getD _ = n
  rw [hn]
  rfl

/-- A builder in which a table has more indexes, which follow drafts of a list, and more checks, and
nothing else of the tables has changed. -/
structure Extends (id : TableId) (ds : List IndexDraft) (b b' : Builder) : Prop where
  others : ∀ k, k ≠ id → b'.model.table? k = b.model.table? k
  table : ∀ t, b.model.table? id = some t → ∃ (is : List Index) (cs : List CheckConstraint),
    b'.model.table? id = some { t with indexes := t.indexes ++ is, checks := t.checks ++ cs }
      ∧ ∀ i ∈ is, ∃ d ∈ ds, i.Follows t d

namespace Extends

variable {b'' : Builder} {ds : List IndexDraft}

theorem ofTables (h : b'.model.tables = b.model.tables) : Extends id ds b b' where
  others k _ := by rw [Model.table?_eq_tableIn, h, Model.table?_eq_tableIn]
  table t ht := ⟨[], [], by
    rw [Model.table?_eq_tableIn, h, ← Model.table?_eq_tableIn, ht, List.append_nil,
      List.append_nil], List.forall_mem_nil _⟩

theorem trans (h : Extends id ds b b') (h' : Extends id ds b' b'') : Extends id ds b b'' where
  others k hk := (h'.others k hk).trans (h.others k hk)
  table t ht := by
    obtain ⟨is, cs, ht', hfollow⟩ := h.table t ht
    obtain ⟨is', cs', ht'', hfollow'⟩ := h'.table _ ht'
    refine ⟨is ++ is', cs ++ cs', ?_, List.forall_mem_append.2 ⟨hfollow, fun i hi => ?_⟩⟩
    · rw [ht'']
      simp only [List.append_assoc]
    · obtain ⟨d, hd, hf⟩ := hfollow' i hi
      exact ⟨d, hd, hf.congr rfl⟩

/-- Any number of parts. -/
theorem foldl {α : Type} {f : Builder → α → Builder} (l : List α)
    (hf : ∀ (b : Builder), ∀ a ∈ l, Extends id ds b (f b a)) (b : Builder) :
    Extends id ds b (l.foldl f b) := by
  induction l generalizing b with
  | nil => exact ofTables rfl
  | cons a l ih =>
    exact (hf b a List.mem_cons_self).trans
      (ih (fun b x hx => hf b x (List.mem_cons_of_mem _ hx)) (f b a))

/-- An index that is asked for. -/
theorem addIndex (b : Builder) (id : TableId) {d : IndexDraft} (hd : d ∈ ds) :
    Extends id ds b (b.addIndex id d) := by
  cases ht : b.model.table? id with
  | none =>
    have hsame : (b.addIndex id d).model.tables = b.model.tables := by
      unfold Builder.addIndex
      simp only [Model.allocate]
      rw [show ({ b.model with nextId := b.model.nextId + 1 } : Model).table? id = none from ht]
    exact ofTables hsame
  | some t =>
    cases hk : resolveKeys t d.columns with
    | error missing =>
      rw [addIndex_error ht hk]
      exact ofTables rfl
    | ok keys =>
      rw [addIndex_ok ht hk]
      refine ⟨fun k hne => ?_, fun u hu => ?_⟩
      · rw [table?_withPart, if_neg hne]
      · obtain rfl : u = t := Option.some.inj (hu.symm.trans ht)
        refine ⟨[newIndex b u d keys], [], ?_, ?_⟩
        · rw [table?_withPart_self hu, List.append_nil]
        · exact List.forall_mem_singleton.2 ⟨d, hd, follows_newIndex hk⟩

/-- A foreign key that waits extends no table. -/
theorem addForeignKey (b : Builder) (id : TableId) (d : ForeignKeyDraft) :
    Extends id ds b (b.addForeignKey id d) :=
  ofTables rfl

/-- A check that is asked for. -/
theorem addCheck (b : Builder) (id : TableId) (d : CheckDraft) :
    Extends id ds b (b.addCheck id d) := by
  rw [addCheck_eq]
  refine ⟨fun k hne => ?_, fun t ht => ?_⟩
  · rw [table?_withPart, if_neg hne]
  · refine ⟨[], [newCheck b t d], ?_, List.forall_mem_nil _⟩
    rw [table?_withPart_self ht, List.append_nil]

end Extends

/-- An index that is asked for is there, or an issue about it. -/
theorem hasIndex_addIndex (ht : (b.model.table? id).isSome = true) (d : IndexDraft) :
    (b.addIndex id d).HasIndex id d := by
  obtain ⟨t, ht⟩ := Option.isSome_iff_exists.1 ht
  cases hk : resolveKeys t d.columns with
  | error missing =>
    rw [addIndex_error ht hk]
    exact ⟨t, ht, Or.inr ⟨missing, hk, List.mem_append_right _ (List.mem_singleton_self _)⟩⟩
  | ok keys =>
    rw [addIndex_ok ht hk]
    exact ⟨_, table?_withPart_self ht _, Or.inl ⟨newIndex b t d keys,
      List.mem_append_right _ (List.mem_singleton_self _), (follows_newIndex hk).congr rfl⟩⟩

/-- A foreign key that is asked for waits. -/
theorem hasForeignKey_addForeignKey (b : Builder) (id : TableId) (d : ForeignKeyDraft) :
    (b.addForeignKey id d).HasForeignKey id d :=
  ⟨_, List.mem_append_right _ (List.mem_singleton_self _), rfl, rfl⟩

/-- A check that is asked for is there. -/
theorem hasCheck_addCheck (ht : (b.model.table? id).isSome = true) (d : CheckDraft) :
    (b.addCheck id d).HasCheck id d := by
  obtain ⟨t, ht⟩ := Option.isSome_iff_exists.1 ht
  rw [addCheck_eq]
  exact ⟨_, table?_withPart_self ht _, newCheck b t d,
    List.mem_append_right _ (List.mem_singleton_self _), follows_newCheck b t d⟩

/-- Issues of the reader, one after another. -/
theorem foldl_issue (b : Builder) (c : IssueCategory) (target : IssueTarget)
    (details : List String) : details.foldl (fun b d => b.issue c target d) b
      = { b with model := { b.model with
          issues := b.model.issues ++ details.map (.raise c .reader target) } } := by
  induction details generalizing b with
  | nil =>
    show b = { b with model := { b.model with issues := b.model.issues ++ [] } }
    rw [List.append_nil]
  | cons d details ih =>
    rw [List.foldl_cons, ih, List.map_cons]
    show ({ b with model := { b.model with issues := (b.model.issues ++ [_]) ++ _ } } : Builder) = _
    rw [List.append_assoc]
    rfl

/-- What one call after another gives, and growth keeps, all calls of a list give. -/
theorem has_foldl {α : Type} {f : Builder → α → Builder} {P : Builder → α → Prop}
    (hgrows : ∀ (b : Builder) (a : α), b.Grows (f b a))
    (hstep : ∀ {b : Builder} (a : α), (b.model.table? id).isSome = true → P (f b a) a)
    (hkeeps : ∀ {b b' : Builder} {a : α}, b.Keeps b' → P b a → P b' a) (l : List α)
    (ht : (b.model.table? id).isSome = true) : ∀ a ∈ l, P (l.foldl f b) a := by
  induction l generalizing b with
  | nil => exact List.forall_mem_nil _
  | cons a l ih =>
    have hrest := (hgrows b a).keeps.isSome ht
    refine List.forall_mem_cons.2 ⟨?_, ih hrest⟩
    exact hkeeps (Grows.foldl hgrows l (f b a)).keeps (hstep a ht)

/-! ## All constraints of a draft -/

/-- Add the indexes, foreign keys and checks of a draft. -/
def addParts (b : Builder) (id : TableId) (draft : TableDraft) : Builder :=
  draft.checks.foldl (·.addCheck id ·) (draft.foreignKeys.foldl (·.addForeignKey id ·)
    (draft.indexes.foldl (·.addIndex id ·) b))

/-- A table whose columns may have become some of a key, and which has more indexes, all of which
follow drafts of a list. -/
structure Constrained (ds : List IndexDraft) (t t' : Table) : Prop where
  nspace : t'.nspace = t.nspace
  sourceName : t'.sourceName = t.sourceName
  columns : List.Forall₂ Column.Tightened t.columns t'.columns
  indexes : ∃ is, t'.indexes = t.indexes ++ is ∧ ∀ i ∈ is, ∃ d ∈ ds, i.Follows t' d

/-- A primary key that is set consists of the columns that were named. -/
theorem setPrimaryKey_ok {keys : List KeyDraft} (ht : b.model.table? id = some t)
    (hr : b.setPrimaryKey id keys = (.ok (), b')) :
    (∀ k, k ≠ id → b'.model.table? k = b.model.table? k)
      ∧ ∃ cs parts, b'.model.table? id = some { t with columns := cs, primaryKey := parts }
        ∧ resolveKeys t keys = .ok parts ∧ List.Forall₂ Column.Tightened t.columns cs := by
  unfold setPrimaryKey at hr
  rw [ht] at hr
  dsimp only at hr
  split at hr
  · cases hr
  · rename_i parts hparts
    cases hr
    refine ⟨fun k hk => by rw [table?_modifyTable, if_neg hk], ?_⟩
    obtain ⟨cs, hcs, he⟩ := Leads.foldl_require parts t
    refine ⟨cs, parts, ?_, hparts, hcs⟩
    rw [table?_modifyTable, if_pos rfl, ht, Option.map_some, he]

/-- The primary key of a draft, if it has one, is set first, and then its parts are added. -/
theorem addConstraints_ok {draft : TableDraft} (ht : b.model.table? id = some t)
    (hr : b.addConstraints id draft = (.ok (), b')) :
    ∃ b₁ : Builder, b' = b₁.addParts id draft ∧ (∀ k, k ≠ id → b₁.model.table? k = b.model.table? k)
      ∧ ∃ cs parts, b₁.model.table? id = some { t with columns := cs, primaryKey := parts }
        ∧ List.Forall₂ Column.Tightened t.columns cs
        ∧ (draft.primaryKey = [] → parts = t.primaryKey)
        ∧ (draft.primaryKey ≠ [] → resolveKeys t draft.primaryKey = .ok parts) := by
  unfold addConstraints at hr
  split at hr
  · cases hr
  · rename_i b₁ hkey
    cases hr
    refine ⟨b₁, rfl, ?_⟩
    split at hkey
    · rename_i hempty
      cases hkey
      exact ⟨fun _ _ => rfl, t.columns, t.primaryKey, ht, List.forall₂_same.2 fun _ _ => Or.inl rfl,
        fun _ => rfl, fun hne => absurd (List.isEmpty_iff.1 hempty) hne⟩
    · rename_i hempty
      obtain ⟨hothers, cs, parts, ht₁, hparts, hcs⟩ := setPrimaryKey_ok ht hkey
      exact ⟨hothers, cs, parts, ht₁, hcs, fun h => absurd (List.isEmpty_iff.2 h) hempty,
        fun _ => hparts⟩

/-- The parts of a draft leave everything else alone. -/
theorem extends_addParts (b : Builder) (id : TableId) (draft : TableDraft) :
    Extends id draft.indexes b (b.addParts id draft) := by
  set b₁ := draft.indexes.foldl (·.addIndex id ·) b with hb₁
  set b₂ := draft.foreignKeys.foldl (·.addForeignKey id ·) b₁ with hb₂
  have hindexes : Extends id draft.indexes b b₁ :=
    .foldl draft.indexes (fun b d hd => .addIndex b id hd) b
  have hkeys : Extends id draft.indexes b₁ b₂ :=
    .foldl draft.foreignKeys (fun b d _ => .addForeignKey b id d) b₁
  have hchecks : Extends id draft.indexes b₂ (b.addParts id draft) :=
    .foldl draft.checks (fun b d _ => .addCheck b id d) b₂
  exact (hindexes.trans hkeys).trans hchecks

/-- All parts of a draft are there, or issues about them. -/
theorem hasParts_addParts (ht : (b.model.table? id).isSome = true) (draft : TableDraft) :
    (b.addParts id draft).HasParts id draft := by
  set b₁ := draft.indexes.foldl (·.addIndex id ·) b with hb₁
  set b₂ := draft.foreignKeys.foldl (·.addForeignKey id ·) b₁ with hb₂
  have hgrows₁ : b.Grows b₁ := Grows.foldl (fun b d => .addIndex b id d) draft.indexes b
  have hgrows₂ : b₁.Grows b₂ := Grows.foldl (fun b d => .addForeignKey b id d) draft.foreignKeys b₁
  have hgrows₃ : b₂.Grows (b.addParts id draft) :=
    Grows.foldl (fun b d => .addCheck b id d) draft.checks b₂
  -- what was added first is still there after the rest, since nothing is lost
  constructor
  case indexes =>
    have hindexes := has_foldl (P := fun b d => b.HasIndex id d) (fun b d => .addIndex b id d)
      (fun d ht => hasIndex_addIndex ht d) (fun h hd => h.hasIndex hd) draft.indexes ht
    exact fun d hd => (hgrows₂.trans hgrows₃).keeps.hasIndex (hindexes d hd)
  case foreignKeys =>
    have hkeys := has_foldl (P := fun b d => b.HasForeignKey id d)
      (fun b d => .addForeignKey b id d) (fun {b} d _ => hasForeignKey_addForeignKey b id d)
      (fun h hd => h.hasForeignKey hd) draft.foreignKeys (hgrows₁.keeps.isSome ht)
    exact fun d hd => hgrows₃.keeps.hasForeignKey (hkeys d hd)
  case checks =>
    exact has_foldl (P := fun b d => b.HasCheck id d) (fun b d => .addCheck b id d)
      (fun d ht => hasCheck_addCheck ht d) (fun h hd => h.hasCheck hd) draft.checks
      ((hgrows₁.trans hgrows₂).keeps.isSome ht)

/-- Constraints that are added to a table: of what the draft asks for nothing is lost, and no other
table is touched. -/
theorem hasParts_addConstraints {draft : TableDraft} (ht : b.model.table? id = some t)
    (hr : b.addConstraints id draft = (.ok (), b')) : b'.HasParts id draft
      ∧ (∀ k, k ≠ id → b'.model.table? k = b.model.table? k)
      ∧ ∃ t', b'.model.table? id = some t' ∧ Constrained draft.indexes t t'
        ∧ (draft.primaryKey = [] → t'.primaryKey = t.primaryKey)
        ∧ (draft.primaryKey ≠ [] → resolveKeys t' draft.primaryKey = .ok t'.primaryKey) := by
  obtain ⟨b₁, rfl, hothers, cs, parts, ht₁, hcs, hnone, hsome⟩ := addConstraints_ok ht hr
  have hextends := extends_addParts b₁ id draft
  refine ⟨hasParts_addParts (by rw [ht₁]; rfl) draft,
    fun k hk => (hextends.others k hk).trans (hothers k hk), ?_⟩
  -- columns that became part of the key are still found by their names
  obtain ⟨is, checks, ht', hfollow⟩ := hextends.table _ ht₁
  have hcore : cs.map Column.core = t.columns.map Column.core := map_core_of_tightened hcs
  refine ⟨_, ht', ⟨rfl, rfl, hcs, is, rfl, fun i hi => ?_⟩, hnone, fun hne => ?_⟩
  · obtain ⟨d, hd, hf⟩ := hfollow i hi
    exact ⟨d, hd, hf.congr rfl⟩
  · exact (resolveKeys_congr (t := t) hcore _).trans (hsome hne)

/-! ## New tables -/

/-- Columns are made as they were described. -/
theorem follows_allocateColumns {m m' : Model} {seen : List String} {ds : List ColumnDraft}
    {cs : List Column} (h : allocateColumns m seen ds = (.ok cs, m')) :
    List.Forall₂ Column.Follows ds cs := by
  induction ds generalizing m seen cs with
  | nil =>
    cases h
    exact .nil
  | cons d ds ih =>
    unfold allocateColumns at h
    simp only [Model.allocate] at h
    split at h
    · cases h
    split at h
    · rename_i heq
      cases h
      exact .cons ⟨rfl, rfl, fun h => h, rfl, rfl, rfl⟩ (ih heq)
    · cases h

/-- What is said of a table that the policy leaves out. -/
def skippedIssue (draft : TableDraft) (other : Table) : Issue :=
  .raise .nameCollision .reader .schema
    ("Table " ++ qualifiedName draft.nspace draft.name ++ " skipped: its name collides with "
      ++ qualifiedName other.nspace other.sourceName ++ ".")

/-- A table that is all its draft asks for, with no other index. -/
structure Holds (b : Builder) (id : TableId) (t : Table) (draft : TableDraft) : Prop where
  found : b.model.table? id = some t
  nspace : t.nspace = draft.nspace
  sourceName : t.sourceName = draft.name
  columns : List.Forall₂ Column.Follows draft.columns t.columns
  key : resolveKeys t draft.primaryKey = .ok t.primaryKey
  parts : b.HasParts id draft
  nothingElse : ∀ i ∈ t.indexes, ∃ d ∈ draft.indexes, i.Follows t d

/-- A table with more issues about it is still all that its draft asks for. -/
theorem Holds.issues {draft : TableDraft} (h : b.Holds id t draft)
    (htables : b'.model.tables = b.model.tables) (hkeeps : b.Keeps b') : b'.Holds id t draft := by
  refine ⟨?_, h.nspace, h.sourceName, h.columns, h.key, hkeeps.hasParts h.parts, h.nothingElse⟩
  rw [Model.table?_eq_tableIn, htables]
  exact h.found

/-- The choice of a name changes nothing yet. -/
theorem chooseName_some {draft : TableDraft} {choice : String × Option String}
    (hc : b.chooseName draft = (.ok (some choice), b')) : b' = b := by
  unfold chooseName at hc
  split at hc
  · cases hc
    rfl
  · split at hc <;> cases hc
    rfl

/-- The new table, among the others. -/
theorem table?_placeTable (h : ∀ e ∈ b.model.tables, e.1.val < id.val) (draft : TableDraft)
    (name : String) (collided : Option String) (columns : List Column) (k : TableId) :
    (b.placeTable id draft name collided columns).model.table? k
      = (b.model.table? k).or (if id = k then some { Table.empty id name with
        nspace := draft.nspace, sourceName := draft.name, columns } else none) := by
  have htables : (b.placeTable id draft name collided columns).model.tables
      = Model.insertSorted id { Table.empty id name with
        nspace := draft.nspace, sourceName := draft.name, columns } b.model.tables := by
    cases collided <;> rfl
  rw [Model.table?_eq_tableIn, htables, insertSorted_eq_append h, tableIn_append_singleton]
  rfl

/-- A table that the policy leaves out is named in an issue, and nothing else changes. -/
theorem addTable_none {draft : TableDraft} (hr : b.addTable draft = (.ok none, b')) :
    ∃ other, b' = { b with model := b.model.addIssue (skippedIssue draft other) } := by
  unfold addTable at hr
  rcases hname : b.chooseName draft with ⟨_ | _ | choice, b₁⟩
  all_goals rw [hname] at hr
  case error => cases hr
  case ok.none =>
    cases hr
    unfold chooseName at hname
    split at hname
    · cases hname
    · rename_i other _
      split at hname <;> cases hname
      exact ⟨other, rfl⟩
  case ok.some =>
    dsimp only [Model.allocate] at hr
    split at hr
    · cases hr
    · split at hr <;> cases hr

/-- A table that is added is all its draft asks for and takes no other's place. -/
theorem holds_addTable (h : b.Sound) {draft : TableDraft}
    (hr : b.addTable draft = (.ok (some id), b')) : b.model.table? id = none
      ∧ (∀ k, k ≠ id → b'.model.table? k = b.model.table? k) ∧ ∃ t, b'.Holds id t draft := by
  unfold addTable at hr
  rcases hname : b.chooseName draft with ⟨_ | _ | ⟨name, collided⟩, b₁⟩
  all_goals rw [hname] at hr
  case error | ok.none => cases hr
  obtain rfl := chooseName_some hname
  dsimp only [Model.allocate] at hr
  rcases hcols : allocateColumns { b₁.model with nextId := b₁.model.nextId + 1 } [] draft.columns with
    ⟨_ | columns, model⟩
  all_goals rw [hcols] at hr
  case error => cases hr
  obtain ⟨rfl, -⟩ := allocateColumns_spec hcols
  dsimp only at hr
  split at hr
  · cases hr
  rename_i b₂ hadd
  cases hr
  -- the identifier is a new one, so that the table hides no other
  set id : TableId := ⟨b₁.model.nextId⟩ with hid
  have hlast : ∀ e ∈ b₁.model.tables, e.1.val < id.val := fun e he => h.model.key_lt he
  have hnone : b₁.model.table? id = none := by
    rw [← Option.not_isSome_iff_eq_none, Model.table?_eq_tableIn, isSome_tableIn_iff]
    intro hmem
    obtain ⟨e, he, hkey⟩ := List.mem_map.1 hmem
    exact Nat.lt_irrefl _ (hkey ▸ hlast e he)
  have hplace := table?_placeTable (b := { b₁ with model := { b₁.model with
    nextId := b₁.model.nextId + 1 + draft.columns.length } }) hlast draft name collided columns
  have hfound := (hplace id).trans (congrArg (Option.or · _) hnone)
  rw [if_pos rfl] at hfound
  obtain ⟨hparts, hothers, t, ht, hconstrained, hplain, hkeyed⟩ := hasParts_addConstraints hfound hadd
  refine ⟨hnone, fun k hk => ?_, t, ht, hconstrained.nspace, hconstrained.sourceName, ?_, ?_,
    hparts, ?_⟩
  · rw [hothers k hk, hplace k, if_neg (Ne.symm hk), Option.or_none]
    rfl
  · exact forall₂_comp (fun _ _ _ hf hc => hf.tightened hc) (follows_allocateColumns hcols)
      hconstrained.columns
  · by_cases hempty : draft.primaryKey = []
    · rw [hplain hempty, hempty]
      rfl
    · exact hkeyed hempty
  · obtain ⟨is, hindexes, hfollow⟩ := hconstrained.indexes
    rw [hindexes]
    exact hfollow

end Builder

end SchemaBridge
